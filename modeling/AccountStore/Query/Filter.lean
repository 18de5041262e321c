import AccountStore.Calendar.Reader
import AccountStore.Error
import AccountStore.Json.Decode
import AccountStore.Statement.Basic

/-!
Filters: which accounts a listing selects. All filters of a list must hold.
-/

namespace AccountStore
open Calendar

inductive Filter where
  | byId (id : String)
  | byCreatedAt (instant : Instant)
deriving DecidableEq

namespace Filter

/-- The filter of a key and a value as text. Unknown keys are refused. -/
def ofPair (key value : String) : Except Rejection Filter :=
  match key with
  | "id" => .ok (.byId value)
  | "created_at" =>
      match readFilterTime? value with
      | some t => .ok (.byCreatedAt t)
      | none => .error (.createdAt value)
  | _ => .error (.filterKey key)

/-- The filters of a map from keys to values, in the order of the keys. -/
def ofMap (entries : List (String × String)) : Except Rejection (List Filter) :=
  (sorted (fun a b => a.1 ≤ b.1) entries).mapM fun entry => ofPair entry.1 entry.2

def clause : Filter → Clause
  | byId id => .equals .id (.text (some id))
  | byCreatedAt t => .equals .createdAt (.timestamp (some t))

def toJson : Filter → Json
  | byId id => .object [("by_id", .string id)]
  | byCreatedAt t => .object [("by_created_at", .string t.text)]

def ofJson : Json → Except DecodeError Filter := fun j => do
  let (name, content) ← Json.Decode.tagged j
  match name with
  | "by_id" => carried content fun j => byId <$> Json.Decode.text j
  | "by_created_at" => carried content fun j => byCreatedAt <$> Json.Decode.time j
  | _ => .error (.unknownVariant name ["by_id", "by_created_at"])
where
  /-- Reads the value that a name must carry. -/
  carried (content : Option Json) (read : Json → Except DecodeError Filter) :
      Except DecodeError Filter :=
    match content with
    | some j => read j
    | none => .error .bareVariant

end Filter
end AccountStore
