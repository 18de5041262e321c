import AccountStore.Calendar.Reader
import AccountStore.Json.Basic
import AccountStore.Sort
import AccountStore.Text.Quoted

/-!
Reading typed values from JSON values.

A record is read by a list of named fields. From an object, faulty members are reported first, the
one with the smallest name before the others, then absent ones in the order of the fields; members
that no field names are ignored. From an array, the items are taken by position.
-/

namespace AccountStore
open Number Calendar

/-- Why a JSON value is not the form of a type. -/
inductive DecodeError where
  | missingField (name : String)
  | invalidType (found : Json) (expected : String)
  | invalidValue (found : String) (expected : String)
  | unknownVariant (name : String) (known : List String)
  /-- A bare name where the name must carry a value. -/
  | bareVariant
  /-- An array with too few or too many items. -/
  | wrongLength
  | unreadableTime

namespace Json

/-- What kind of value this is, for a message. Whole numbers that no 64-bit integer holds count as
floating point numbers. -/
def describe : Json → String
  | .null => "null"
  | .bool b => if b then "boolean `true`" else "boolean `false`"
  | .int n =>
      if -9223372036854775808 ≤ n ∧ n ≤ 18446744073709551615 then
        "integer `" ++ String.ofList (Text.signed n) ++ "`"
      else describeReal ⟨n < 0, n.natAbs, 0⟩
  | .real d => describeReal d
  | .string s => "string " ++ Text.quotedText s
  | .array _ => "sequence"
  | .object _ => "map"
where
  /-- The number as double precision holds it. -/
  describeReal (d : Decimal) : String :=
    match (Real64.ofDecimal d).decimal? .even with
    | some rounded => "floating point `" ++ rounded.layout .double ++ "`"
    | none => "number"

end Json

namespace DecodeError

/-- The names a message offers: two with `or`, more as a list. -/
def offered : List String → String
  | [a, b] => s!"expected `{a}` or `{b}`"
  | names => "expected one of " ++ ", ".intercalate (names.map fun name => "`" ++ name ++ "`")

/-- The message of an error; array lengths and times have none that callers rely on. -/
def message? : DecodeError → Option String
  | missingField name => some s!"missing field `{name}`"
  | invalidType found expected => some s!"invalid type: {found.describe}, expected {expected}"
  | invalidValue found expected => some s!"invalid value: {found}, expected {expected}"
  | unknownVariant name known => some s!"unknown variant `{name}`, {offered known}"
  | bareVariant => some "invalid type: unit variant, expected newtype variant"
  | wrongLength => none
  | unreadableTime => none

end DecodeError

namespace Json.Decode

abbrev Reader (α : Type) := Json → Except DecodeError α

def text : Reader String
  | .string s => .ok s
  | j => .error (.invalidType j "a string")

/-- Reads a whole number between two bounds. Numbers that no 64-bit integer holds are of the wrong
type, others out of bounds of the wrong value. -/
def whole (least greatest : Int) (expected : String) : Reader Int
  | .int n =>
      if least ≤ n ∧ n ≤ greatest then .ok n
      else if -9223372036854775808 ≤ n ∧ n ≤ 18446744073709551615 then
        .error (.invalidValue (Json.int n).describe expected)
      else .error (.invalidType (.int n) expected)
  | j => .error (.invalidType j expected)

def int64 : Reader Int :=
  whole (-9223372036854775808) 9223372036854775807 "i64"

def uint64 : Reader UInt64 :=
  fun j => (whole 0 18446744073709551615 "u64" j).map fun n => .ofNat n.toNat

def uint32 : Reader UInt32 :=
  fun j => (whole 0 4294967295 "u32" j).map fun n => .ofNat n.toNat

/-- Reads a number of single precision; whole numbers are rounded once, others through double
precision. -/
def real32 : Reader Real32
  | .int n =>
      if -9223372036854775808 ≤ n ∧ n ≤ 18446744073709551615 then .ok (.ofInt n)
      else .ok (.ofDecimal ⟨n < 0, n.natAbs, 0⟩)
  | .real d => .ok (.ofDecimal d)
  | j => .error (.invalidType j "f32")

def time : Reader Instant
  | .string s =>
      match readLenient? s.toList with
      | some t => .ok t
      | none => .error .unreadableTime
  | j => .error (.invalidType j "an RFC 3339 formatted date and time string")

def fault? (read : Reader α) (j : Json) : Option DecodeError :=
  match read j with
  | .ok _ => none
  | .error e => some e

/-- How a record is read: the fields' names with the faults their values can have, and the record
of the values looked up by name. -/
structure Fields (α : Type) where
  checks : List (String × (Json → Option DecodeError))
  build : (String → Option Json) → Except DecodeError α

instance : Applicative Fields where
  pure a := ⟨[], fun _ => .ok a⟩
  seq f x := ⟨f.checks ++ (x ()).checks, fun look => do (← f.build look) <$> (x ()).build look⟩

/-- A field that must be there. -/
def field (name : String) (read : Reader α) : Fields α where
  checks := [(name, fault? read)]
  build look := match look name with
    | some j => read j
    | none => .error (.missingField name)

/-- A field with a value to take if it is absent. -/
def fieldOr (absent : α) (name : String) (read : Reader α) : Fields α where
  checks := [(name, fault? read)]
  build look := match look name with
    | some j => read j
    | none => .ok absent

/-- The fault of a member that a field names. -/
def memberFault? (checks : List (String × (Json → Option DecodeError))) (member : String × Json) :
    Option DecodeError :=
  (checks.find? (·.1 == member.1)).bind fun check => check.2 member.2

def fromObject (fields : Fields α) (members : List (String × Json)) : Except DecodeError α :=
  match (sorted (fun a b => a.1 ≤ b.1) members).findSome? (memberFault? fields.checks) with
  | some e => .error e
  | none => fields.build (Json.member? members)

def fromArray (fields : Fields α) (items : List Json) : Except DecodeError α :=
  let members := (fields.checks.map (·.1)).zip items
  match members.findSome? (memberFault? fields.checks) with
  | some e => .error e
  | none =>
      match fields.build (Json.member? members) with
      | .ok value => if fields.checks.length < items.length then .error .wrongLength else .ok value
      | .error _ => .error .wrongLength

/-- Reads a record from an object or, by position, from an array. -/
def record (name : String) (fields : Fields α) : Reader α
  | .object members => fromObject fields members
  | .array items => fromArray fields items
  | j => .error (.invalidType j ("struct " ++ name))

/-- Reads a name and the value it carries: a bare text, or an object with one member. -/
def tagged : Reader (String × Option Json)
  | .string name => .ok (name, none)
  | .object [(name, j)] => .ok (name, some j)
  | .object _ => .error (.invalidValue "map" "map with a single key")
  | j => .error (.invalidType j "string or map")

/-- Reads one of a list of names; a value it carries must be null. -/
def oneOf (values : List (String × α)) : Reader α := fun j => do
  let (name, content) ← tagged j
  match values.find? (·.1 == name) with
  | none => .error (.unknownVariant name (values.map (·.1)))
  | some (_, value) =>
      match content with
      | none | some .null => .ok value
      | some other => .error (.invalidType other "unit")

end Json.Decode
end AccountStore
