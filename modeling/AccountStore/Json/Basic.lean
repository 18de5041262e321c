import AccountStore.Number.Real

/-!
JSON values.

An object keeps its members in the order in which they were written or are to be written. Whole
numbers and decimals are told apart by their spelling: a number with a point or an exponent is a
decimal, and so is minus zero.
-/

namespace AccountStore
open Number

inductive Json where
  | null
  | bool (b : Bool)
  | int (n : Int)
  | real (d : Decimal)
  | string (s : String)
  | array (items : List Json)
  | object (members : List (String × Json))

namespace Json

/-- The value of an object's member. -/
def member? (members : List (String × Json)) (key : String) : Option Json :=
  (members.find? fun m => m.1 == key).map (·.2)

/-- A number of single precision; an infinite one has no JSON number and becomes null. Ties between
decimals go to the even one. -/
def ofReal32 (x : Real32) : Json :=
  match x.decimal? .even with
  | some d => .real d
  | none => .null

end Json
end AccountStore
