import AccountStore.Account.Column
import AccountStore.Email.Address
import AccountStore.Number.Real
import AccountStore.Sort

/-!
Rules that an account's fields must satisfy, and the violations found in one.

Lengths count characters.
-/

namespace AccountStore
open Number

/-- A rule that a field's value breaks. -/
inductive BrokenRule where
  | length (least : Option Nat) (greatest : Nat) (value : String)
  | email (value : String)
  /-- A real number below zero. -/
  | negativeReal (value : Real32)
  /-- A whole number below zero. -/
  | negativeWhole (value : Int)
deriving DecidableEq

namespace BrokenRule

def code : BrokenRule → String
  | length .. => "length"
  | email _ => "email"
  | negativeReal _ => "range"
  | negativeWhole _ => "range"

end BrokenRule

structure Violation where
  column : Column
  rule : BrokenRule
deriving DecidableEq

namespace Violation

/-- The violation of a length rule, if there is one. -/
def ofLength (column : Column) (least : Option Nat) (greatest : Nat) (value : String) :
    List Violation :=
  if least.getD 0 ≤ value.length ∧ value.length ≤ greatest then []
  else [⟨column, .length least greatest value⟩]

def ofEmail (column : Column) (value : String) : List Violation :=
  if Email.isAddress value then [] else [⟨column, .email value⟩]

def ofReal (column : Column) (value : Real32) : List Violation :=
  if value.isBelowZero then [⟨column, .negativeReal value⟩] else []

def ofWhole (column : Column) (value : Int) : List Violation :=
  if value < 0 then [⟨column, .negativeWhole value⟩] else []

/-- The line of a message about one violation. Columns of rules have one name in both tables. -/
def line (v : Violation) : String :=
  s!"{v.column.name .users}: Validation error: {v.rule.code}"

/-- One line for each violation, sorted. -/
def message (violations : List Violation) : String :=
  "\n".intercalate (sorted (fun a b => a ≤ b) (violations.map line))

end Violation
end AccountStore
