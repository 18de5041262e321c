import AccountStore.Text.Split

/-!
Tables that give characters an image.

A table is written in lines of words with bars between: a word is a character and, after it, its
image. The words follow the order of their first characters, and each line comes with the code point
of the first one in it.
-/

namespace AccountStore.Text

abbrev Images := List (Nat × String)

namespace Images

/-- The line that holds a code point if any does: the last one that does not begin after it. -/
def line? : Images → Nat → Option String
  | [], _ => none
  | (first, line) :: rest, n =>
      if n < first then none else (line? rest n).orElse fun _ => some line

/-- The image of a character. -/
def image? (images : Images) (c : Char) : Option (List Char) := do
  (splitAll '|' (← images.line? c.toNat).toList).findSome? fun
    | [] => none
    | source :: image => if source = c then some image else none

end Images

example : Images.image? [(0x133, "\u0133ij"), (0x17F, "\u017Fs|\u01C4d")] '\u01C4' = some ['d'] ∧
    Images.image? [(0x133, "\u0133ij")] '\u0134' = none := by decide +kernel

end AccountStore.Text
