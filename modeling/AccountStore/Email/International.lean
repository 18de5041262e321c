import AccountStore.Email.Composed
import AccountStore.Email.Direction
import AccountStore.Email.Mapping
import AccountStore.Email.Punycode
import AccountStore.Text.Split

/-!
Host names with letters beyond ASCII, and their ASCII form.

A host name is mapped character by character, composed and cut into labels at the points. A label
that begins with `xn--` is written in Punycode and stands for what it reads as; a label may not
begin with a mark, and in a host name with right-to-left letters no label may mix directions. In the
ASCII form each label with a letter beyond ASCII is written in Punycode behind `xn--`.
-/

namespace AccountStore.Email
open Text

def beginsWithMark : List Char → Bool
  | [] => false
  | first :: _ => isMark first

def encodedStart : List Char :=
  "xn--".toList

/-- The characters that a mapped label stands for. Those of a label in Punycode have to be mapped
and composed already. -/
def readLabel? (label : List Char) : Option (List Char) := do
  let label ←
    if encodedStart.isPrefixOf label then do
      let decoded ← Punycode.decode? (label.drop encodedStart.length)
      if decoded.all isPlain && isComposed decoded then some decoded else none
    else some label
  if beginsWithMark label then none else some label

def labelToAscii (label : List Char) : List Char :=
  if label.all fun c => c.toNat < 128 then label
  else encodedStart ++ Punycode.encode label

/-- The ASCII form of a host name; none if it is not acceptable. -/
def toAscii? (host : List Char) : Option (List Char) := do
  let mapped ← mapCharacters? host
  let labels ← (splitAll '.' (composed mapped)).mapM readLabel?
  if labels.any hasRightToLeft && !labels.all keepsDirection then none
  else some (List.intercalate ['.'] (labels.map labelToAscii))

example : toAscii? "\uff2du\u0308nchen.a".toList = some "xn--mnchen-3ya.a".toList ∧
    readLabel? "xn--mnchen-3ya".toList = some "m\u00fcnchen".toList ∧
    readLabel? "\u0301a".toList = none ∧ readLabel? "xn--a".toList = none := by decide +kernel

end AccountStore.Email
