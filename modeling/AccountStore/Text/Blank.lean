import AccountStore.Text.Ranges

/-!
White space: the characters with the Unicode property White_Space.

`trim` removes them from both ends of a text. The three date readers and the numeric settings all
use this one class.
-/

namespace AccountStore.Text

/-- The code points with the property White_Space. -/
def blankRanges : Ranges :=
  [(0x09, 0x0D), (0x20, 0x20), (0x85, 0x85), (0xA0, 0xA0), (0x1680, 0x1680), (0x2000, 0x200A),
   (0x2028, 0x2029), (0x202F, 0x202F), (0x205F, 0x205F), (0x3000, 0x3000)]

def isBlank (c : Char) : Bool :=
  blankRanges.has c

def skipBlanks (cs : List Char) : List Char :=
  cs.dropWhile isBlank

/-- The text without the longest run of such characters at its end. -/
def dropEndWhile (p : Char → Bool) (cs : List Char) : List Char :=
  (cs.reverse.dropWhile p).reverse

/-- The text without white space at either end. -/
def trim (cs : List Char) : List Char :=
  dropEndWhile isBlank (skipBlanks cs)

example : "\u3000 30s\t".toList.map isBlank = [true, true, false, false, false, true] := by decide

end AccountStore.Text
