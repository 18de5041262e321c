import AccountStore.Text.Digits
import AccountStore.Text.Split

/-!
Host names and literal addresses, as they stand after the at sign of an e-mail address.

A host name is a list of labels of letters, digits and inner hyphens, at most 63 characters each. A
literal is an internet address in brackets; only the end of the text is looked at for one.
-/

namespace AccountStore.Email
open Text

/-- ASCII letters of either case and digits. -/
def isLetterOrDigit (c : Char) : Bool :=
  c.isAlpha || isDigit c

def isLabel (cs : List Char) : Bool :=
  match cs with
  | [] => false
  | first :: _ =>
      cs.length ≤ 63 && cs.all (fun c => isLetterOrDigit c || c = '-') && isLetterOrDigit first &&
        isLetterOrDigit (cs.getLastD first)

def isHostName (cs : List Char) : Bool :=
  (splitAll '.' cs).all isLabel

def isHex (c : Char) : Bool :=
  isDigit c || ('a' ≤ c && c ≤ 'f') || ('A' ≤ c && c ≤ 'F')

/-- A number up to 255 without leading zeros. -/
def isOctet (cs : List Char) : Bool :=
  !cs.isEmpty && cs.length ≤ 3 && cs.all isDigit && (cs.length = 1 || cs.head? != some '0') &&
    value cs ≤ 255

/-- Four numbers up to 255 with points between. -/
def isShortAddress (cs : List Char) : Bool :=
  let parts := splitAll '.' cs
  parts.length = 4 && parts.all isOctet

def isGroup (cs : List Char) : Bool :=
  !cs.isEmpty && cs.length ≤ 4 && cs.all isHex

/-- The number of 16-bit groups of a text with colons between them; a short address may stand for
the last two. -/
def groupCount? (shortAllowed : Bool) (cs : List Char) : Option Nat :=
  if cs.isEmpty then some 0
  else
    let parts := splitAll ':' cs
    let last := parts.getLastD []
    if parts.all isGroup then some parts.length
    else if shortAllowed ∧ parts.dropLast.all isGroup ∧ isShortAddress last then
      some (parts.length + 1)
    else none

/-- Splits a text at its first pair of colons. -/
def splitDoubleColon? : List Char → Option (List Char × List Char)
  | ':' :: ':' :: rest => some ([], rest)
  | c :: rest => (splitDoubleColon? rest).map fun (before, after) => (c :: before, after)
  | [] => none

/-- Eight groups, or fewer with a pair of colons in place of those left out. -/
def isLongAddress (cs : List Char) : Bool :=
  match splitDoubleColon? cs with
  | none => groupCount? true cs == some 8
  | some (before, after) =>
      match groupCount? false before, groupCount? true after with
      | some m, some n => m + n ≤ 7
      | _, _ => false

/-- The text ends in an internet address in brackets. -/
def endsInLiteral (cs : List Char) : Bool :=
  match splitLast? '[' cs with
  | none => false
  | some (_, rest) =>
      let address := rest.dropLast
      rest.getLast? == some ']' && (isShortAddress address || isLongAddress address)

/-- The text is a host name or ends in a literal. -/
def isHost (cs : List Char) : Bool :=
  isHostName cs || endsInLiteral cs

example : isHost "b.c".toList ∧ isHost "1".toList ∧ isHost "[::1]".toList ∧
    isHost "[1:2:3:4:5:6:1.2.3.4]".toList ∧ ¬isHost "b..c".toList ∧ ¬isHost "-b".toList ∧
    ¬isHost "[:::1]".toList ∧ ¬isHost "[256.0.0.1]".toList ∧ ¬isHost "[01.0.0.1]".toList ∧
    ¬isHost "[1:2:3:4:5:6:7::8:9]".toList := by decide +kernel

end AccountStore.Email
