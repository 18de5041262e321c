import AccountStore.Json.Basic
import AccountStore.Text.Digits

/-!
Reading JSON texts.

A text is read whole or not at all. If an object has two members of one name, the later value
stands in the earlier one's place. Pairs of `\u` escapes that spell a surrogate pair give one
character; a lone surrogate is refused.
-/

namespace AccountStore.Json
open Number Text

def isSpace (c : Char) : Bool :=
  c = ' ' || c = '\t' || c = '\n' || c = '\r'

def skipSpace (cs : List Char) : List Char :=
  cs.dropWhile isSpace

def hexValue? (c : Char) : Option Nat :=
  if isDigit c then some (digitValue c)
  else if 'a' ≤ c ∧ c ≤ 'f' then some (c.toNat - 87)
  else if 'A' ≤ c ∧ c ≤ 'F' then some (c.toNat - 55)
  else none

/-- The number that four hexadecimal digits denote. -/
def unit? (a b c d : Char) : Option Nat := do
  some (((← hexValue? a) * 16 + (← hexValue? b)) * 256 + (← hexValue? c) * 16 + (← hexValue? d))

/-- The character that a letter stands for after a backslash. -/
def shortEscape? : Char → Option Char
  | '"' => some '"'
  | '\\' => some '\\'
  | '/' => some '/'
  | 'b' => some '\x08'
  | 'f' => some '\x0c'
  | 'n' => some '\n'
  | 'r' => some '\r'
  | 't' => some '\t'
  | _ => none

/-- Reads a text up to its closing quote; `before` holds what was read, last character first. -/
def readText (before : List Char) : List Char → Option (String × List Char)
  | [] => none
  | '"' :: rest => some (String.ofList before.reverse, rest)
  | '\\' :: 'u' :: a :: b :: c :: d :: '\\' :: 'u' :: e :: f :: g :: h :: rest => do
      let high ← unit? a b c d
      if 0xD800 ≤ high ∧ high ≤ 0xDBFF then
        let low ← unit? e f g h
        if 0xDC00 ≤ low ∧ low ≤ 0xDFFF then
          readText (Char.ofNat (0x10000 + (high - 0xD800) * 1024 + (low - 0xDC00)) :: before) rest
        else none
      else if 0xDC00 ≤ high ∧ high ≤ 0xDFFF then none
      else readText (Char.ofNat high :: before) ('\\' :: 'u' :: e :: f :: g :: h :: rest)
  | '\\' :: 'u' :: a :: b :: c :: d :: rest => do
      let code ← unit? a b c d
      if 0xD800 ≤ code ∧ code ≤ 0xDFFF then none
      else readText (Char.ofNat code :: before) rest
  | '\\' :: c :: rest => do readText ((← shortEscape? c) :: before) rest
  | c :: rest => if c.toNat < 32 then none else readText (c :: before) rest

/-- Reads an exponent, if there is one. -/
def readExponent (cs : List Char) : Option (Option Int × List Char) :=
  match cs with
  | 'e' :: rest | 'E' :: rest =>
      let (negative, rest) := match rest with
        | '-' :: r => (true, r)
        | '+' :: r => (false, r)
        | r => (false, r)
      (takeNumber 1 rest.length rest).map fun (n, rest) =>
        (some (if negative then -(n : Int) else n), rest)
  | _ => some (none, cs)

/-- Reads a number from its sign on. -/
def readNumber (cs : List Char) : Option (Json × List Char) := do
  let (negative, cs) := match cs with
    | '-' :: rest => (true, rest)
    | _ => (false, cs)
  let whole := cs.takeWhile isDigit
  if whole.isEmpty || (whole.head? == some '0' && 1 < whole.length) then none
  else
    let rest := cs.drop whole.length
    let (places, rest) ← match rest with
      | '.' :: r =>
          let digits := r.takeWhile isDigit
          if digits.isEmpty then none else some (digits, r.drop digits.length)
      | _ => some ([], rest)
    let (power, rest) ← readExponent rest
    let digits := value (whole ++ places)
    if places.isEmpty ∧ power.isNone ∧ ¬(negative ∧ digits = 0) then
      some (.int (if negative then -(digits : Int) else digits), rest)
    else some (.real ⟨negative, digits, power.getD 0 - places.length⟩, rest)

/-- Puts a member into an object, in the place of one of the same name if there is one. -/
def insert (members : List (String × Json)) (key : String) (j : Json) : List (String × Json) :=
  if members.any (·.1 == key) then members.map fun m => if m.1 == key then (key, j) else m
  else members ++ [(key, j)]

mutual

/-- Reads a value. Every call reads at least one character, so the length of the text is fuel
enough. -/
def readValue : (fuel : Nat) → List Char → Option (Json × List Char)
  | 0, _ => none
  | fuel + 1, cs =>
      match skipSpace cs with
      | 'n' :: 'u' :: 'l' :: 'l' :: rest => some (.null, rest)
      | 't' :: 'r' :: 'u' :: 'e' :: rest => some (.bool true, rest)
      | 'f' :: 'a' :: 'l' :: 's' :: 'e' :: rest => some (.bool false, rest)
      | '"' :: rest => (readText [] rest).map fun (s, rest) => (.string s, rest)
      | '[' :: rest =>
          match skipSpace rest with
          | ']' :: rest => some (.array [], rest)
          | rest => readItems fuel [] rest
      | '\x7b' :: rest =>
          match skipSpace rest with
          | '\x7d' :: rest => some (.object [], rest)
          | rest => readMembers fuel [] rest
      | cs => readNumber cs

/-- Reads the items of an array from the next one on; `before` holds those already read. -/
def readItems : (fuel : Nat) → List Json → List Char → Option (Json × List Char)
  | 0, _, _ => none
  | fuel + 1, before, cs => do
      let (j, rest) ← readValue fuel cs
      match skipSpace rest with
      | ',' :: rest => readItems fuel (j :: before) rest
      | ']' :: rest => some (.array (j :: before).reverse, rest)
      | _ => none

/-- Reads the members of an object from the next one on; `before` holds those already read. -/
def readMembers : (fuel : Nat) → List (String × Json) → List Char → Option (Json × List Char)
  | 0, _, _ => none
  | fuel + 1, before, cs => do
      match skipSpace cs with
      | '"' :: rest =>
          let (key, rest) ← readText [] rest
          match skipSpace rest with
          | ':' :: rest =>
              let (j, rest) ← readValue fuel rest
              match skipSpace rest with
              | ',' :: rest => readMembers fuel (insert before key j) rest
              | '\x7d' :: rest => some (.object (insert before key j), rest)
              | _ => none
          | _ => none
      | _ => none

end

/-- Reads a whole text as one value. -/
def ofText? (text : String) : Option Json :=
  let cs := text.toList
  match readValue (2 * cs.length + 2) cs with
  | some (j, rest) => if (skipSpace rest).isEmpty then some j else none
  | none => none

end AccountStore.Json
