import AccountStore.Json.Basic
import AccountStore.Text.Digits

/-!
The written forms of JSON values: compact, and indented by two spaces a level.

Texts are quoted with the short escapes where there is one, `\u00..` for the other control
characters, and everything else as it is.
-/

namespace AccountStore.Json
open Number Text

/-- A character inside a quoted text. -/
def escape (c : Char) : List Char :=
  if c = '"' then ['\\', '"']
  else if c = '\\' then ['\\', '\\']
  else if c = '\n' then ['\\', 'n']
  else if c = '\r' then ['\\', 'r']
  else if c = '\t' then ['\\', 't']
  else if c = '\x08' then ['\\', 'b']
  else if c = '\x0c' then ['\\', 'f']
  else if c.toNat < 32 then
    ['\\', 'u', '0', '0', hexDigit (c.toNat / 16), hexDigit (c.toNat % 16)]
  else [c]

def quoted (s : String) : List Char :=
  '"' :: s.toList.flatMap escape ++ ['"']

/-- The text of a value that has no parts. -/
def scalar : Json → List Char
  | .null => "null".toList
  | .bool b => (if b then "true" else "false").toList
  | .int n => signed n
  | .real d => (d.layout .single).toList
  | .string s => quoted s
  | .array _ => ['[', ']']
  | .object _ => ['\x7b', '\x7d']

mutual

/-- The value without white space. -/
def compact : Json → List Char
  | .array items => '[' :: compactItems items ++ [']']
  | .object members => '\x7b' :: compactMembers members ++ ['\x7d']
  | j => scalar j

def compactItems : List Json → List Char
  | [] => []
  | [j] => compact j
  | j :: rest => compact j ++ ',' :: compactItems rest

def compactMembers : List (String × Json) → List Char
  | [] => []
  | [(key, j)] => quoted key ++ ':' :: compact j
  | (key, j) :: rest => quoted key ++ ':' :: compact j ++ ',' :: compactMembers rest

end

/-- A line break and the indentation of a level. -/
def newline (level : Nat) : List Char :=
  '\n' :: List.replicate (2 * level) ' '

mutual

/-- The value with each part on a line of its own; empty arrays and objects stay on one line. -/
def pretty (level : Nat) : Json → List Char
  | .array (j :: rest) => '[' :: prettyItems level (j :: rest) ++ newline level ++ [']']
  | .object (m :: rest) => '\x7b' :: prettyMembers level (m :: rest) ++ newline level ++ ['\x7d']
  | j => scalar j

def prettyItems (level : Nat) : List Json → List Char
  | [] => []
  | [j] => newline (level + 1) ++ pretty (level + 1) j
  | j :: rest => newline (level + 1) ++ pretty (level + 1) j ++ ',' :: prettyItems level rest

def prettyMembers (level : Nat) : List (String × Json) → List Char
  | [] => []
  | [(key, j)] => newline (level + 1) ++ quoted key ++ ':' :: ' ' :: pretty (level + 1) j
  | (key, j) :: rest =>
      newline (level + 1) ++ quoted key ++ ':' :: ' ' :: pretty (level + 1) j ++
        ',' :: prettyMembers level rest

end

def compactText (j : Json) : String :=
  String.ofList (compact j)

def prettyText (j : Json) : String :=
  String.ofList (pretty 0 j)

end AccountStore.Json
