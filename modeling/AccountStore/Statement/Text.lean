import AccountStore.Statement.Basic

/-!
The texts of statements.

A statement is sent as a text with placeholders and, beside it, the values for these. Nothing that a
caller supplies is ever part of the text. Statements on whole accounts are written as fixed text and
values in between, which are numbered as they come. The others are written out, with the numbers in
their texts and their values listed apart.
-/

namespace AccountStore
open Text

/-- A part of a statement's text. -/
inductive Piece where
  | fixed (s : String)
  | bound (v : Value)

def quote (name : String) : String :=
  "\"" ++ name ++ "\""

namespace Clause

def pieces (table : Table) : Clause → List Piece
  | live => [.fixed (quote (Column.deletedAt.name table) ++ " IS NULL")]
  | equals column value => [.fixed (quote (column.name table) ++ " = "), .bound value]

end Clause

namespace Piece

/-- Joins lists of pieces with a text between them. -/
def joined (separator : String) : List (List Piece) → List Piece
  | [] => []
  | [ps] => ps
  | ps :: rest => ps ++ .fixed separator :: joined separator rest

/-- Replaces bound values by placeholders, numbered from `first`. -/
def placeholders (first : Nat) : List Piece → List Char
  | [] => []
  | fixed s :: rest => s.toList ++ placeholders first rest
  | bound _ :: rest => '$' :: decimal first ++ placeholders (first + 1) rest

def values : List Piece → List Value
  | [] => []
  | fixed _ :: rest => values rest
  | bound v :: rest => v :: values rest

/-- The text of the pieces with placeholders numbered from one, and the values for these. -/
def rendered (ps : List Piece) : String × List Value :=
  (String.ofList (placeholders 1 ps), values ps)

end Piece

/-- The place of a value in a statement's text. -/
def placeholder (number : Nat) : String :=
  "$" ++ String.ofList (decimal number)

/-- The text of a predicate, with placeholders numbered from `first`, and the values for these. It
stands in parentheses, so that further conditions can follow. -/
def ContactPredicate.render (first : Nat) : ContactPredicate → String × List Value
  | phone p => (s!"(phone_number = {placeholder first})", [.text (some p)])
  | both p e =>
      (s!"(phone_number = {placeholder first} AND email = {placeholder (first + 1)})",
       [.text (some p), .text (some e)])
  | either p e =>
      (s!"(phone_number = {placeholder first} OR email = {placeholder (first + 1)})",
       [.text (some p), .text (some e)])

namespace Statement

def names (table : Table) (columns : List Column) : String :=
  ", ".intercalate (columns.map fun c => quote (c.name table))

/-- The clauses after a statement's head. -/
def whereClause (table : Table) : List Clause → List Piece
  | [] => []
  | clauses => .fixed " WHERE " :: Piece.joined " AND " (clauses.map (·.pieces table))

def windowClause : Option Window → List Piece
  | none => []
  | some w =>
      [.fixed " LIMIT ", .bound (.bigunsigned (some w.limit)), .fixed " OFFSET ",
       .bound (.bigunsigned (some w.offset))]

def assignment (table : Table) (a : Column × Assigned) : List Piece :=
  .fixed (quote (a.1.name table) ++ " = ") ::
    match a.2 with
    | .value v => [.bound v]
    | .currentTime => [.fixed "CURRENT_TIMESTAMP"]

def selection (t : Table) (columns : List Column) (clauses : List Clause) (ordered : Bool)
    (window : Option Window) : List Piece :=
  .fixed s!"SELECT {names t columns} FROM {quote t.name}" ::
    whereClause t clauses ++
    (if ordered then [.fixed s!" ORDER BY {quote (Column.ordinal.name t)} ASC"] else []) ++
    windowClause window

def insertion (t : Table) (cells : List (Column × Value)) (returning : Bool) : List Piece :=
  .fixed s!"INSERT INTO {quote t.name} ({names t (cells.map (·.1))})" ::
    .fixed " VALUES (" :: Piece.joined ", " (cells.map fun c => [.bound c.2]) ++ [.fixed ")"] ++
    (if returning then [.fixed s!" RETURNING {names t t.projection}"] else [])

def replacement (t : Table) (assignments : List (Column × Assigned)) (clauses : List Clause) :
    List Piece :=
  .fixed s!"UPDATE {quote t.name} SET " ::
    Piece.joined ", " (assignments.map (assignment t)) ++ whereClause t clauses

/-- The text as sent, and the values sent beside it. -/
def rendered : Statement → String × List Value
  | select t columns clauses ordered window =>
      Piece.rendered (selection t columns clauses ordered window)
  | insert t cells returning => Piece.rendered (insertion t cells returning)
  | update t assignments clauses => Piece.rendered (replacement t assignments clauses)
  | count t column value =>
      (s!"SELECT count(1) AS count FROM {t.name} WHERE {column.name t} = $1" ++
        " AND deleted_at IS NULL", [.text (some value)])
  | found t predicate =>
      let (condition, values) := predicate.render 1
      (s!"SELECT EXISTS(SELECT 1 FROM {t.name} WHERE {condition} AND deleted_at IS NULL) AS found",
       values)
  | setPassword t predicate password =>
      let (condition, values) := predicate.render 2
      (s!"UPDATE {t.name} SET password = $1 WHERE {condition} AND deleted_at IS NULL",
       .text (some password) :: values)
  | setRefreshToken t id token =>
      (s!"UPDATE {t.name} SET refresh_token = $1 WHERE id = $2 AND deleted_at IS NULL",
       [.text (some token), .text (some id)])

/-- The text as sent, with placeholders. -/
def text (s : Statement) : String :=
  s.rendered.1

/-- The values sent beside the text, in the order of their placeholders. -/
def values (s : Statement) : List Value :=
  s.rendered.2

end Statement

namespace Value

/-- The escape of a character in a text literal, if it needs one. -/
def escape? : Char → Option Char
  | '\\' => some '\\'
  | '"' => some '"'
  | '\'' => some '\''
  | '\x00' => some '0'
  | '\x08' => some 'b'
  | '\t' => some 't'
  | '\x1a' => some 'z'
  | '\n' => some 'n'
  | '\r' => some 'r'
  | _ => none

/-- A text literal; one with escapes is marked by `E`. -/
def textLiteral (s : String) : List Char :=
  let body := s.toList.flatMap fun c => match escape? c with
    | some e => ['\\', e]
    | none => [c]
  (if body.contains '\\' then ['E'] else []) ++ '\'' :: body ++ ['\'']

/-- The value as it is written inside a statement. Of two shortest decimals of a number that are
equally near, the one farther from zero is taken. -/
def literal : Value → List Char
  | .text (some s) => textLiteral s
  | .bigint (some n) => signed n
  | .bigunsigned (some n) => decimal n.toNat
  | .int (some n) => signed n
  | .bool (some b) => (if b then "TRUE" else "FALSE").toList
  | .float (some x) => (Number.plainText (x.decimal? .away) x.isNegative).toList
  | .double (some x) => (Number.plainText (x.decimal? .away) x.isNegative).toList
  | .timestamp (some t) => '\'' :: t.sqlText.toList ++ ['\'']
  | _ => "NULL".toList

end Value

/-- The text of the pieces with their values spelled out. -/
def Piece.inline (ps : List Piece) : String :=
  String.ofList (ps.flatMap fun
    | .fixed f => f.toList
    | .bound v => v.literal)

end AccountStore
