import AccountStore.Proofs.Text.Digits
import AccountStore.Statement.Text

/-!
# Placeholders

The placeholders of a statement's text, read from left to right, are `$1`, `$2` and so on, as many
as the statement has values (`placeholderNumbers_text`). Where a text is put together from pieces
they are counted; where it is written out its numbers are in it, and a contact predicate goes on from
the number that it is given (`placeholderNumbers_render`).
-/

namespace AccountStore
open Text

namespace Text

/-- The numbers of the placeholders in a text, from left to right. A dollar sign without digits
counts as the number zero. -/
def placeholderNumbers : List Char → List Nat
  | [] => []
  | c :: rest =>
      if c = '$' then value (rest.takeWhile isDigit) :: placeholderNumbers rest
      else placeholderNumbers rest

theorem placeholderNumbers_append {before : List Char} (plain : '$' ∉ before) (cs : List Char) :
    placeholderNumbers (before ++ cs) = placeholderNumbers cs := by
  induction before with
  | nil => rfl
  | cons c before ih =>
      rw [List.mem_cons, not_or] at plain
      rw [List.cons_append, placeholderNumbers, if_neg (Ne.symm plain.1), ih plain.2]

theorem dollar_notMem_decimal (n : Nat) : '$' ∉ decimal n := by
  intro member
  have digit := isDigit_of_mem_decimal member
  revert digit
  decide

theorem takeWhile_decimal {cs : List Char} (apart : NoDigitFirst cs) (n : Nat) :
    (decimal n ++ cs).takeWhile isDigit = decimal n :=
  takeWhile_append (fun _ member => isDigit_of_mem_decimal member) apart

theorem placeholderNumbers_placeholder {cs : List Char} (apart : NoDigitFirst cs) (n : Nat) :
    placeholderNumbers ('$' :: decimal n ++ cs) = n :: placeholderNumbers cs := by
  rw [List.cons_append, placeholderNumbers, if_pos rfl, takeWhile_decimal apart, value_decimal,
    placeholderNumbers_append (dollar_notMem_decimal n)]

theorem toList_placeholder (n : Nat) : (placeholder n).toList = '$' :: decimal n := by
  rw [placeholder, String.toList_append, String.toList_ofList]
  simp

end Text

/-! ## Pieces -/

namespace Piece

/-- The text of the pieces does not begin with a digit. -/
def Opens : List Piece → Prop
  | [] => True
  | fixed s :: _ => ∃ c cs, s.toList = c :: cs ∧ isDigit c = false
  | bound _ :: _ => True

/-- No fixed text has a dollar sign, and none that follows a value begins with a digit. -/
def Spaced : List Piece → Prop
  | [] => True
  | fixed s :: rest => '$' ∉ s.toList ∧ Spaced rest
  | bound _ :: rest => Opens rest ∧ Spaced rest

theorem noDigitFirst_of_opens {ps : List Piece} (opens : Opens ps) (first : Nat) :
    NoDigitFirst (placeholders first ps) := by
  cases ps with
  | nil => exact noDigitFirst_nil
  | cons p rest =>
      cases p with
      | fixed s =>
          obtain ⟨c, cs, eq, apart⟩ := opens
          rw [placeholders, eq]
          exact noDigitFirst_cons apart
      | bound v => exact noDigitFirst_cons (by decide)

theorem placeholderNumbers_placeholders {ps : List Piece} (spaced : Spaced ps) (first : Nat) :
    placeholderNumbers (placeholders first ps) = List.range' first (values ps).length := by
  induction ps generalizing first with
  | nil => rfl
  | cons p rest ih =>
      cases p with
      | fixed s =>
          obtain ⟨plain, spaced⟩ := spaced
          rw [placeholders, placeholderNumbers_append plain, ih spaced]
          rfl
      | bound v =>
          obtain ⟨opens, spaced⟩ := spaced
          rw [placeholders, placeholderNumbers_placeholder (noDigitFirst_of_opens opens _),
            ih spaced]
          rfl

theorem Spaced.append {ps qs : List Piece} (left : Spaced ps) (right : Spaced qs)
    (opens : Opens qs) : Spaced (ps ++ qs) := by
  induction ps with
  | nil => exact right
  | cons p rest ih =>
      cases p with
      | fixed s => exact ⟨left.1, ih left.2⟩
      | bound v =>
          refine ⟨?_, ih left.2⟩
          cases rest with
          | nil => exact opens
          | cons q rest => cases q <;> exact left.1

theorem spaced_joined {separator : String} (plain : '$' ∉ separator.toList)
    (opens : Opens [.fixed separator]) {parts : List (List Piece)}
    (spaced : ∀ ps ∈ parts, Spaced ps) : Spaced (joined separator parts) := by
  induction parts with
  | nil => trivial
  | cons ps rest ih =>
      have spacedRest := ih fun qs member => spaced qs (List.mem_cons_of_mem _ member)
      cases rest with
      | nil => exact spaced ps List.mem_cons_self
      | cons qs rest => exact (spaced ps List.mem_cons_self).append ⟨plain, spacedRest⟩ opens

theorem placeholderNumbers_rendered {ps : List Piece} (spaced : Spaced ps) :
    placeholderNumbers (rendered ps).1.toList = List.range' 1 (rendered ps).2.length := by
  rw [rendered, String.toList_ofList]
  exact placeholderNumbers_placeholders spaced 1

end Piece

/-! ## Statements that are put together -/

section Statements

variable {t : Table}

theorem notMem_toList_append {c : Char} {s t : String} (left : c ∉ s.toList)
    (right : c ∉ t.toList) : c ∉ (s ++ t).toList := by
  rw [String.toList_append, List.mem_append]
  exact not_or.2 ⟨left, right⟩

theorem Table.dollar_notMem_name (t : Table) : '$' ∉ t.name.toList := by
  cases t <;> decide

theorem Column.dollar_notMem_name (t : Table) (c : Column) : '$' ∉ (c.name t).toList := by
  cases t <;> cases c <;> decide

theorem dollar_notMem_quote {name : String} (plain : '$' ∉ name.toList) :
    '$' ∉ (quote name).toList :=
  notMem_toList_append (notMem_toList_append (by decide) plain) (by decide)

theorem notMem_intercalate {c : Char} {separator : List Char} (plain : c ∉ separator)
    {parts : List (List Char)} (each : ∀ part ∈ parts, c ∉ part) :
    c ∉ separator.intercalate parts := by
  induction parts with
  | nil => simp
  | cons part rest ih =>
      have first := each part List.mem_cons_self
      have later := ih fun p member => each p (List.mem_cons_of_mem _ member)
      cases rest with
      | nil => simpa using first
      | cons next rest =>
          rw [List.intercalate_cons_cons]
          simp only [List.mem_append, not_or]
          exact ⟨⟨first, plain⟩, later⟩

theorem Statement.dollar_notMem_names (t : Table) (columns : List Column) :
    '$' ∉ (names t columns).toList := by
  rw [names, String.toList_intercalate]
  refine notMem_intercalate (by decide) fun part member => ?_
  simp only [List.map_map, List.mem_map] at member
  obtain ⟨c, _, rfl⟩ := member
  exact dollar_notMem_quote (c.dollar_notMem_name t)

open Piece

theorem Clause.spaced_pieces (clause : Clause) : Spaced (clause.pieces t) := by
  cases clause with
  | live =>
      have name := dollar_notMem_quote (Column.dollar_notMem_name t .deletedAt)
      exact ⟨notMem_toList_append name (by decide), trivial⟩
  | equals column value =>
      have name := dollar_notMem_quote (Column.dollar_notMem_name t column)
      exact ⟨notMem_toList_append name (by decide), trivial, trivial⟩

namespace Statement

theorem spaced_whereClause (t : Table) (clauses : List Clause) :
    Spaced (whereClause t clauses) ∧ Opens (whereClause t clauses) := by
  cases clauses with
  | nil => exact ⟨trivial, trivial⟩
  | cons clause rest =>
      refine ⟨⟨by decide, spaced_joined (by decide) ⟨' ', _, rfl, rfl⟩ fun ps member => ?_⟩,
        ' ', _, rfl, rfl⟩
      obtain ⟨c, _, rfl⟩ := List.mem_map.1 member
      exact c.spaced_pieces

theorem spaced_windowClause (window : Option Window) :
    Spaced (windowClause window) ∧ Opens (windowClause window) := by
  cases window with
  | none => exact ⟨trivial, trivial⟩
  | some w =>
      exact ⟨⟨by decide, ⟨' ', _, rfl, rfl⟩, by decide, trivial, trivial⟩, ' ', _, rfl, rfl⟩

theorem spaced_assignment (a : Column × Assigned) : Spaced (assignment t a) := by
  obtain ⟨c, v⟩ := a
  have name := dollar_notMem_quote (c.dollar_notMem_name t)
  cases v with
  | value v => exact ⟨notMem_toList_append name (by decide), trivial, trivial⟩
  | currentTime => exact ⟨notMem_toList_append name (by decide), by decide, trivial⟩

theorem spaced_optional {s : String} (plain : '$' ∉ s.toList) (opens : Opens [.fixed s])
    (b : Bool) : Spaced (if b then [.fixed s] else []) ∧ Opens (if b then [.fixed s] else []) := by
  cases b with
  | true => exact ⟨⟨plain, trivial⟩, opens⟩
  | false => exact ⟨trivial, trivial⟩

theorem opens_fixed_append {s : String} (opens : Opens [.fixed s]) (rest : String) :
    Opens [.fixed (s ++ rest)] := by
  obtain ⟨c, cs, eq, apart⟩ := opens
  exact ⟨c, cs ++ rest.toList, by rw [String.toList_append, eq, List.cons_append], apart⟩

theorem spaced_selection (t : Table) (columns : List Column) (clauses : List Clause)
    (ordered : Bool) (window : Option Window) :
    Spaced (selection t columns clauses ordered window) := by
  obtain ⟨clauses, opensClauses⟩ := spaced_whereClause t clauses
  obtain ⟨window, opensWindow⟩ := spaced_windowClause window
  have ordinal := dollar_notMem_quote (Column.dollar_notMem_name t .ordinal)
  obtain ⟨order, opensOrder⟩ := spaced_optional
    (s := s!" ORDER BY {quote (Column.ordinal.name t)} ASC")
    (notMem_toList_append (notMem_toList_append (by decide) ordinal) (by decide))
    (opens_fixed_append (opens_fixed_append ⟨' ', _, rfl, rfl⟩ _) _) ordered
  refine ⟨notMem_toList_append (notMem_toList_append (notMem_toList_append (by decide)
    (dollar_notMem_names t columns)) (by decide)) (dollar_notMem_quote t.dollar_notMem_name), ?_⟩
  exact (clauses.append order opensOrder).append window opensWindow

theorem spaced_insertion (t : Table) (cells : List (Column × Value)) (returning : Bool) :
    Spaced (insertion t cells returning) := by
  obtain ⟨returns, opensReturns⟩ := spaced_optional
    (s := s!" RETURNING {names t t.projection}")
    (notMem_toList_append (by decide) (dollar_notMem_names t _))
    (opens_fixed_append ⟨' ', _, rfl, rfl⟩ _) returning
  have values : Spaced (joined ", " (cells.map fun c => [.bound c.2])) := by
    refine spaced_joined (by decide) ⟨',', _, rfl, rfl⟩ fun ps member => ?_
    obtain ⟨c, _, rfl⟩ := List.mem_map.1 member
    exact ⟨trivial, trivial⟩
  refine ⟨?_, by decide, ?_⟩
  · exact notMem_toList_append (notMem_toList_append (notMem_toList_append (notMem_toList_append
      (by decide) (dollar_notMem_quote t.dollar_notMem_name)) (by decide))
      (dollar_notMem_names t _)) (by decide)
  · have close : Spaced [.fixed ")"] := ⟨by decide, trivial⟩
    exact (values.append close ⟨')', _, rfl, rfl⟩).append returns opensReturns

theorem spaced_replacement (t : Table) (assignments : List (Column × Assigned))
    (clauses : List Clause) : Spaced (replacement t assignments clauses) := by
  obtain ⟨clauses, opensClauses⟩ := spaced_whereClause t clauses
  have assigned : Spaced (joined ", " (assignments.map (assignment t))) := by
    refine spaced_joined (by decide) ⟨',', _, rfl, rfl⟩ fun ps member => ?_
    obtain ⟨a, _, rfl⟩ := List.mem_map.1 member
    exact spaced_assignment a
  refine ⟨notMem_toList_append (notMem_toList_append (by decide)
    (dollar_notMem_quote t.dollar_notMem_name)) (by decide), ?_⟩
  exact assigned.append clauses opensClauses

end Statement

/-! ## Statements that are written out -/

/-- A text with a number in it, after which no digit stands. -/
theorem placeholderNumbers_numbered {before after : String} (plain : '$' ∉ before.toList)
    (opens : Opens [.fixed after]) (n : Nat) (rest : List Char) :
    placeholderNumbers (before.toList ++ ((placeholder n).toList ++ (after.toList ++ rest))) =
      n :: placeholderNumbers (after.toList ++ rest) := by
  obtain ⟨c, cs, eq, apart⟩ := opens
  have noDigit : NoDigitFirst (after.toList ++ rest) := by
    rw [eq]
    exact noDigitFirst_cons apart
  rw [placeholderNumbers_append plain, toList_placeholder]
  exact placeholderNumbers_placeholder noDigit n

/-- A predicate numbers its values from the number that it is given. -/
theorem ContactPredicate.placeholderNumbers_render (predicate : ContactPredicate) (first : Nat)
    (rest : List Char) :
    placeholderNumbers ((predicate.render first).1.toList ++ rest) =
      List.range' first (predicate.render first).2.length ++ placeholderNumbers rest := by
  have close : placeholderNumbers (")".toList ++ rest) = placeholderNumbers rest :=
    placeholderNumbers_append (by decide) rest
  -- both details are looked up in the same way, whatever joins them
  have pair : ∀ joint : String, '$' ∉ joint.toList → Opens [.fixed joint] →
      placeholderNumbers (("(phone_number = " ++ placeholder first ++ joint ++
        placeholder (first + 1) ++ ")").toList ++ rest) =
          first :: (first + 1) :: placeholderNumbers rest := by
    intro joint plain opens
    simp only [String.toList_append, List.append_assoc]
    rw [placeholderNumbers_numbered (by decide) opens,
      placeholderNumbers_numbered plain ⟨')', _, rfl, rfl⟩, close]
  cases predicate with
  | phone p =>
      change placeholderNumbers (("(phone_number = " ++ placeholder first ++ ")").toList ++ rest) =
        first :: placeholderNumbers rest
      simp only [String.toList_append, List.append_assoc]
      rw [placeholderNumbers_numbered (by decide) ⟨')', _, rfl, rfl⟩, close]
  | both p e => exact pair " AND email = " (by decide) ⟨' ', _, rfl, rfl⟩
  | either p e => exact pair " OR email = " (by decide) ⟨' ', _, rfl, rfl⟩

namespace Statement

theorem placeholderNumbers_count (t : Table) (column : Column) (value : String) :
    placeholderNumbers (count t column value).text.toList = [1] := by
  change placeholderNumbers ("SELECT count(1) AS count FROM " ++ t.name ++ " WHERE " ++
    column.name t ++ " = $1" ++ " AND deleted_at IS NULL").toList = [1]
  have head : '$' ∉ ("SELECT count(1) AS count FROM " ++ t.name ++ " WHERE " ++
      column.name t).toList :=
    notMem_toList_append (notMem_toList_append (notMem_toList_append (by decide)
      t.dollar_notMem_name) (by decide)) (column.dollar_notMem_name t)
  rw [String.append_assoc, String.toList_append, placeholderNumbers_append head]
  decide

theorem placeholderNumbers_found (t : Table) (predicate : ContactPredicate) :
    placeholderNumbers (found t predicate).text.toList =
      List.range' 1 (predicate.render 1).2.length := by
  change placeholderNumbers ("SELECT EXISTS(SELECT 1 FROM " ++ t.name ++ " WHERE " ++
    (predicate.render 1).1 ++ " AND deleted_at IS NULL) AS found").toList = _
  have head : '$' ∉ ("SELECT EXISTS(SELECT 1 FROM " ++ t.name ++ " WHERE ").toList :=
    notMem_toList_append (notMem_toList_append (by decide) t.dollar_notMem_name) (by decide)
  have tail : placeholderNumbers " AND deleted_at IS NULL) AS found".toList = [] := by decide
  rw [String.append_assoc, String.toList_append, placeholderNumbers_append head,
    String.toList_append, ContactPredicate.placeholderNumbers_render, tail, List.append_nil]

theorem placeholderNumbers_setPassword (t : Table) (predicate : ContactPredicate)
    (password : String) :
    placeholderNumbers (setPassword t predicate password).text.toList =
      1 :: List.range' 2 (predicate.render 2).2.length := by
  change placeholderNumbers ("UPDATE " ++ t.name ++ " SET password = $1 WHERE " ++
    (predicate.render 2).1 ++ " AND deleted_at IS NULL").toList = _
  have head : '$' ∉ ("UPDATE " ++ t.name).toList :=
    notMem_toList_append (by decide) t.dollar_notMem_name
  have first : ∀ rest, placeholderNumbers (" SET password = $1 WHERE ".toList ++ rest) =
      1 :: placeholderNumbers rest := fun _ => rfl
  have tail : placeholderNumbers " AND deleted_at IS NULL".toList = [] := by decide
  simp only [String.toList_append, List.append_assoc] at head ⊢
  rw [← List.append_assoc, placeholderNumbers_append head, first,
    ContactPredicate.placeholderNumbers_render, tail, List.append_nil]

theorem placeholderNumbers_setRefreshToken (t : Table) (id token : String) :
    placeholderNumbers (setRefreshToken t id token).text.toList = [1, 2] := by
  change placeholderNumbers ("UPDATE " ++ t.name ++
    " SET refresh_token = $1 WHERE id = $2 AND deleted_at IS NULL").toList = _
  have head : '$' ∉ ("UPDATE " ++ t.name).toList :=
    notMem_toList_append (by decide) t.dollar_notMem_name
  rw [String.toList_append, placeholderNumbers_append head]
  decide

/-- The placeholders of a statement count its values, from one on. -/
theorem placeholderNumbers_text (s : Statement) :
    placeholderNumbers s.text.toList = List.range' 1 s.values.length := by
  cases s with
  | select t columns clauses ordered window =>
      exact placeholderNumbers_rendered (spaced_selection t columns clauses ordered window)
  | insert t cells returning => exact placeholderNumbers_rendered (spaced_insertion t cells returning)
  | update t assignments clauses =>
      exact placeholderNumbers_rendered (spaced_replacement t assignments clauses)
  | count t column value => exact placeholderNumbers_count t column value
  | found t predicate => exact placeholderNumbers_found t predicate
  | setPassword t predicate password => exact placeholderNumbers_setPassword t predicate password
  | setRefreshToken t id token => exact placeholderNumbers_setRefreshToken t id token

end Statement
end Statements
end AccountStore
