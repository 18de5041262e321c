import AccountStore.Proofs.Statement.Placeholders
import AccountStore.Statement.Build

/-!
# The texts of writes

The text of an insertion names its columns and then a placeholder for each (`text_insert`), that of
an update sets each of its columns to a placeholder (`text_update`). The placeholders count the
values in the order of their columns, so no column is written with the value of another.
-/

namespace AccountStore
open Text

/-! ## Pieces -/

namespace Piece

/-- The text of the pieces, with placeholders numbered from `first`. -/
def written (first : Nat) (ps : List Piece) : String :=
  String.ofList (placeholders first ps)

variable {first : Nat} {ps qs rest : List Piece}

@[simp] theorem written_nil : written first [] = "" := rfl

@[simp] theorem written_fixed {s : String} :
    written first (.fixed s :: rest) = s ++ written first rest := by
  rw [written, placeholders, String.ofList_append, String.ofList_toList, written]

@[simp] theorem written_bound {v : Value} :
    written first (.bound v :: rest) = placeholder first ++ written (first + 1) rest := by
  rw [written, placeholders, ← List.singleton_append, String.ofList_append, String.ofList_append]
  rfl

@[simp] theorem values_nil : values [] = [] := rfl

@[simp] theorem values_fixed {s : String} : values (.fixed s :: rest) = values rest := rfl

@[simp] theorem values_bound {v : Value} : values (.bound v :: rest) = v :: values rest := rfl

@[simp] theorem values_append : values (ps ++ qs) = values ps ++ values qs := by
  induction ps with
  | nil => rfl
  | cons p rest ih => cases p <;> simp [ih]

theorem written_append :
    written first (ps ++ qs) = written first ps ++ written (first + (values ps).length) qs := by
  induction ps generalizing first with
  | nil => simp [values]
  | cons p rest ih =>
      cases p with
      | fixed s => simp [ih, String.append_assoc]
      | bound v =>
          simp [ih, String.append_assoc, Nat.add_assoc, Nat.add_comm 1]

theorem joined_cons_cons (separator : String) (ps qs : List Piece) (rest : List (List Piece)) :
    joined separator (ps :: qs :: rest) =
      ps ++ .fixed separator :: joined separator (qs :: rest) := rfl

theorem values_joined (separator : String) (parts : List (List Piece)) :
    values (joined separator parts) = parts.flatMap values := by
  induction parts with
  | nil => rfl
  | cons ps rest ih =>
      cases rest with
      | nil => simp [joined]
      | cons qs rest =>
          rw [joined_cons_cons, values_append, values_fixed, ih]
          exact List.flatMap_cons.symm

/-- Parts with one value each are numbered one after another. -/
theorem written_joined (separator : String) {parts : List (List Piece)}
    (single : ∀ ps ∈ parts, (values ps).length = 1) (first : Nat) :
    written first (joined separator parts) =
      separator.intercalate ((parts.zipIdx first).map fun p => written p.2 p.1) := by
  induction parts generalizing first with
  | nil => rfl
  | cons ps rest ih =>
      have later := ih (fun qs member => single qs (List.mem_cons_of_mem _ member)) (first + 1)
      cases rest with
      | nil => simp [joined]
      | cons qs rest =>
          rw [joined_cons_cons, written_append, written_fixed, single ps List.mem_cons_self, later]
          simp [String.intercalate_cons_cons, String.append_assoc]

end Piece

/-! ## Statements -/

namespace Statement

open Piece

def insertText (t : Table) (columns : List Column) (returning : Bool) : String :=
  "INSERT INTO " ++ quote t.name ++ " (" ++
    ", ".intercalate (columns.map fun c => quote (c.name t)) ++ ")" ++ " VALUES (" ++
    ", ".intercalate ((List.range' 1 columns.length).map placeholder) ++ ")" ++
    if returning then
      " RETURNING " ++ ", ".intercalate (t.projection.map fun c => quote (c.name t))
    else ""

/-- The columns are set on the live row with an identifier, which is the last of the values. -/
def updateText (t : Table) (columns : List Column) : String :=
  "UPDATE " ++ quote t.name ++ " SET " ++
    ", ".intercalate ((columns.zipIdx 1).map fun c =>
      quote (c.1.name t) ++ " = " ++ placeholder c.2) ++
    " WHERE " ++ quote "id" ++ " = " ++ placeholder (columns.length + 1) ++
    " AND " ++ quote "deleted_at" ++ " IS NULL"

variable {t : Table} {cells : List (Column × Value)}

theorem written_cells (first : Nat) :
    written first (joined ", " (cells.map fun c => [.bound c.2])) =
      ", ".intercalate ((List.range' first cells.length).map placeholder) := by
  rw [written_joined, ← List.zipIdx_map_snd first cells, List.map_map, List.zipIdx_map,
    List.map_map]
  · simp [Function.comp_def]
  · intro ps member
    obtain ⟨c, _, rfl⟩ := List.mem_map.1 member
    rfl

theorem written_assignments (first : Nat) :
    written first (joined ", "
        ((cells.map fun c => (c.1, Assigned.value c.2)).map (assignment t))) =
      ", ".intercalate (((cells.map (·.1)).zipIdx first).map fun c =>
        quote (c.1.name t) ++ " = " ++ placeholder c.2) := by
  rw [written_joined, List.map_map, List.zipIdx_map, List.map_map, List.zipIdx_map, List.map_map]
  · simp [Function.comp_def, assignment, quote]
  · intro ps member
    rw [List.map_map] at member
    obtain ⟨c, _, rfl⟩ := List.mem_map.1 member
    rfl

theorem values_cells :
    Piece.values (joined ", " (cells.map fun c => [.bound c.2])) = cells.map (·.2) := by
  rw [values_joined, List.flatMap_map, List.map_eq_flatMap]
  rfl

theorem values_assignments :
    Piece.values (joined ", "
        ((cells.map fun c => (c.1, Assigned.value c.2)).map (assignment t))) =
      cells.map (·.2) := by
  rw [values_joined, List.flatMap_map, List.flatMap_map, List.map_eq_flatMap]
  rfl

theorem written_gate (first : Nat) (id : String) :
    written first (whereClause t (gate id)) =
      " WHERE " ++ quote "id" ++ " = " ++ placeholder first ++
        " AND " ++ quote "deleted_at" ++ " IS NULL" := by
  simp [-String.reduceAppend, whereClause, gate, joined, Clause.pieces, quote, Column.name,
    String.append_assoc]

theorem values_insert (returning : Bool) :
    (insert t cells returning).values = cells.map (·.2) := by
  change Piece.values (insertion t cells returning) = _
  cases returning <;> simp [insertion, values_cells]

theorem text_insert (returning : Bool) :
    (insert t cells returning).text = insertText t (cells.map (·.1)) returning := by
  change written 1 (insertion t cells returning) = _
  unfold insertText
  cases returning <;>
    simp [-String.reduceAppend, insertion, written_append, written_cells, names, toString, quote,
      String.append_assoc]

theorem values_update (id : String) :
    (update t (cells.map fun c => (c.1, .value c.2)) (gate id)).values =
      cells.map (·.2) ++ [.text (some id)] := by
  change Piece.values (replacement t _ (gate id)) = _
  simp only [replacement, values_fixed, values_append, List.cons_append, values_assignments]
  rfl

theorem text_update (id : String) :
    (update t (cells.map fun c => (c.1, .value c.2)) (gate id)).text =
      updateText t (cells.map (·.1)) := by
  change written 1 (replacement t _ (gate id)) = _
  unfold updateText
  simp only [replacement, List.cons_append, written_fixed, written_append, written_assignments,
    values_assignments, written_gate]
  simp [-String.reduceAppend, toString, quote, String.append_assoc, Nat.add_comm 1]

end Statement
end AccountStore
