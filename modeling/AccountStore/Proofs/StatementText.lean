import AccountStore.Proofs.Operation.Comparison
import AccountStore.Proofs.Statement.Placeholders

/-!
# Data never becomes statement text

Blanking the values of a statement leaves its text as it is. Calls of one operation that differ in
what the caller supplies send, on the same answers, statements that differ in their values only; so
two runs of such calls send the same texts.
-/

namespace AccountStore

/-! ## Blank values -/

namespace Piece

def blank : Piece → Piece
  | fixed s => .fixed s
  | bound _ => .bound (.text none)

theorem placeholders_blank (ps : List Piece) (first : Nat) :
    placeholders first (ps.map blank) = placeholders first ps := by
  induction ps generalizing first with
  | nil => rfl
  | cons p rest ih => cases p <;> simp only [List.map_cons, blank, placeholders, ih]

theorem joined_blank (separator : String) (parts : List (List Piece)) :
    (joined separator parts).map blank = joined separator (parts.map (·.map blank)) := by
  induction parts with
  | nil => rfl
  | cons ps rest ih =>
      cases rest with
      | nil => rfl
      | cons qs rest =>
          change (ps ++ .fixed separator :: joined separator (qs :: rest)).map blank = _
          rw [List.map_append, List.map_cons, ih]
          rfl

theorem rendered_eq_of_blank {ps qs : List Piece} (same : ps.map blank = qs.map blank) :
    (rendered ps).1 = (rendered qs).1 := by
  have placed : placeholders 1 ps = placeholders 1 qs := by
    rw [← placeholders_blank ps, same, placeholders_blank]
  exact congrArg String.ofList placed

end Piece

/-- The same details are looked up, whatever they are. -/
def ContactPredicate.blank : ContactPredicate → ContactPredicate
  | phone _ => .phone ""
  | both _ _ => .both "" ""
  | either _ _ => .either "" ""

theorem ContactPredicate.render_blank (predicate : ContactPredicate) (first : Nat) :
    (predicate.blank.render first).1 = (predicate.render first).1 := by
  cases predicate <;> rfl

def Clause.blank : Clause → Clause
  | live => .live
  | equals column _ => .equals column (.text none)

theorem Clause.pieces_blank (t : Table) (clause : Clause) :
    (clause.blank.pieces t).map Piece.blank = (clause.pieces t).map Piece.blank := by
  cases clause <;> rfl

def Assigned.blank : Assigned → Assigned
  | value _ => .value (.text none)
  | currentTime => .currentTime

namespace Statement

/-- The statement with nothing in the place of its values. -/
def blank : Statement → Statement
  | select t columns clauses ordered window =>
      .select t columns (clauses.map (·.blank)) ordered (window.map fun _ => ⟨0, 0⟩)
  | insert t cells returning => .insert t (cells.map fun c => (c.1, .text none)) returning
  | update t assignments clauses =>
      .update t (assignments.map fun a => (a.1, a.2.blank)) (clauses.map (·.blank))
  | count t column _ => .count t column ""
  | found t predicate => .found t predicate.blank
  | setPassword t predicate _ => .setPassword t predicate.blank ""
  | setRefreshToken t _ _ => .setRefreshToken t "" ""

theorem blank_whereClause (t : Table) (clauses : List Clause) :
    (whereClause t (clauses.map (·.blank))).map Piece.blank =
      (whereClause t clauses).map Piece.blank := by
  have joined : ∀ clauses : List Clause,
      (Piece.joined " AND " ((clauses.map (·.blank)).map (·.pieces t))).map Piece.blank =
        (Piece.joined " AND " (clauses.map (·.pieces t))).map Piece.blank := by
    intro clauses
    rw [Piece.joined_blank, Piece.joined_blank]
    simp only [List.map_map, Function.comp_def, Clause.pieces_blank]
  cases clauses with
  | nil => rfl
  | cons clause rest => exact congrArg (.fixed " WHERE " :: ·) (joined (clause :: rest))

theorem blank_windowClause (window : Option Window) :
    (windowClause (window.map fun _ => ⟨0, 0⟩)).map Piece.blank =
      (windowClause window).map Piece.blank := by
  cases window <;> rfl

theorem blank_assignment (t : Table) (a : Column × Assigned) :
    (assignment t (a.1, a.2.blank)).map Piece.blank = (assignment t a).map Piece.blank := by
  obtain ⟨c, v⟩ := a
  cases v <;> rfl

/-- The text of a statement does not depend on its values. -/
theorem text_blank (s : Statement) : s.blank.text = s.text := by
  cases s with
  | select t columns clauses ordered window =>
      refine Piece.rendered_eq_of_blank ?_
      simp only [selection, List.map_cons, List.map_append, blank_whereClause, blank_windowClause]
  | insert t cells returning =>
      refine Piece.rendered_eq_of_blank ?_
      simp only [insertion, List.map_cons, List.map_append, List.map_map, Function.comp_def,
        Piece.joined_blank]
      rfl
  | update t assignments clauses =>
      refine Piece.rendered_eq_of_blank ?_
      simp only [replacement, List.map_cons, List.map_append, List.map_map, Function.comp_def,
        Piece.joined_blank, blank_whereClause, blank_assignment]
  | count | setRefreshToken => rfl
  | found t predicate =>
      exact congrArg (fun condition => "SELECT EXISTS(SELECT 1 FROM " ++ t.name ++ " WHERE " ++
        condition ++ " AND deleted_at IS NULL) AS found") (predicate.render_blank 1)
  | setPassword t predicate password =>
      exact congrArg (fun condition => "UPDATE " ++ t.name ++ " SET password = $1 WHERE " ++
        condition ++ " AND deleted_at IS NULL") (predicate.render_blank 2)

end Statement

/-! ## Calls on what the caller supplies -/

/-- The column that a filter is about. -/
def Filter.column : Filter → Column
  | byId _ => .id
  | byCreatedAt _ => .createdAt

theorem Filter.blank_clause (f : Filter) : f.clause.blank = .equals f.column (.text none) := by
  cases f <;> rfl

/-- The same operation, on whatever the caller supplies. The field that is checked, which details
are looked up, the keys of filters and whether there is a limit belong to the operation. -/
inductive StoreCall.SameForm {α : Type} [Account α] : StoreCall α → StoreCall α → Prop
  | create (a b : α) : SameForm (.create a) (.create b)
  | createAndFetch (a b : α) : SameForm (.createAndFetch a) (.createAndFetch b)
  | get (i j : String) : SameForm (.get i) (.get j)
  | list {p q : Pagination} {fs gs : List Filter} (limit : p.limit = 0 ↔ q.limit = 0)
      (keys : fs.map Filter.column = gs.map Filter.column) : SameForm (.list p fs) (.list q gs)
  | update (a b : α) : SameForm (.update a) (.update b)
  | delete (i j : String) : SameForm (.delete i) (.delete j)
  | checkField (field : Field (Account.table α)) (v w : String) :
      SameForm (.checkField field v) (.checkField field w)
  | ifExists {l m : Account.Lookup α}
      (details : (Account.predicate l).blank = (Account.predicate m).blank) :
      SameForm (.ifExists l) (.ifExists m)
  | changePassword (c d : Account.Contact α) (p q : String) :
      SameForm (.changePassword c p) (.changePassword d q)
  | updateRefreshToken (i j t u : String) :
      SameForm (.updateRefreshToken i t) (.updateRefreshToken j u)

/-- The same operation of the store on the same table. -/
inductive Step.SameForm : Step → Step → Prop
  | user {c d : StoreCall User} (same : c.SameForm d) :
      SameForm (.user (.store c)) (.user (.store d))
  | admin {c d : StoreCall Admin} (same : c.SameForm d) :
      SameForm (.admin (.store c)) (.admin (.store d))

namespace Statement

theorem blank_cells {α : Type} [Account α] (columns : List Column) (a b : α) :
    (Store.cells columns a).map (fun c => (c.1, Value.text none)) =
      (Store.cells columns b).map fun c => (c.1, Value.text none) := by
  simp only [Store.cells, List.map_map, Function.comp_def]

theorem blank_list {t : Table} {p q : Pagination} {fs gs : List Filter}
    (limit : p.limit = 0 ↔ q.limit = 0) (keys : fs.map Filter.column = gs.map Filter.column) :
    (list t fs p).blank = (list t gs q).blank := by
  have clauses : ∀ fs : List Filter, (fs.map (·.clause)).map (·.blank) =
      (fs.map Filter.column).map fun c => .equals c (.text none) := by
    intro fs
    simp only [List.map_map, Function.comp_def, Filter.blank_clause]
  have window : p.window?.map (fun _ => (⟨0, 0⟩ : Window)) =
      q.window?.map fun _ => (⟨0, 0⟩ : Window) := by
    unfold Pagination.window?
    by_cases unlimited : p.limit = 0
    · rw [if_pos unlimited, if_pos (limit.1 unlimited)]
    · rw [if_neg unlimited, if_neg fun h => unlimited (limit.2 h)]
      rfl
  simp only [list, blank, List.map_cons, clauses, keys, window]

end Statement

/-! ## Runs of such calls -/

/-- Statements match that differ in their values only; rows match that are the same. -/
def sameTexts : Matching := .sameErrors (fun s t => s.blank = t.blank) Eq

section Together

open Program

variable {α β : Type} {s t : Statement}

/-- Two programs send the same texts, whatever they end with. -/
abbrev Program.SameTexts (p : Program α) (q : Program β) : Prop :=
  p.Together sameTexts (fun _ _ => True) q

theorem Program.SameTexts.map {p q : Program α} (same : p.SameTexts q) (f : α → β) :
    (f <$> p).SameTexts (f <$> q) :=
  Together.map same fun _ _ _ => trivial

theorem sameTexts_query (same : s.blank = t.blank) {f : List ResultRow → Program β}
    (ended : ∀ rows, (f rows).Ended) :
    (query s (reply f)).SameTexts (.query t (reply f)) := by
  refine .query same (Together.reply fun rows rows' eq => ?_)
  rw [show rows = rows' from eq]
  exact (ended rows').together.mono fun _ _ _ => trivial

theorem sameTexts_execute (same : s.blank = t.blank) {f g : Nat → β} :
    (execute s (reply fun n => .pure (f n))).SameTexts (.execute t (reply fun n => .pure (g n))) :=
  .execute same (Together.reply fun _ _ _ => .pure trivial)

theorem sameTexts_modify (table : Table) (i j : String) (same : s.blank = t.blank) :
    (Store.modify table i s).SameTexts (Store.modify table j t) := by
  rw [Store.modify_eq, Store.modify_eq]
  refine .execute same (Together.reply fun n m eq => ?_)
  rw [show n = m from eq]
  by_cases none : m = 0
  · have markers : (Statement.deletionMarker table i).blank =
        (Statement.deletionMarker table j).blank := rfl
    rw [if_pos none, if_pos none]
    exact sameTexts_query markers fun _ => ⟨_, rfl⟩
  · rw [if_neg none, if_neg none]
    exact .pure trivial

variable [Account α]

theorem StoreCall.SameForm.sameTexts {c d : StoreCall α} (same : c.SameForm d)
    (reset : ∀ i j : Account.Contact α, (Account.predicate (Account.reset i)).blank =
      (Account.predicate (Account.reset j)).blank) : c.program.SameTexts d.program := by
  cases same with
  | create a b =>
      refine SameTexts.map ?_ _
      rw [Store.create_eq, Store.create_eq]
      refine sameTexts_execute ?_
      simp only [Statement.blank, Statement.blank_cells _ a b]
  | createAndFetch a b =>
      refine SameTexts.map ?_ _
      rw [Store.createAndFetch_eq, Store.createAndFetch_eq]
      have same : (Statement.insert (Account.table α)
            (Store.cells (Account.table α).insertable a) true).blank =
          (Statement.insert (Account.table α)
            (Store.cells (Account.table α).insertable b) true).blank := by
        simp only [Statement.blank, Statement.blank_cells _ a b]
      exact sameTexts_query same fun _ => (ended_ofOption _ _).bind fun _ => ended_ofOption _ _
  | get i j =>
      have same : (Statement.byId (Account.table α) i).blank =
          (Statement.byId (Account.table α) j).blank := rfl
      refine SameTexts.map ?_ _
      rw [Store.get_eq, Store.get_eq]
      exact sameTexts_query same fun _ => (ended_ofOption _ _).bind fun _ => ended_ofOption _ _
  | list limit keys =>
      refine SameTexts.map ?_ _
      rw [Store.list_eq, Store.list_eq]
      exact sameTexts_query (Statement.blank_list limit keys) fun _ => ended_ofOption _ _
  | update a b =>
      refine SameTexts.map ?_ _
      rw [Store.update_eq, Store.update_eq]
      refine sameTexts_modify _ _ _ ?_
      simp only [Statement.blank, Store.cells, List.map_map, Function.comp_def, Assigned.blank]
      rfl
  | delete i j =>
      have same : (Statement.softDelete (Account.table α) i).blank =
          (Statement.softDelete (Account.table α) j).blank := rfl
      exact (sameTexts_modify _ _ _ same).map _
  | checkField field v w =>
      have same : (Statement.count (Account.table α) field.column v).blank =
          (Statement.count (Account.table α) field.column w).blank := rfl
      refine SameTexts.map ?_ _
      rw [Store.checkField_eq_counted, Store.checkField_eq_counted]
      exact sameTexts_query same fun _ => ended_ofOption _ _
  | @ifExists l m details =>
      have same : (Statement.found (Account.table α) (Account.predicate l)).blank =
          (Statement.found (Account.table α) (Account.predicate m)).blank := by
        simp only [Statement.blank, details]
      refine SameTexts.map ?_ _
      rw [Store.ifExists_eq_found, Store.ifExists_eq_found]
      exact sameTexts_query same fun _ => ended_ofOption _ _
  | changePassword i j p q =>
      have same : (Statement.setPassword (Account.table α)
            (Account.predicate (Account.reset i)) p).blank =
          (Statement.setPassword (Account.table α) (Account.predicate (Account.reset j)) q).blank := by
        simp only [Statement.blank, reset i j]
      refine SameTexts.map ?_ _
      rw [Store.changePassword_eq, Store.changePassword_eq]
      exact sameTexts_execute same
  | updateRefreshToken i j t u =>
      have same : (Statement.setRefreshToken (Account.table α) i t).blank =
          (Statement.setRefreshToken (Account.table α) j u).blank := rfl
      refine SameTexts.map ?_ _
      rw [Store.updateRefreshToken_eq, Store.updateRefreshToken_eq]
      exact sameTexts_execute same

end Together

theorem Step.SameForm.together {x y : Stamp × Step} (same : x.2.SameForm y.2) :
    Step.Together sameTexts (fun _ _ => True) x y := by
  obtain ⟨stamp, x⟩ := x
  obtain ⟨stamp', y⟩ := y
  cases same with
  | user same => exact ⟨rfl, fun _ => rfl, (same.sameTexts fun _ _ => rfl).map _⟩
  | admin same => exact ⟨rfl, fun _ => rfl, (same.sameTexts fun _ _ => rfl).map _⟩

/-- The placeholders of every statement count its values. Two runs of the same store operations on
what callers supply, with the same answers of the driver, send statements that differ in their
values only, and so the same texts. -/
theorem data_never_text :
    (∀ s : Statement,
      Text.placeholderNumbers s.text.toList = List.range' 1 s.values.length) ∧
    ∀ (timing : Timing) (xs ys : List (Stamp × Step)) (a b : Script),
      List.Forall₂ (fun x y => x.2.SameForm y.2) xs ys → a.executions = b.executions →
        a.queries = b.queries → a.log = b.log →
      let first := (runSteps (fun _ => Script.driver) timing xs a).2.log
      let second := (runSteps (fun _ => Script.driver) timing ys b).2.log
      first.map (·.blank) = second.map (·.blank) ∧ first.map (·.text) = second.map (·.text) := by
  refine ⟨Statement.placeholderNumbers_text, ?_⟩
  intro timing xs ys a b forms executions queries log first second
  have drivers : Driver.Matches sameTexts (Script.Alike Eq sameTexts.sent) Script.driver
      Script.driver := Script.driver_matches (fun _ => rfl) rfl
  have start : a.Alike Eq sameTexts.sent b := by
    refine ⟨?_, ?_, ?_⟩
    · rw [executions]
      exact List.forall₂_same.2 fun _ _ => .of_eq rfl
    · rw [queries]
      exact List.forall₂_same.2 fun _ _ => .of_eq rfl
    · rw [log]
      exact List.forall₂_same.2 fun s _ => rfl
  obtain ⟨_, final⟩ := runSteps_together timing
    (forms.imp fun _ _ same => same.together) drivers start
  have blanks : first.map (·.blank) = second.map (·.blank) := by
    rw [← List.forall₂_eq_eq_eq, List.forall₂_map_left_iff, List.forall₂_map_right_iff]
    exact final.log
  refine ⟨blanks, ?_⟩
  calc first.map (·.text) = (first.map (·.blank)).map (·.text) := by
        simp only [List.map_map, Function.comp_def, Statement.text_blank]
    _ = (second.map (·.blank)).map (·.text) := by rw [blanks]
    _ = second.map (·.text) := by
        simp only [List.map_map, Function.comp_def, Statement.text_blank]

/-- A phone number that looks like the end of a statement is a value like any other. The deletion
affects no row here, so the marker is looked up as well. -/
theorem data_never_text_on_quotes :
    let steps (id phoneNumber : String) (limit : UInt64) : List (Stamp × Step) :=
      [(⟨"", .epoch⟩, .user (.store (.create { id, phoneNumber }))),
       (⟨"", .epoch⟩, .user (.store (.list ⟨limit, 3⟩ [.byId id]))),
       (⟨"", .epoch⟩, .admin (.store (.changePassword ⟨phoneNumber, id⟩ phoneNumber))),
       (⟨"", .epoch⟩, .user (.store (.delete id)))]
    let script : Script := ⟨[.ok 1, .ok 2, .ok 0], [.ok [], .ok []], []⟩
    let first := (runSteps (fun _ => Script.driver) ⟨0, 0⟩ (steps "a" "+1" 1) script).2.log
    let second := (runSteps (fun _ => Script.driver) ⟨0, 0⟩
      (steps "$1" "1\x27); DROP TABLE users; --" 50) script).2.log
    List.Forall₂ (fun x y : Stamp × Step => x.2.SameForm y.2) (steps "a" "+1" 1)
        (steps "$1" "1\x27); DROP TABLE users; --" 50) ∧
      first.length = 5 ∧ first.map (·.blank) = second.map (·.blank) ∧
      first.map (·.text) = second.map (·.text) := by
  intro steps script first second
  have forms : List.Forall₂ (fun x y : Stamp × Step => x.2.SameForm y.2) (steps "a" "+1" 1)
      (steps "$1" "1\x27); DROP TABLE users; --" 50) := by
    refine .cons (.user (.create _ _)) (.cons (.user (.list ?_ rfl))
      (.cons (.admin (.changePassword _ _ _ _)) (.cons (.user (.delete _ _)) .nil)))
    decide
  exact ⟨forms, rfl, data_never_text.2 _ _ _ script script forms rfl rfl rfl⟩

end AccountStore
