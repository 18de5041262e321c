import AccountStore.Proofs.Sort
import AccountStore.Proofs.Text.Bytes
import AccountStore.Query.Filter
import Mathlib.Data.List.Nodup

/-!
# Filters of a map

A map from keys to values, given as a list of entries in any order, either has a filter for every
entry or is refused for its faulty entry of the smallest key (`fromMap_ofMap`). The order of the
entries does not matter (`ofMap_perm`).
-/

namespace AccountStore

/-! ## Lists that are read until one element fails -/

section

variable {α β ε : Type} {f : α → Except ε β}

theorem mapM_eq_ok_iff {list : List α} {results : List β} :
    list.mapM f = .ok results ↔ List.Forall₂ (fun a b => f a = .ok b) list results := by
  induction list generalizing results with
  | nil => cases results <;> simp [pure, Except.pure]
  | cons a rest ih =>
      rw [List.mapM_cons]
      cases here : f a with
      | error e => cases results <;> simp [bind, Except.bind, here]
      | ok b =>
          cases later : rest.mapM f with
          | error e => cases results <;> simp [bind, Except.bind, ← ih, later, here]
          | ok bs =>
              cases results <;> simp [bind, Except.bind, pure, Except.pure, ← ih, later, here]

theorem exists_ok_of_mapM {list : List α} {results : List β} (ok : list.mapM f = .ok results) :
    ∀ a ∈ list, ∃ b, f a = .ok b := by
  have all := mapM_eq_ok_iff.1 ok
  clear ok
  induction all with
  | nil => simp
  | cons first _ ih => exact List.forall_mem_cons.2 ⟨⟨_, first⟩, ih⟩

theorem mapM_eq_error_iff {list : List α} {e : ε} :
    list.mapM f = .error e ↔ ∃ before a after, list = before ++ a :: after ∧ f a = .error e ∧
      ∀ b ∈ before, ∃ c, f b = .ok c := by
  induction list with
  | nil => simp [pure, Except.pure]
  | cons a rest ih =>
      rw [List.mapM_cons]
      cases here : f a with
      | error e' =>
          simp only [bind, Except.bind, Except.error.injEq]
          constructor
          · rintro rfl
            exact ⟨[], a, rest, rfl, here, by simp⟩
          · rintro ⟨before, b, after, shape, failed, passed⟩
            cases before with
            | nil =>
                cases shape
                exact Except.error.inj (here.symm.trans failed)
            | cons c before =>
                cases shape
                obtain ⟨_, ok⟩ := passed a List.mem_cons_self
                exact nomatch here.symm.trans ok
      | ok c =>
          have later : (do return c :: (← rest.mapM f) : Except ε (List β)) = .error e ↔
              rest.mapM f = .error e := by
            cases rest.mapM f <;> simp [bind, Except.bind, pure, Except.pure]
          refine later.trans (ih.trans ⟨?_, ?_⟩)
          · rintro ⟨before, b, after, rfl, failed, passed⟩
            exact ⟨a :: before, b, after, rfl, failed, List.forall_mem_cons.2 ⟨⟨c, here⟩, passed⟩⟩
          · rintro ⟨before, b, after, shape, failed, passed⟩
            cases before with
            | nil =>
                cases shape
                exact nomatch here.symm.trans failed
            | cons d before =>
                cases shape
                exact ⟨before, b, after, rfl, failed, (List.forall_mem_cons.1 passed).2⟩

end

/-! ## Entries -/

namespace Filter
open Calendar

variable {entries others : List (String × String)}

/-- A filter can be read from the entry. -/
def Readable (entry : String × String) : Prop :=
  entry.1 = "id" ∨ entry.1 = "created_at" ∧ (readFilterTime? entry.2).isSome

/-- The filters that the entries ask for: that of the creation time before that of the identifier,
where there are such entries. -/
def Chosen (entries : List (String × String)) (filters : List Filter) : Prop :=
  ∃ (time : Option Instant) (id : Option String),
    filters = (time.map byCreatedAt).toList ++ (id.map byId).toList ∧
    (∀ t, time = some t ↔
      ∃ value, ("created_at", value) ∈ entries ∧ readFilterTime? value = some t) ∧
    ∀ value, id = some value ↔ ("id", value) ∈ entries

/-- What becomes of a map of filters. -/
structure FromMap (entries : List (String × String)) (result : Except Rejection (List Filter)) :
    Prop where
  ok_iff (filters : List Filter) :
    result = .ok filters ↔ (∀ entry ∈ entries, Readable entry) ∧ Chosen entries filters
  /-- The faulty entry whose key has the smallest bytes is the one that is reported. -/
  error_iff (e : Rejection) : result = .error e ↔ ∃ key value, (key, value) ∈ entries ∧
    ofPair key value = .error e ∧
      ∀ other ∈ entries, ¬Readable other → Text.bytes key ≤ Text.bytes other.1

theorem exists_ofPair_iff (entry : String × String) :
    (∃ filter, ofPair entry.1 entry.2 = .ok filter) ↔ Readable entry := by
  unfold ofPair Readable
  split
  next => simp_all
  next =>
    cases readFilterTime? entry.2 <;> simp_all
  next => simp_all

theorem not_readable_of_error {key value : String} {e : Rejection}
    (refused : ofPair key value = .error e) : ¬Readable (key, value) := by
  intro readable
  obtain ⟨filter, ok⟩ := (exists_ofPair_iff _).2 readable
  exact nomatch refused.symm.trans ok

theorem Chosen.unique {a b : List Filter} (first : Chosen entries a) (second : Chosen entries b) :
    a = b := by
  obtain ⟨time, id, rfl, times, ids⟩ := first
  obtain ⟨time', id', rfl, times', ids'⟩ := second
  have sameTime : time = time' := Option.ext fun t => (times t).trans (times' t).symm
  have sameId : id = id' := Option.ext fun value => (ids value).trans (ids' value).symm
  rw [sameTime, sameId]

/-! ## The entries in the order of their keys -/

/-- The order of the entries of a map does not matter. -/
theorem ofMap_perm (distinct : (entries.map Prod.fst).Nodup) (same : entries.Perm others) :
    ofMap entries = ofMap others := by
  rw [ofMap, ofMap, sorted_eq_sorted distinct same]

/-- Entries of the two known keys, in the order of the keys. -/
theorem exists_shape {list : List (String × String)} (ordered : list.Pairwise fun a b => a.1 ≤ b.1)
    (distinct : (list.map Prod.fst).Nodup) (known : ∀ entry ∈ list, Readable entry) :
    ∃ time id : Option String,
      list = (time.map ("created_at", ·)).toList ++ (id.map ("id", ·)).toList := by
  have known : ∀ entry ∈ list, entry.1 = "created_at" ∨ entry.1 = "id" :=
    fun entry member => (known entry member).symm.imp_left And.left
  have increasing : list.Pairwise fun a b => a.1 < b.1 := by
    refine (ordered.and (List.pairwise_map.1 distinct)).imp fun {a b} both => ?_
    exact lt_of_le_of_ne both.1 both.2
  have backwards : ¬("id" : String) < "created_at" := by decide
  match list, increasing with
  | [], _ => exact ⟨none, none, rfl⟩
  | [(key, value)], _ =>
      rcases known (key, value) (by simp) with rfl | rfl
      · exact ⟨some value, none, rfl⟩
      · exact ⟨none, some value, rfl⟩
  | [(first, value), (second, other)], increasing =>
      have less : first < second := by simpa using increasing
      rcases known (first, value) (by simp) with rfl | rfl <;>
        rcases known (second, other) (by simp) with rfl | rfl
      · exact absurd less (lt_irrefl _)
      · exact ⟨some value, some other, rfl⟩
      · exact absurd less backwards
      · exact absurd less (lt_irrefl _)
  | a :: b :: c :: rest, increasing =>
      have less : a.1 < b.1 := (List.pairwise_cons.1 increasing).1 b (by simp)
      have more : b.1 < c.1 :=
        (List.pairwise_cons.1 (List.pairwise_cons.1 increasing).2).1 c (by simp)
      rcases known b (by simp) with second | second
      · rcases known a (by simp) with first | first
        · exact absurd (first ▸ second ▸ less) (lt_irrefl _)
        · exact absurd (first ▸ second ▸ less) backwards
      · rcases known c (by simp) with third | third
        · exact absurd (second ▸ third ▸ more) backwards
        · exact absurd (second ▸ third ▸ more) (lt_irrefl _)

theorem exists_chosen (distinct : (entries.map Prod.fst).Nodup)
    (readable : ∀ entry ∈ entries, Readable entry) :
    ∃ filters, ofMap entries = .ok filters ∧ Chosen entries filters := by
  have same := sorted_perm (fun a b => a.1 ≤ b.1) entries
  obtain ⟨time, id, shape⟩ := exists_shape (sorted_ordered entries)
    ((same.map Prod.fst).nodup_iff.2 distinct) fun entry member =>
      readable entry (same.mem_iff.1 member)
  have member : ∀ entry, entry ∈ entries ↔
      entry ∈ (time.map ("created_at", ·)).toList ++ (id.map ("id", ·)).toList :=
    fun entry => by rw [← shape, same.mem_iff]
  rw [ofMap, shape]
  cases time with
  | none =>
      refine ⟨(id.map byId).toList, by cases id <;> rfl, none, id, rfl, ?_, ?_⟩
      · simp [member]
      · simp [member]
  | some value =>
      have found := readable ("created_at", value) ((member _).2 (by simp))
      obtain ⟨t, read⟩ : ∃ t, readFilterTime? value = some t := by
        simpa [Readable, Option.isSome_iff_exists] using found
      refine ⟨byCreatedAt t :: (id.map byId).toList, ?_, some t, id, rfl, ?_, ?_⟩
      · cases id <;> simp [ofPair, read, pure, Except.pure, bind, Except.bind]
      · simp [member, read]
      · simp [member]

theorem readable_of_ofMap {filters : List Filter} (ok : ofMap entries = .ok filters) :
    ∀ entry ∈ entries, Readable entry := fun entry member =>
  (exists_ofPair_iff entry).1 (exists_ok_of_mapM ok entry ((sorted_perm _ _).mem_iff.2 member))

theorem least_of_ofMap {e : Rejection} (refused : ofMap entries = .error e) :
    ∃ key value, (key, value) ∈ entries ∧ ofPair key value = .error e ∧
      ∀ other ∈ entries, ¬Readable other → key ≤ other.1 := by
  have ordered := sorted_ordered entries
  have same := sorted_perm (fun a b => a.1 ≤ b.1) entries
  obtain ⟨before, ⟨key, value⟩, after, shape, faulty, passed⟩ := mapM_eq_error_iff.1 refused
  refine ⟨key, value, same.mem_iff.1 (by simp [shape]), faulty, fun other member unreadable => ?_⟩
  rw [shape] at ordered
  rcases List.mem_append.1 (shape ▸ same.mem_iff.2 member) with earlier | later
  · exact absurd ((exists_ofPair_iff other).1 (passed other earlier)) unreadable
  · rcases List.mem_cons.1 later with rfl | later
    · exact String.le_refl _
    · exact (List.pairwise_cons.1 (List.pairwise_append.1 ordered).2.1).1 other later

theorem fromMap_ofMap (distinct : (entries.map Prod.fst).Nodup) :
    FromMap entries (ofMap entries) where
  ok_iff filters := by
    constructor
    · intro ok
      have readable := readable_of_ofMap ok
      obtain ⟨chosen, same, isChosen⟩ := exists_chosen distinct readable
      exact ⟨readable, Except.ok.inj (ok.symm.trans same) ▸ isChosen⟩
    · rintro ⟨readable, isChosen⟩
      obtain ⟨chosen, ok, same⟩ := exists_chosen distinct readable
      rw [ok, isChosen.unique same]
  error_iff e := by
    simp only [Text.bytes_le_iff]
    refine ⟨least_of_ofMap, fun ⟨key, value, member, faulty, least⟩ => ?_⟩
    cases result : ofMap entries with
    | ok filters =>
        exact absurd (readable_of_ofMap result _ member) (not_readable_of_error faulty)
    | error e' =>
        -- The entry that is reported has the same key, and so is the same entry.
        obtain ⟨key', value', member', faulty', least'⟩ := least_of_ofMap result
        have sameKey : key = key' := String.le_antisymm
          (least _ member' (not_readable_of_error faulty'))
          (least' _ member (not_readable_of_error faulty))
        cases List.inj_on_of_nodup_map distinct member member' sameKey
        rw [Except.error.inj (faulty'.symm.trans faulty)]

end Filter
end AccountStore
