import AccountStore.Command.Run
import AccountStore.Proofs.Filter.Map
import Mathlib.Data.List.Induction
import Mathlib.Data.List.Perm.Basic

/-!
# Filter arguments

Arguments are split at their first equals sign. One without is reported before anything else, and of
several the first (`Gathers.malformed`). The others make up a map, in which the last value of a key
counts, and the filters are those of the map; so the order of arguments matters only between those
of one key (`filter_arguments`).
-/

namespace AccountStore

namespace Command

/-! ## Single arguments -/

/-- The argument is a key and a value around its first equals sign. -/
def Splits (raw : String) (pair : String × String) : Prop :=
  raw = pair.1 ++ "=" ++ pair.2 ∧ '=' ∉ pair.1.toList

instance (raw : String) (pair : String × String) : Decidable (Splits raw pair) :=
  inferInstanceAs (Decidable (_ ∧ _))

def pairOf (raw : String) : Except Rejection (String × String) :=
  match Text.splitFirst? '=' raw.toList with
  | some (key, value) => .ok (String.ofList key, String.ofList value)
  | none => .error (.notKeyValue raw)

theorem splits_iff {raw key value : String} :
    Splits raw (key, value) ↔ Text.splitFirst? '=' raw.toList = some (key.toList, value.toList) := by
  rw [Text.splitFirst?_eq_some, Splits, ← String.toList_inj]
  simp

theorem pairOf_eq_ok_iff {raw : String} {pair : String × String} :
    pairOf raw = .ok pair ↔ Splits raw pair := by
  obtain ⟨key, value⟩ := pair
  rw [splits_iff, pairOf]
  cases Text.splitFirst? '=' raw.toList with
  | none => simp
  | some parts => simp [Prod.ext_iff, ← String.toList_inj]

theorem exists_splits_iff {raw : String} : (∃ pair, Splits raw pair) ↔ '=' ∈ raw.toList := by
  constructor
  · rintro ⟨pair, rfl, -⟩
    simp
  · intro member
    obtain ⟨key, value, shape, first⟩ := List.eq_append_cons_of_mem member
    refine ⟨(String.ofList key, String.ofList value), splits_iff.2 ?_⟩
    simpa [Text.splitFirst?_eq_some] using And.intro shape first

theorem pairOf_eq_error_iff {raw : String} {e : Rejection} :
    pairOf raw = .error e ↔ '=' ∉ raw.toList ∧ e = .notKeyValue raw := by
  rw [← exists_splits_iff]
  simp only [← pairOf_eq_ok_iff]
  unfold pairOf
  cases Text.splitFirst? '=' raw.toList <;> simp [eq_comm]

theorem mapM_pairOf_eq_ok_iff {raws : List String} {pairs : List (String × String)} :
    raws.mapM pairOf = .ok pairs ↔ List.Forall₂ Splits raws pairs := by
  rw [mapM_eq_ok_iff]
  exact ⟨.imp fun _ _ => pairOf_eq_ok_iff.1, .imp fun _ _ => pairOf_eq_ok_iff.2⟩

/-! ## The map of arguments -/

/-- The key stands among the pairs with the value, and after that no more. -/
def IsLast (pairs : List (String × String)) (pair : String × String) : Prop :=
  ∃ before after, pairs = before ++ pair :: after ∧ ∀ other ∈ after, other.1 ≠ pair.1

/-- The entries are those of the map that has of each key the last value. -/
structure IsMapOf (pairs entries : List (String × String)) : Prop where
  distinct : (entries.map Prod.fst).Nodup
  mem_iff (pair : String × String) : pair ∈ entries ↔ IsLast pairs pair

def put (entries : List (String × String)) (pair : String × String) : List (String × String) :=
  entries.filter (·.1 ≠ pair.1) ++ [pair]

theorem filterEntries_eq (raws : List String) :
    filterEntries raws = (raws.mapM pairOf).map fun pairs => pairs.foldl put [] := by
  rfl

theorem isLast_append {pairs : List (String × String)} {last pair : String × String} :
    IsLast (pairs ++ [last]) pair ↔ pair = last ∨ pair.1 ≠ last.1 ∧ IsLast pairs pair := by
  constructor
  · rintro ⟨before, after, shape, absent⟩
    rcases List.eq_nil_or_concat after with rfl | ⟨between, final, rfl⟩
    · exact .inl (List.singleton_inj.1 (List.append_inj' shape rfl).2).symm
    · rw [List.concat_eq_append] at shape absent
      rw [← List.cons_append, ← List.append_assoc] at shape
      obtain ⟨rfl, same⟩ := List.append_inj' shape rfl
      cases same
      exact .inr ⟨(absent last (by simp)).symm, before, between, rfl,
        fun other member => absent other (by simp [member])⟩
  · rintro (rfl | ⟨apart, before, after, rfl, absent⟩)
    · exact ⟨pairs, [], rfl, by simp⟩
    · refine ⟨before, after ++ [last], by simp, fun other member => ?_⟩
      rcases List.mem_append.1 member with inside | final
      · exact absent other inside
      · exact List.mem_singleton.1 final ▸ apart.symm

/-- What one more argument does to the map. -/
theorem IsMapOf.put {pairs entries : List (String × String)} (map : IsMapOf pairs entries)
    (last : String × String) : IsMapOf (pairs ++ [last]) (put entries last) where
  distinct := by
    have others : ((entries.filter (·.1 ≠ last.1)).map Prod.fst).Nodup :=
      map.distinct.sublist (List.filter_sublist.map Prod.fst)
    rw [Command.put, List.map_append]
    refine others.append (List.nodup_singleton _) ?_
    simp [List.mem_filter]
  mem_iff pair := by
    rw [isLast_append, Command.put]
    simp [List.mem_filter, map.mem_iff, and_comm, or_comm]

theorem IsMapOf.foldl_put {before entries : List (String × String)} (map : IsMapOf before entries)
    (pairs : List (String × String)) :
    IsMapOf (before ++ pairs) (pairs.foldl Command.put entries) := by
  induction pairs generalizing before entries with
  | nil => simpa using map
  | cons first rest ih => simpa using ih (map.put first)

theorem isMapOf_nil : IsMapOf [] [] := ⟨by simp, by simp [IsLast]⟩

theorem IsMapOf.perm {pairs pairs' entries entries' : List (String × String)}
    (map : IsMapOf pairs entries) (map' : IsMapOf pairs' entries')
    (same : ∀ pair, IsLast pairs pair ↔ IsLast pairs' pair) : entries.Perm entries' := by
  rw [List.perm_ext_iff_of_nodup (.of_map _ map.distinct) (.of_map _ map'.distinct)]
  intro pair
  rw [map.mem_iff, map'.mem_iff, same]

theorem isLast_swap {before : List (String × String)} {a b : String × String} (apart : a.1 ≠ b.1)
    (after : List (String × String)) (pair : String × String) :
    IsLast (before ++ a :: b :: after) pair ↔ IsLast (before ++ b :: a :: after) pair := by
  induction after using List.reverseRecOn generalizing pair with
  | nil =>
      have split (c d : String × String) : before ++ [c, d] = before ++ [c] ++ [d] := by simp
      rw [split, split, isLast_append, isLast_append, isLast_append, isLast_append]
      grind
  | append_singleton rest last ih =>
      rw [← List.cons_append, ← List.cons_append, ← List.cons_append, ← List.cons_append,
        ← List.append_assoc, ← List.append_assoc, isLast_append, isLast_append, ih]

theorem isLast_of_distinct {pairs : List (String × String)}
    (distinct : (pairs.map Prod.fst).Nodup) (pair : String × String) :
    IsLast pairs pair ↔ pair ∈ pairs := by
  constructor
  · rintro ⟨before, after, rfl, -⟩
    simp
  · intro member
    obtain ⟨before, after, rfl⟩ := List.append_of_mem member
    refine ⟨before, after, rfl, fun other later => ?_⟩
    rw [List.map_append, List.map_cons] at distinct
    have first := (List.nodup_cons.1 (List.nodup_append.1 distinct).2.1).1
    exact fun same => first (same ▸ List.mem_map_of_mem later)

/-! ## The filters of arguments -/

theorem filters_of_error {raws : List String} {e : Rejection}
    (refused : raws.mapM pairOf = .error e) :
    filters raws = .error e := by
  rw [filters, filterEntries_eq, refused]
  rfl

theorem filters_of_ok {raws : List String} {pairs entries : List (String × String)}
    (split : raws.mapM pairOf = .ok pairs) (map : IsMapOf pairs entries) :
    filters raws = Filter.ofMap entries := by
  have collected : IsMapOf pairs (pairs.foldl put []) := by simpa using isMapOf_nil.foldl_put pairs
  have made : filters raws = Filter.ofMap (pairs.foldl put []) := by
    rw [filters, filterEntries_eq, split]
    rfl
  rw [made]
  exact Filter.ofMap_perm collected.distinct (collected.perm map fun _ => .rfl)

theorem filters_swap {before after : List String} {a b : String} {p q : String × String}
    (first : Splits a p) (second : Splits b q) (apart : p.1 ≠ q.1) :
    filters (before ++ a :: b :: after) = filters (before ++ b :: a :: after) := by
  have ok := pairOf_eq_ok_iff.2 first
  have okToo := pairOf_eq_ok_iff.2 second
  have reads (c d : String) {r s : String × String} (okC : pairOf c = .ok r)
      (okD : pairOf d = .ok s) : (before ++ c :: d :: after).mapM pairOf =
        (before.mapM pairOf).bind fun x => (after.mapM pairOf).map (x ++ r :: s :: ·) := by
    rw [List.mapM_append, List.mapM_cons, List.mapM_cons, okC, okD]
    cases before.mapM pairOf <;> cases after.mapM pairOf <;> rfl
  have here := reads a b ok okToo
  have swapped := reads b a okToo ok
  cases start : before.mapM pairOf with
  | error e =>
      rw [start] at here swapped
      rw [filters_of_error here, filters_of_error swapped]
  | ok x =>
      cases rest : after.mapM pairOf with
      | error e =>
          rw [start, rest] at here swapped
          rw [filters_of_error here, filters_of_error swapped]
      | ok y =>
          rw [start, rest] at here swapped
          have map := isMapOf_nil.foldl_put (x ++ p :: q :: y)
          have map' : IsMapOf (x ++ q :: p :: y) _ :=
            ⟨map.distinct, fun pair => (map.mem_iff pair).trans (isLast_swap apart y pair)⟩
          rw [filters_of_ok here map, filters_of_ok swapped map']

/-- What a list of filter arguments comes to. -/
structure Gathers (raws : List String) (result : Except Rejection (List Filter)) : Prop where
  /-- The first argument without an equals sign is reported, whatever the others are. -/
  malformed (before after : List String) (raw : String) : raws = before ++ raw :: after →
    (∀ other ∈ before, '=' ∈ other.toList) → '=' ∉ raw.toList → result = .error (.notKeyValue raw)
  named (raw : String) : (AccountError.validation (.notKeyValue raw)).code = "VALIDATION_ERROR" ∧
    (AccountError.validation (.notKeyValue raw)).message = "filter '" ++ raw ++ "' is not KEY=VALUE"
  exists_map : (∀ raw ∈ raws, '=' ∈ raw.toList) →
    ∃ pairs entries, List.Forall₂ Splits raws pairs ∧ IsMapOf pairs entries
  /-- The filters are those of the map, however its entries are ordered. -/
  collected (pairs entries : List (String × String)) :
    List.Forall₂ Splits raws pairs → IsMapOf pairs entries → result = Filter.ofMap entries
  /-- Neighbours of different keys can change places. -/
  swapped (before after : List String) (a b : String) (p q : String × String) :
    raws = before ++ a :: b :: after → Splits a p → Splits b q → p.1 ≠ q.1 →
      filters (before ++ b :: a :: after) = result
  permuted (others : List String) (pairs : List (String × String)) :
    List.Forall₂ Splits raws pairs → (pairs.map Prod.fst).Nodup → raws.Perm others →
      filters others = result

theorem gathers (raws : List String) : Gathers raws (filters raws) where
  malformed before after raw shape fine faulty := by
    refine filters_of_error (mapM_eq_error_iff.2 ⟨before, raw, after, shape,
      pairOf_eq_error_iff.2 ⟨faulty, rfl⟩, fun other member => ?_⟩)
    obtain ⟨pair, splits⟩ := exists_splits_iff.2 (fine other member)
    exact ⟨pair, pairOf_eq_ok_iff.2 splits⟩
  named _ := ⟨rfl, rfl⟩
  exists_map fine := by
    cases split : raws.mapM pairOf with
    | error e =>
        obtain ⟨before, raw, after, rfl, faulty, -⟩ := mapM_eq_error_iff.1 split
        exact absurd (fine raw (by simp)) (pairOf_eq_error_iff.1 faulty).1
    | ok pairs =>
        exact ⟨pairs, pairs.foldl put [], mapM_pairOf_eq_ok_iff.1 split,
          by simpa using isMapOf_nil.foldl_put pairs⟩
  collected pairs entries split map := filters_of_ok (mapM_pairOf_eq_ok_iff.2 split) map
  swapped before after a b p q shape first second apart := by
    rw [shape, filters_swap first second apart]
  permuted others pairs split distinct same := by
    obtain ⟨pairs', split', samePairs⟩ := List.perm_comp_forall₂ same.symm split
    have map : IsMapOf pairs pairs := ⟨distinct, fun pair => (isLast_of_distinct distinct pair).symm⟩
    have distinct' := (samePairs.map Prod.fst).nodup_iff.2 distinct
    have map' : IsMapOf pairs' pairs := ⟨distinct, fun pair =>
      samePairs.mem_iff.symm.trans (isLast_of_distinct distinct' pair).symm⟩
    rw [filters_of_ok (mapM_pairOf_eq_ok_iff.2 split') map',
      filters_of_ok (mapM_pairOf_eq_ok_iff.2 split) map]

variable {α : Type} [Account α]

/-- What filter arguments come to, what maps of filters come to, and that a listing whose filters
are refused answers that and reads nothing. -/
theorem filter_arguments (raws : List String) :
    Gathers raws (filters raws) ∧
      (∀ entries : List (String × String), (entries.map Prod.fst).Nodup →
        Filter.FromMap entries (Filter.ofMap entries) ∧
          ∀ others, entries.Perm others → Filter.ofMap others = Filter.ofMap entries) ∧
      ∀ e, filters raws = .error e → ∀ timing stamp page db,
        runAccount α timing stamp (.list ⟨page, raws⟩) db = ⟨.error (.validation e), [], db⟩ := by
  refine ⟨gathers raws, fun entries distinct => ⟨Filter.fromMap_ofMap distinct, fun others same =>
    (Filter.ofMap_perm distinct same).symm⟩, fun e refused timing stamp page db => ?_⟩
  rw [runAccount, serviceCall, refused]
  rfl

/-- Of two identifiers the later one counts, up to its end; a malformed argument is reported before
an unknown key. -/
theorem filter_arguments_of_repeated_key :
    filters ["id=a", "created_at=1970-01-01 00:00:00", "id=b=c"] =
        .ok [.byCreatedAt .epoch, .byId "b=c"] ∧
      filters ["name=a", "created_at", "id"] = .error (.notKeyValue "created_at") := by
  obtain ⟨gathered, maps, -⟩ := filter_arguments (α := User)
    ["id=a", "created_at=1970-01-01 00:00:00", "id=b=c"]
  obtain ⟨malformed, -, -⟩ := filter_arguments (α := User) ["name=a", "created_at", "id"]
  have splits : List.Forall₂ Splits ["id=a", "created_at=1970-01-01 00:00:00", "id=b=c"]
      [("id", "a"), ("created_at", "1970-01-01 00:00:00"), ("id", "b=c")] :=
    .cons (by decide) (.cons (by decide) (.cons (by decide) .nil))
  have read : Calendar.readFilterTime? "1970-01-01 00:00:00" = some .epoch := by decide +kernel
  refine ⟨?_, malformed.malformed ["name=a"] ["id"] "created_at" rfl (by decide) (by decide)⟩
  rw [gathered.collected _ [("created_at", "1970-01-01 00:00:00"), ("id", "b=c")] splits
    (isMapOf_nil.foldl_put _)]
  refine ((maps _ (by decide)).1.ok_iff _).2 ⟨?_, some .epoch, some "b=c", rfl, ?_, ?_⟩
  · simp [Filter.Readable, read]
  · simp [read]
  · simp [eq_comm]

end Command
end AccountStore
