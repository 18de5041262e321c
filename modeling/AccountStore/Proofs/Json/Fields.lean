import AccountStore.Json.Decode
import AccountStore.Proofs.Sort

/-!
# Records read from objects

What is read from an object depends only on the members that the fields name, not on their order
and not on any others (`fromObject_eq_of_extends`). `Gives` says what the fields read from their
values; it is put together field by field.
-/

namespace AccountStore.Json

variable {members others : List (String × Json)} {key : String} {j : Json}

theorem member?_eq_some_iff (distinct : (members.map Prod.fst).Nodup) :
    member? members key = some j ↔ (key, j) ∈ members := by
  rw [member?, Option.map_eq_some_iff]
  constructor
  · rintro ⟨m, found, rfl⟩
    have same : m.1 = key := by simpa using List.find?_some found
    exact same ▸ List.mem_of_find?_eq_some found
  · intro member
    cases found : members.find? fun m => m.1 == key with
    | none => simpa using List.find?_eq_none.1 found _ member
    | some m =>
        have same : m.1 = key := by simpa using List.find?_some found
        have mem := List.mem_of_find?_eq_some found
        exact ⟨m, rfl, congrArg Prod.snd (List.inj_on_of_nodup_map distinct mem member same)⟩

theorem member?_perm (distinct : (members.map Prod.fst).Nodup) (same : members.Perm others)
    (key : String) : member? members key = member? others key := by
  refine Option.ext fun j => ?_
  rw [member?_eq_some_iff distinct, member?_eq_some_iff ((same.map Prod.fst).nodup_iff.1 distinct),
    same.mem_iff]

namespace Decode

variable {α β : Type} {fields : Fields α}

/-- The names of the fields. -/
def Fields.names (fields : Fields α) : List String :=
  fields.checks.map Prod.fst

/-- The object has these members, in any order, and others that no field names. -/
def Fields.Extends (fields : Fields α) (members all : List (String × Json)) : Prop :=
  ∃ unknown, (∀ m ∈ unknown, m.1 ∉ fields.names) ∧ all.Perm (members ++ unknown)

/-- What is built depends only on the values of the fields. -/
class Fields.Lawful (fields : Fields α) : Prop where
  build_congr {look look' : String → Option Json} :
    (∀ name ∈ fields.names, look name = look' name) → fields.build look = fields.build look'

instance (name : String) (read : Reader α) : (field name read).Lawful where
  build_congr same := by simp [field, same name (by simp [Fields.names, field])]

instance (absent : α) (name : String) (read : Reader α) : (fieldOr absent name read).Lawful where
  build_congr same := by simp [fieldOr, same name (by simp [Fields.names, fieldOr])]

instance (f : α → β) [fields.Lawful] : (f <$> fields).Lawful where
  build_congr same := congrArg (f <$> ·) (Fields.Lawful.build_congr same)

instance (f : Fields (α → β)) [f.Lawful] [fields.Lawful] : (f <*> fields).Lawful where
  build_congr {look look'} same := by
    have names : (f <*> fields).names = f.names ++ fields.names := List.map_append
    have first : f.build look = f.build look' :=
      Fields.Lawful.build_congr fun name member => same name (by simp [names, member])
    have second : fields.build look = fields.build look' :=
      Fields.Lawful.build_congr fun name member => same name (by simp [names, member])
    change (do (← f.build look) <$> fields.build look) = do (← f.build look') <$> fields.build look'
    rw [first, second]

theorem memberFault?_of_notMem {m : String × Json} (unnamed : m.1 ∉ fields.names) :
    memberFault? fields.checks m = none := by
  have absent : fields.checks.find? (·.1 == m.1) = none := by
    rw [List.find?_eq_none]
    intro check member same
    exact unnamed (List.mem_map.2 ⟨check, member, by simpa using same⟩)
  rw [memberFault?, absent]
  rfl

theorem findSome?_filter {p : String × Json → Bool} {f : String × Json → Option β}
    (skipped : ∀ m, p m = false → f m = none) (list : List (String × Json)) :
    (list.filter p).findSome? f = list.findSome? f := by
  induction list with
  | nil => rfl
  | cons m rest ih =>
      cases kept : p m with
      | true => rw [List.filter_cons_of_pos kept, List.findSome?_cons, List.findSome?_cons, ih]
      | false =>
          rw [List.filter_cons_of_neg (by simp [kept]), List.findSome?_cons, skipped m kept, ih]

theorem member?_filter {p : String × Json → Bool}
    (kept : ∀ m : String × Json, m.1 = key → p m = true)
    (list : List (String × Json)) : member? (list.filter p) key = member? list key := by
  rw [member?, member?, List.find?_filter]
  congr 2
  funext m
  by_cases same : m.1 = key
  · simp [same, kept m same]
  · simp [same]

/-- Neither the order of the members nor unknown members change what is read. -/
theorem fromObject_eq_of_extends [fields.Lawful] {members all : List (String × Json)}
    (distinct : (members.map Prod.fst).Nodup) (more : fields.Extends members all) :
    fromObject fields all = fromObject fields members := by
  obtain ⟨unknown, unnamed, same⟩ := more
  let named : String × Json → Bool := fun m => fields.names.contains m.1
  have sameNamed : (all.filter named).Perm (members.filter named) := by
    have dropped : unknown.filter named = [] := by
      rw [List.filter_eq_nil_iff]
      intro m member
      simpa [named] using unnamed m member
    simpa [dropped] using same.filter named
  have distinctNamed : ((members.filter named).map Prod.fst).Nodup :=
    distinct.sublist (List.filter_sublist.map Prod.fst)
  have distinctAll := (sameNamed.map Prod.fst).nodup_iff.2 distinctNamed
  have unfaulty (m : String × Json) (other : named m = false) :
      memberFault? fields.checks m = none :=
    memberFault?_of_notMem (by simpa [named] using other)
  have faults : (sorted (fun a b => a.1 ≤ b.1) all).findSome? (memberFault? fields.checks) =
      (sorted (fun a b => a.1 ≤ b.1) members).findSome? (memberFault? fields.checks) := by
    have skipped := findSome?_filter (f := memberFault? fields.checks) unfaulty
    rw [← skipped, filter_sorted_eq distinctAll sameNamed, skipped]
  have build : fields.build (member? all) = fields.build (member? members) := by
    refine Fields.Lawful.build_congr fun name member => ?_
    have kept (m : String × Json) (key : m.1 = name) : named m = true := by
      simpa [named, key] using member
    rw [← member?_filter kept all, ← member?_filter kept members,
      member?_perm distinctAll sameNamed]
  rw [fromObject, fromObject, faults, build]

/-! ## What fields read -/

/-- No field has a faulty value, and together they come to a result. -/
structure Fields.Gives (fields : Fields α) (look : String → Option Json)
    (result : Except DecodeError α) : Prop where
  faultless : ∀ check ∈ fields.checks, ∀ j, look check.1 = some j → check.2 j = none
  build : fields.build look = result

variable {look : String → Option Json} {name : String} {read : Reader α} {a : α}
  {result : Except DecodeError α}

theorem gives_field (found : look name = some j) (ok : read j = .ok a) :
    (field name read).Gives look (.ok a) where
  faultless check member k found' := by
    cases List.mem_singleton.1 member
    cases found.symm.trans found'
    simp [fault?, ok]
  build := by simp [field, found, ok]

theorem gives_field_of_none (absent : look name = none) :
    (field name read).Gives look (.error (.missingField name)) where
  faultless check member k found := by
    cases List.mem_singleton.1 member
    cases absent.symm.trans found
  build := by simp [field, absent]

theorem gives_fieldOr {default : α} (found : look name = some j) (ok : read j = .ok a) :
    (fieldOr default name read).Gives look (.ok a) where
  faultless check member k found' := by
    cases List.mem_singleton.1 member
    cases found.symm.trans found'
    simp [fault?, ok]
  build := by simp [fieldOr, found, ok]

theorem Fields.Gives.map (f : α → β) (gives : fields.Gives look result) :
    (f <$> fields).Gives look (f <$> result) where
  faultless := gives.faultless
  build := congrArg (f <$> ·) gives.build

theorem Fields.Gives.seq {f : Fields (α → β)} {function : Except DecodeError (α → β)}
    (first : f.Gives look function) (second : fields.Gives look result) :
    (f <*> fields).Gives look (do (← function) <$> result) where
  faultless check member := (List.mem_append.1 member).elim (first.faultless check)
    (second.faultless check)
  build := by
    change (do (← f.build look) <$> fields.build look) = _
    rw [first.build, second.build]

theorem fromObject_of_gives (distinct : (members.map Prod.fst).Nodup)
    (gives : fields.Gives (member? members) result) : fromObject fields members = result := by
  have faultless : (sorted (fun a b => a.1 ≤ b.1) members).findSome?
      (memberFault? fields.checks) = none := by
    refine List.findSome?_eq_none_iff.2 fun m member => ?_
    have present := (member?_eq_some_iff distinct).2 ((sorted_perm _ _).mem_iff.1 member)
    cases check : fields.checks.find? (·.1 == m.1) with
    | none => simp [memberFault?, check]
    | some c =>
        have same : c.1 = m.1 := by simpa using List.find?_some check
        have passed := gives.faultless c (List.mem_of_find?_eq_some check) m.2 (same ▸ present)
        simp [memberFault?, check, passed]
  rw [fromObject, faultless]
  exact gives.build

/-- An object with the values of the fields is read, in whatever order and with whatever else. -/
theorem fromObject_of_extends [fields.Lawful] {all : List (String × Json)}
    (distinct : (members.map Prod.fst).Nodup) (gives : fields.Gives (member? members) result)
    (more : fields.Extends members all) : fromObject fields all = result := by
  rw [fromObject_eq_of_extends distinct more, fromObject_of_gives distinct gives]

end Decode
end AccountStore.Json
