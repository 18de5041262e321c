/-!
Splitting texts at a separator.
-/

namespace AccountStore.Text

/-- The parts of a text between the separators; one more than there are separators. -/
def splitAll (separator : Char) : List Char → List (List Char)
  | [] => [[]]
  | c :: rest =>
      if c = separator then [] :: splitAll separator rest
      else match splitAll separator rest with
        | [] => [[c]]
        | part :: parts => (c :: part) :: parts

/-- The text before and after the first separator. -/
def splitFirst? (separator : Char) : List Char → Option (List Char × List Char)
  | [] => none
  | c :: rest =>
      if c = separator then some ([], rest)
      else (splitFirst? separator rest).map fun (before, after) => (c :: before, after)

/-- The text before and after the last separator. -/
def splitLast? (separator : Char) (cs : List Char) : Option (List Char × List Char) :=
  (splitFirst? separator cs.reverse).map fun (after, before) => (before.reverse, after.reverse)

theorem splitFirst?_eq_some {separator : Char} {cs before after : List Char} :
    splitFirst? separator cs = some (before, after) ↔
      cs = before ++ separator :: after ∧ separator ∉ before := by
  induction cs generalizing before with
  | nil => simp [splitFirst?]
  | cons c rest ih =>
      simp only [splitFirst?]
      split
      · rename_i equal
        subst equal
        cases before <;> simp_all
      · rename_i distinct
        cases before with
        | nil =>
            simp only [Option.map_eq_some_iff, Prod.mk.injEq, reduceCtorEq, false_and, and_false,
              exists_false, List.nil_append, List.cons.injEq, List.not_mem_nil, not_false_eq_true,
              and_true, false_iff, not_and]
            exact fun equal => absurd equal distinct
        | cons b before =>
            simp only [Option.map_eq_some_iff, Prod.exists, Prod.mk.injEq, List.cons.injEq,
              List.cons_append, List.mem_cons, not_or]
            constructor
            · rintro ⟨p, q, found, ⟨rfl, rfl⟩, rfl⟩
              obtain ⟨shape, absent⟩ := ih.1 found
              exact ⟨⟨rfl, shape⟩, fun equal => distinct equal.symm, absent⟩
            · rintro ⟨⟨rfl, shape⟩, _, absent⟩
              exact ⟨before, after, ih.2 ⟨shape, absent⟩, ⟨rfl, rfl⟩, rfl⟩

example : splitAll '.' "a..b".toList = ["a".toList, [], "b".toList] := by decide

end AccountStore.Text
