import AccountStore.Text.Blank
import Mathlib.Data.List.DropRight
import Mathlib.Data.List.Induction

/-!
# Trimming

A text without a run at its end, and one without the white space at both ends: what was left out
comes back as texts of the characters in question (`exists_replicate`, `exists_trim`), and
whatever begins and ends with other characters is left whole (`dropEndWhile_append`, `trim_append`).
-/

namespace AccountStore.Text

variable {p : Char → Bool} {mid after : List Char}

/-- The last character, if there is one, is not of the class. -/
def EndsApart (p : Char → Bool) (cs : List Char) : Prop :=
  ∀ c ∈ cs.getLast?, p c = false

theorem dropEndWhile_eq_rdropWhile (p : Char → Bool) (cs : List Char) :
    dropEndWhile p cs = cs.rdropWhile p := rfl

theorem dropEndWhile_append_run (p : Char → Bool) (cs : List Char) :
    dropEndWhile p cs ++ cs.rtakeWhile p = cs :=
  List.rdropWhile_append_rtakeWhile

theorem dropEndWhile_of_endsApart (apart : EndsApart p mid) : dropEndWhile p mid = mid := by
  refine List.rdropWhile_eq_self_iff.2 fun filled => ?_
  rw [apart _ (List.getLast_mem_getLast? filled)]
  exact Bool.false_ne_true

theorem dropEndWhile_append (apart : EndsApart p mid) (run : ∀ c ∈ after, p c = true) :
    dropEndWhile p (mid ++ after) = mid := by
  induction after using List.reverseRecOn with
  | nil => rw [List.append_nil, dropEndWhile_of_endsApart apart]
  | append_singleton before last ih =>
      rw [← List.append_assoc, dropEndWhile_eq_rdropWhile,
        List.rdropWhile_concat_pos _ _ _ (run last (by simp))]
      exact ih fun c member => run c (by simp [member])

theorem exists_replicate (c : Char) (cs : List Char) :
    ∃ n, dropEndWhile (· = c) cs ++ List.replicate n c = cs := by
  have run : ∀ d ∈ cs.rtakeWhile (· = c), d = c := fun d member =>
    of_decide_eq_true (List.mem_rtakeWhile_imp (p := (decide <| · = c)) member)
  refine ⟨(cs.rtakeWhile (· = c)).length, ?_⟩
  rw [← List.eq_replicate_of_mem run, dropEndWhile_append_run]

theorem skipBlanks_append {before : List Char} (blank : ∀ c ∈ before, isBlank c = true)
    (first : ∀ c ∈ mid.head?, isBlank c = false) : skipBlanks (before ++ mid) = mid := by
  rw [skipBlanks, List.dropWhile_append_of_pos blank]
  cases mid with
  | nil => rfl
  | cons c rest => exact List.dropWhile_cons_of_neg (by simp [first c rfl])

theorem exists_trim (cs : List Char) :
    ∃ before after, cs = before ++ trim cs ++ after ∧ (∀ c ∈ before, isBlank c = true) ∧
      ∀ c ∈ after, isBlank c = true := by
  refine ⟨cs.takeWhile isBlank, (skipBlanks cs).rtakeWhile isBlank, ?_,
    fun c => List.mem_takeWhile_imp, fun c => List.mem_rtakeWhile_imp⟩
  rw [List.append_assoc, trim, dropEndWhile_append_run, skipBlanks, List.takeWhile_append_dropWhile]

theorem trim_append {before : List Char} (blank : ∀ c ∈ before, isBlank c = true)
    (first : ∀ c ∈ mid.head?, isBlank c = false) (last : EndsApart isBlank mid) (filled : mid ≠ [])
    (blankToo : ∀ c ∈ after, isBlank c = true) : trim (before ++ mid ++ after) = mid := by
  have shown : ∀ c ∈ (mid ++ after).head?, isBlank c = false := by
    rwa [List.head?_append_of_ne_nil _ filled]
  rw [trim, List.append_assoc, skipBlanks_append blank shown, dropEndWhile_append last blankToo]

end AccountStore.Text
