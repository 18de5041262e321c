import AccountStore.Account.Field

/-!
# Fields by their names

A text names a field if it is the name of the field's column, and it is read so: `Field.ofName?` and
`Field.name` are inverse to each other, and the spelling in JSON, made from the label, is the name
as well.
-/

namespace AccountStore

theorem Column.snakeCase_label (t : Table) (c : Column) :
    Text.snakeCase (c.label t).toList = (c.name t).toList := by
  cases t <;> cases c <;> decide

namespace Field

variable {t : Table} {name : String} {f : Field t}

theorem mem_all (f : Field t) : f ∈ all t :=
  List.mem_map.2 ⟨⟨_, f.checkable⟩, List.mem_attach _ _, rfl⟩

theorem ofName?_name (f : Field t) : ofName? t f.name = some f := by
  have found : ∀ f ∈ all t, ofName? t f.name = some f := by
    cases t <;> decide
  exact found f f.mem_all

theorem name_of_ofName? (found : ofName? t name = some f) : f.name = name := by
  cases t <;> simp only [ofName?] at found <;> split at found <;> cases found <;> rfl

theorem ofName?_eq_some_iff : ofName? t name = some f ↔ f.name = name :=
  ⟨name_of_ofName?, fun named => named ▸ f.ofName?_name⟩

/-- The names that are read are those of the fields. -/
theorem ofName?_eq_find (t : Table) (name : String) :
    ofName? t name = (all t).find? fun f => f.name == name := by
  cases found : (all t).find? fun f => f.name == name with
  | some f =>
      have named : f.name = name := by simpa using List.find?_some found
      exact ofName?_eq_some_iff.2 named
  | none =>
      refine Option.eq_none_iff_forall_ne_some.2 fun f read => ?_
      have other := List.find?_eq_none.1 found f f.mem_all
      exact other (by simpa using name_of_ofName? read)

@[simp] theorem form_eq (f : Field t) : f.form = f.name := by
  rw [form, Column.snakeCase_label, String.ofList_toList]
  rfl

end Field
end AccountStore
