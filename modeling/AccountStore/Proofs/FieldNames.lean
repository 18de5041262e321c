import AccountStore.Proofs.Account.Field
import AccountStore.Proofs.Operation.Dialogue
import AccountStore.Proofs.Operation.Failure
import AccountStore.Proofs.Operation.Request
import AccountStore.Proofs.Statement.Written

/-!
# Names of fields

The name of a column becomes part of a statement's text, so a service takes only names that the
table registers (`Table.Registers`). Any other is refused at once. A registered one is the name that
the statement compares with, and the value is never part of the text (`field_names_closed`). The
readers of texts and of JSON know the same names.
-/

namespace AccountStore

/-- The name of a column that reads return and that may be checked. -/
def Table.Registers (t : Table) (name : String) : Prop :=
  ∃ c ∈ t.projection, c ∈ t.checkable ∧ c.name t = name

/-! ## Readers -/

theorem Table.checkable_subset (t : Table) : t.checkable ⊆ t.projection := by
  cases t <;> decide

namespace Field

variable {t : Table} {name : String}

theorem registers_iff : t.Registers name ↔ ∃ f, ofName? t name = some f := by
  constructor
  · rintro ⟨c, _, checkable, rfl⟩
    exact ⟨⟨c, checkable⟩, ofName?_name ⟨c, checkable⟩⟩
  · rintro ⟨f, found⟩
    exact ⟨f.column, t.checkable_subset f.checkable, f.checkable, name_of_ofName? found⟩

theorem not_registers_iff : ¬t.Registers name ↔ ofName? t name = none := by
  rw [registers_iff, ← Option.ne_none_iff_exists', not_not]

end Field

theorem Json.Decode.oneOf_string (values : List (String × α)) (name : String) :
    oneOf values (.string name) =
      (values.find? (·.1 == name)).elim (.error (.unknownVariant name (values.map (·.1))))
        fun value => .ok value.2 := by
  simp only [oneOf, tagged, Bind.bind, Except.bind]
  cases values.find? (·.1 == name) <;> rfl

/-- A JSON text is read as the field that it names. -/
theorem Field.ofJson_string (t : Table) (name : String) :
    ofJson t (.string name) =
      (ofName? t name).elim (.error (.unknownVariant name ((all t).map Field.name))) .ok := by
  simp only [ofJson, form_eq, ofName?_eq_find]
  rw [Json.Decode.oneOf_string, List.find?_map, List.map_map]
  change (((all t).find? fun f => f.name == name).map _).elim _ _ = _
  cases (all t).find? fun f => f.name == name <;> rfl

/-- How the names of fields are written and read. -/
structure FieldNames (t : Table) : Prop where
  registered (name : String) : t.Registers name ↔ name ∈ match t with
    | .users =>
        ["id", "first_name", "last_name", "birth_date", "phone_number", "gender", "refresh_token"]
    | .admins =>
        ["id", "role", "first_name", "last_name", "birth_date", "phone_number", "email", "gender",
         "refresh_token"]
  password : ¬t.Registers "password"
  parsed (name : String) : (∃ f, Field.ofName? t name = some f) ↔ t.Registers name
  /-- JSON texts and names are read alike. -/
  json (name : String) (f : Field t) :
    Field.ofJson t (.string name) = .ok f ↔ Field.ofName? t name = some f
  written (name : String) (f : Field t) :
    Field.ofName? t name = some f → f.name = name ∧ toString f = name ∧ f.toJson = .string name

theorem Table.registers_iff_mem {t : Table} {name : String} :
    t.Registers name ↔ name ∈ t.checkable.map (·.name t) := by
  rw [List.mem_map]
  exact ⟨fun ⟨c, _, checkable, named⟩ => ⟨c, checkable, named⟩,
    fun ⟨c, checkable, named⟩ => ⟨c, t.checkable_subset checkable, checkable, named⟩⟩

theorem Table.fieldNames (t : Table) : FieldNames t where
  registered name := by
    rw [Table.registers_iff_mem]
    cases t <;> rfl
  password := by
    rw [Table.registers_iff_mem]
    cases t <;> decide
  parsed name := Field.registers_iff.symm
  json name f := by
    rw [Field.ofJson_string]
    cases Field.ofName? t name <;> simp
  written name f found := by
    have named := Field.name_of_ofName? found
    exact ⟨named, named, congrArg Json.string (f.form_eq.trans named)⟩

/-! ## Checks -/

theorem Statement.text_count (t : Table) (c : Column) (value : String) :
    (count t c value).text =
      "SELECT count(1) AS count FROM " ++ t.name ++ " WHERE " ++ c.name t ++
        " = $1 AND deleted_at IS NULL" := by
  change "SELECT count(1) AS count FROM " ++ t.name ++ " WHERE " ++ c.name t ++ " = $1" ++
    " AND deleted_at IS NULL" = _
  rw [String.append_assoc]
  rfl

/-- What comes of asking a service, under a deadline, whether a live row holds a value in a named
column. -/
structure ChecksField (t : Table) (operation : String) (timing : Timing) (name value : String)
    (script : Script) (run : Except AccountError (Answer α) × Script) : Prop where
  refused : (∃ e, run.1 = .error e ∧ e.code = "VALIDATION_ERROR") ↔ ¬t.Registers name
  unsent : ¬t.Registers name → run = (.error (.validation (.field t name)), script)
  /-- In time, the name that is compared is the one that was given. -/
  sent : t.Registers name → timing.pause ≤ timing.limit → ∃ s, run.2.log = script.log ++ [s] ∧
    s.text = "SELECT count(1) AS count FROM " ++ t.name ++ " WHERE " ++ name ++
      " = $1 AND deleted_at IS NULL" ∧
    s.values = [.text (some value)]
  late : t.Registers name → timing.limit < timing.pause →
    run = (.error (.timedOut operation), script)

theorem AccountError.OfStore.unrefused {e : AccountError} (store : e.OfStore) :
    e.code ≠ "VALIDATION_ERROR" := by
  cases store <;> simp [code]

section Calls

variable {α : Type} [Account α]

theorem ServiceCall.program_checkField_none {name value : String} (stamp : Stamp)
    (unknown : Field.ofName? (Account.table α) name = none) :
    (checkField name value : ServiceCall α).program stamp =
      .fail (.validation (.field (Account.table α) name)) := by
  simp only [program, Service.checkField, unknown]
  rfl

theorem ServiceCall.program_checkField_some {name value : String} {f : Field (Account.table α)}
    (stamp : Stamp) (found : Field.ofName? (Account.table α) name = some f) :
    (checkField name value : ServiceCall α).program stamp =
      .pause (StoreCall.checkField f value).program := by
  simp only [program, Service.checkField, found]
  rfl

/-- A check sends its one statement, whatever is answered. -/
theorem StoreCall.log_checkField (f : Field (Account.table α)) (value : String) (script : Script) :
    ((checkField f value : StoreCall α).program.run Script.driver script).2.log =
      script.log ++ [.count (Account.table α) f.column value] := by
  obtain ⟨said, answers, speaks⟩ :=
    Program.exists_speaks Script.driver (checkField f value : StoreCall α).program script
  change (Answer.truth <$> Store.checkField _ f value).Speaks said _ at speaks
  rw [Store.checkField_eq_counted, Program.map_query] at speaks
  obtain ⟨heard, rfl, _⟩ := speaks.of_query fun rows =>
    (Program.ended_ofOption _ (Store.counted? rows)).bind fun _ => ⟨_, rfl⟩
  exact Script.log_of_answers answers

theorem ServiceCall.checksField (timing : Timing) (stamp : Stamp) (name value : String)
    (script : Script) :
    ChecksField (Account.table α) (Account.repository α ++ "." ++ "CheckField") timing name value
      script ((Call.service (.checkField name value) : Call α).run Script.driver timing stamp
        script) := by
  change ChecksField _ _ _ _ _ _ (((checkField name value : ServiceCall α).program stamp).runWithin
    Script.driver timing (Account.repository α ++ "." ++ "CheckField") 0 script)
  cases found : Field.ofName? (Account.table α) name with
  | none =>
      have unknown := Field.not_registers_iff.2 found
      rw [program_checkField_none stamp found]
      exact {
        refused := iff_of_true ⟨_, rfl, rfl⟩ unknown
        unsent := fun _ => rfl
        sent := fun known => absurd known unknown
        late := fun known => absurd known unknown }
  | some f =>
      have known := Field.registers_iff.2 ⟨f, found⟩
      have run := (StoreCall.untimed_program (.checkField f value)).runWithin_pause Script.driver
        timing (Account.repository α ++ "." ++ "CheckField") script
      rw [program_checkField_some stamp found]
      constructor
      case refused =>
        refine iff_of_false ?_ (not_not.2 known)
        rintro ⟨e, failed, code⟩
        have unrefused : (StoreCall.checkField f value : StoreCall α).program.FailsWith
            fun e => e.code ≠ "VALIDATION_ERROR" :=
          (StoreCall.direct_program _).failsWith fun _ => AccountError.OfStore.unrefused
        exact Program.FailsWith.runWithin (p := .pause _) unrefused Script.driver
          (by simp [AccountError.code]) timing 0 script failed code
      case unsent => exact fun unknown => absurd known unknown
      case late => exact fun _ late => run.trans (if_pos late)
      case sent =>
        intro _ inTime
        rw [run, if_neg (Nat.not_lt.2 inTime)]
        refine ⟨_, StoreCall.log_checkField f value script, ?_, rfl⟩
        rw [Statement.text_count, ← Field.name_of_ofName? found, Field.name]

end Calls

/-- Names of fields are closed: a registered one is compared with as it was given, and any other is
refused before anything is sent. -/
theorem field_names_closed (α : Type) [Account α] :
    FieldNames (Account.table α) ∧
      ∀ (timing : Timing) (stamp : Stamp) (name value : String) (script : Script),
        ChecksField (Account.table α) (Account.repository α ++ ".CheckField") timing name value
          script ((Call.service (.checkField name value) : Call α).run Script.driver timing stamp
            script) := by
  refine ⟨Table.fieldNames _, fun timing stamp name value script => ?_⟩
  have checks := ServiceCall.checksField (α := α) timing stamp name value script
  rwa [String.append_assoc] at checks

/-- A name that is statement text is refused, and a registered one is compared with. -/
theorem field_names_closed_of_injection :
    let run (name : String) := (Call.service (.checkField name "1 OR 1=1") : Call User).run
      Script.driver ⟨0, 30000⟩ ⟨"", .epoch⟩ ⟨[], [.ok [[("count", .bigint (some 1))]]], []⟩
    (run "1=1; DROP TABLE users").2.log = [] ∧
      (∃ e, (run "password").1 = .error e ∧ e.code = "VALIDATION_ERROR") ∧
      ∃ s, (run "phone_number").2.log = [s] ∧
        s.text = "SELECT count(1) AS count FROM users WHERE phone_number = $1" ++
          " AND deleted_at IS NULL" ∧
        s.values = [.text (some "1 OR 1=1")] := by
  intro run
  obtain ⟨names, checks⟩ := field_names_closed User
  refine ⟨?_, (checks _ _ _ _ _).refused.2 names.password, ?_⟩
  · have unknown : ¬Table.users.Registers "1=1; DROP TABLE users" :=
      mt (names.registered _).1 (by decide)
    exact congrArg (·.2.log) ((checks _ _ _ _ _).unsent unknown)
  · have known : Table.users.Registers "phone_number" := (names.registered _).2 (by decide)
    obtain ⟨s, log, text, values⟩ := (checks ⟨0, 30000⟩ ⟨"", .epoch⟩ "phone_number" "1 OR 1=1"
      ⟨[], [.ok [[("count", .bigint (some 1))]]], []⟩).sent known (by decide)
    exact ⟨s, log, text, values⟩

/-- Where the deadline passes first, a check of a registered name is neither refused nor sent. -/
theorem checkField_cut_off :
    let run := (Call.service (.checkField "phone_number" "1") : Call User).run Script.driver ⟨2, 1⟩
      ⟨"", .epoch⟩ ⟨[], [.ok [[("count", .bigint (some 1))]]], []⟩
    Table.users.Registers "phone_number" ∧
      ¬((∃ e, run.1 = .error e ∧ e.code = "VALIDATION_ERROR") ∨ ∃ s, run.2.log = [s]) := by
  intro run
  have known : Table.users.Registers "phone_number" := ⟨.phoneNumber, by decide, by decide, rfl⟩
  have unsent := (ServiceCall.checksField (α := User) ⟨2, 1⟩ ⟨"", .epoch⟩ "phone_number" "1"
    ⟨[], [.ok [[("count", .bigint (some 1))]]], []⟩).late known (by decide)
  refine ⟨known, ?_⟩
  rw [show run = _ from unsent]
  simp [AccountError.code]

end AccountStore
