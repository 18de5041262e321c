import AccountStore.Proofs.Operation.Change

/-!
# The programs of calls

`Program.Makes` says what a program may send, given the change that its call may make: reads of live
rows, the look-up of a deletion marker, and the one write, after which it succeeds at once. A
statement that fails ends it. All calls satisfy it. `Program.Needs` says of a program that it does
not succeed unless it writes; it holds of creations, updates and deletions.
-/

namespace AccountStore
open Memory

/-- A read of live rows. -/
def Statement.Gated (s : Statement) : Prop :=
  match s.meaning with
  | .select _ conditions _ _ => .live ∈ conditions
  | .count conditions => .live ∈ conditions
  | .found conditions => .live ∈ conditions
  | _ => False

theorem Statement.gated_list (t : Table) (filters : List Filter) (page : Pagination) :
    (list t filters page).Gated :=
  List.mem_cons_self

theorem Statement.gated_count (t : Table) (c : Column) (value : String) :
    (count t c value).Gated :=
  List.mem_cons_of_mem _ List.mem_cons_self

theorem Statement.gated_found (t : Table) (predicate : ContactPredicate) :
    (found t predicate).Gated :=
  List.mem_cons_of_mem _ List.mem_cons_self

def Change.Reads (t : Table) (c : Change) (s : Statement) : Prop :=
  s.table = t ∧ (s.Gated ∨ ∃ id, c.target? = some id ∧ s = .deletionMarker t id)

theorem Change.Reads.isMutating {t : Table} {c : Change} {s : Statement} (reads : c.Reads t s) :
    s.isMutating = false := by
  rcases reads.2 with gated | ⟨id, _, rfl⟩
  · unfold Statement.Gated at gated
    unfold Statement.isMutating
    cases means : s.meaning with
    | select | count | found => rfl
    | insert | update => simp only [means] at gated
  · rfl

namespace Program

/-! ## Answers and what follows them -/

theorem reply_bind (next : β → Program α) (f : α → Program γ) (answer : Except DriverError β) :
    (reply next answer).bind f = reply (fun b => (next b).bind f) answer := by
  cases answer <;> rfl

theorem send_bind (s : Statement) (f : Nat → Program α) : (send s).bind f = .execute s (reply f) :=
  congrArg (Program.execute s) (funext (reply_bind pure f))

theorem rows_bind (s : Statement) (f : List ResultRow → Program α) :
    (rows s).bind f = .query s (reply f) :=
  congrArg (Program.query s) (funext (reply_bind pure f))

theorem map_execute (f : α → γ) (s : Statement) (next : Nat → Program α) :
    f <$> execute s (reply next) = .execute s (reply fun n => f <$> next n) :=
  congrArg (Program.execute s) (funext (reply_bind next _))

theorem map_query (f : α → γ) (s : Statement) (next : List ResultRow → Program α) :
    f <$> query s (reply next) = .query s (reply fun rows => f <$> next rows) :=
  congrArg (Program.query s) (funext (reply_bind next _))

/-- An error of the driver ends the program with what callers are told of it. -/
def Stops (next : Except DriverError β → Program α) : Prop :=
  ∀ e, next (.error e) = .fail (.ofDriver e)

theorem stops_reply (next : β → Program α) : Stops (reply next) := fun _ => rfl

theorem Stops.bind {next : Except DriverError β → Program α} (stops : Stops next)
    (f : α → Program γ) : Stops fun answer => (next answer).bind f :=
  fun e => congrArg (·.bind f) (stops e)

/-- The program sends nothing but the reads and the write of a change. A write that takes effect ends
it with success, and a statement that fails ends it with an error. -/
def Makes (t : Table) (c : Change) : Program α → Prop
  | .done _ => True
  | .execute s next =>
      c.Writes t s ∧ (∀ n, ∃ a, next (.ok (n + 1)) = .done (.ok a)) ∧
        (next (.ok 0)).Makes t c ∧ Stops next
  | .query s next =>
      (c.Reads t s ∨ c.Writes t s ∧ ∃ cells returning, s = .insert t cells returning ∧
        ∀ n, ∃ a, next (.ok [Row.project t t.projection (Row.ofCells n cells)]) = .done (.ok a)) ∧
      (∀ rows, (next (.ok rows)).Makes t c) ∧ Stops next
  | .pause next => next.Makes t c

/-- The program does not succeed unless it inserts a row or an update affects one. -/
def Needs : Program α → Prop
  | .done r => ∃ e, r = .error e
  | .execute s next => (∃ t cells returning, s = .insert t cells returning) ∨ (next (.ok 0)).Needs
  | .query s next =>
      (∃ t cells returning, s = .insert t cells returning) ∨ ∀ rows, (next (.ok rows)).Needs
  | .pause next => next.Needs

def Ended (p : Program α) : Prop := ∃ r, p = .done r

variable {t : Table} {c : Change} {p : Program α}

theorem Stops.ended {next : Except DriverError β → Program α} (stops : Stops next)
    (e : DriverError) : (next (.error e)).Ended :=
  ⟨_, stops e⟩

theorem Stops.needs {next : Except DriverError β → Program α} (stops : Stops next)
    (e : DriverError) : (next (.error e)).Needs := by
  rw [stops e]
  exact ⟨_, rfl⟩

theorem ended_reply {next : β → Program α} (ended : ∀ b, (next b).Ended)
    (answer : Except DriverError β) : (reply next answer).Ended := by
  cases answer with
  | ok b => exact ended b
  | error e => exact ⟨_, rfl⟩

theorem Ended.makes (ended : p.Ended) : p.Makes t c := by
  obtain ⟨r, rfl⟩ := ended
  trivial

theorem Ended.makes_bind (ended : p.Ended) {f : α → Program β} (next : ∀ a, (f a).Makes t c) :
    (p.bind f).Makes t c := by
  obtain ⟨r, rfl⟩ := ended
  cases r with
  | ok a => exact next a
  | error e => trivial

theorem Ended.needs_bind (ended : p.Ended) {f : α → Program β} (next : ∀ a, (f a).Needs) :
    (p.bind f).Needs := by
  obtain ⟨r, rfl⟩ := ended
  cases r with
  | ok a => exact next a
  | error e => exact ⟨e, rfl⟩

theorem ended_ofOption (e : AccountError) (x : Option α) : (ofOption e x).Ended := by
  cases x <;> exact ⟨_, rfl⟩

theorem Ended.bind (ended : p.Ended) {f : α → Program β} (next : ∀ a, (f a).Ended) :
    (p.bind f).Ended := by
  obtain ⟨r, rfl⟩ := ended
  cases r with
  | ok a => exact next a
  | error e => exact ⟨_, rfl⟩

theorem Makes.map (makes : p.Makes t c) (f : α → β) : (f <$> p).Makes t c := by
  change (p.bind (pure ∘ f)).Makes t c
  induction p with
  | done r => cases r <;> trivial
  | execute s next ih =>
      obtain ⟨writes, success, rest, stops⟩ := makes
      refine ⟨writes, fun n => ?_, ih (.ok 0) rest, stops.bind _⟩
      obtain ⟨a, ha⟩ := success n
      exact ⟨f a, congrArg (bind · (pure ∘ f)) ha⟩
  | query s next ih =>
      obtain ⟨sends, rest, stops⟩ := makes
      refine ⟨sends.imp_right fun ⟨writes, cells, returning, hs, success⟩ =>
        ⟨writes, cells, returning, hs, fun n => ?_⟩, fun rows => ih (.ok rows) (rest rows),
        stops.bind _⟩
      obtain ⟨a, ha⟩ := success n
      exact ⟨f a, congrArg (bind · (pure ∘ f)) ha⟩
  | pause next ih => exact ih makes

theorem Needs.map (needs : p.Needs) (f : α → β) : (f <$> p).Needs := by
  change (p.bind (pure ∘ f)).Needs
  induction p with
  | done r =>
      obtain ⟨e, rfl⟩ := needs
      exact ⟨e, rfl⟩
  | execute s next ih => exact needs.imp_right (ih (.ok 0))
  | query s next ih => exact needs.imp_right fun rest rows => ih (.ok rows) (rest rows)
  | pause next ih => exact ih needs

end Program

/-! ## Operations on a table -/

theorem Statement.malformed_cells {α : Type} [Account α] (write : Write) (t : Table)
    (columns : List Column) (some : columns ≠ []) (allowed : ∀ c ∈ columns, c ∉ forbidden write)
    (a : α) : malformed? write t (Store.cells columns a) = none := by
  have notEmpty : (Store.cells columns a).isEmpty = false := by
    simpa [Store.cells] using some
  have found : (Store.cells columns a).find? (fun c => c.1 ∈ forbidden write) = none := by
    refine List.find?_eq_none.2 fun cell member => ?_
    obtain ⟨c, there, rfl⟩ := List.mem_map.1 member
    simpa using allowed c there
  simp only [malformed?, notEmpty, found, Bool.false_eq_true, if_false, Option.map_none]

namespace Store

variable {α : Type} [Account α]

theorem insertion_eq (a : α) (returning : Bool) :
    insertion a returning = .pure (.insert (Account.table α)
      (cells (Account.table α).insertable a) returning) := by
  have built := Statement.malformed_cells .insert (Account.table α)
    (Account.table α).insertable (by cases Account.table α <;> decide)
    (by cases Account.table α <;> decide) a
  simp only [insertion, Statement.inserting, built]
  rfl

theorem create_eq (a : α) :
    create a = .execute (.insert (Account.table α) (cells (Account.table α).insertable a) false)
      (Program.reply fun _ => .pure (Account.id a)) := by
  change (insertion a false).bind _ = _
  rw [insertion_eq]
  exact Program.send_bind _ _

theorem createAndFetch_eq (a : α) :
    createAndFetch a =
      .query (.insert (Account.table α) (cells (Account.table α).insertable a) true)
        (Program.reply fun rows =>
          (Program.ofOption (.internal "insert returned no row") rows.head?).bind ofRow) := by
  change (insertion a true).bind _ = _
  rw [insertion_eq]
  exact Program.rows_bind _ _

theorem get_eq (id : String) :
    (get id : Program α) = .query (.byId (Account.table α) id) (Program.reply fun rows =>
      (Program.ofOption .notFound rows.head?).bind ofRow) :=
  Program.rows_bind _ _

theorem list_eq (page : Pagination) (filters : List Filter) :
    (list page filters : Program (List α)) =
      .query (.list (Account.table α) filters page) (Program.reply fun rows =>
        .ofOption (.database .undecodable) (rows.mapM Account.ofRow?)) :=
  Program.rows_bind _ _

theorem update_eq (a : α) :
    update a = modify (Account.table α) (Account.id a) (.update (Account.table α)
      ((cells (Account.table α).updatable a).map fun c => (c.1, .value c.2))
      (Statement.gate (Account.id a))) := by
  have built := Statement.malformed_cells .update (Account.table α)
    (Account.table α).updatable (by cases Account.table α <;> decide)
    (by cases Account.table α <;> decide) a
  simp only [update, Statement.updating, built]
  rfl

/-- The look-up that follows a statement which should have affected a live row. -/
def explained (t : Table) (id : String) : Program Unit :=
  .query (.deletionMarker t id) (Program.reply fun rows => .fail (missing rows))

theorem explainMissing_bind (t : Table) (id : String) :
    (explainMissing t id).bind .fail = explained t id := by
  refine congrArg (Program.query _) (funext fun answer => ?_)
  cases answer <;> rfl

theorem modify_eq (t : Table) (id : String) (s : Statement) :
    modify t id s =
      .execute s (Program.reply fun n => if n = 0 then explained t id else .pure ()) := by
  rw [← explainMissing_bind]
  exact Program.send_bind _ _

theorem changePassword_eq (t : Table) (predicate : ContactPredicate) (password : String) :
    changePassword t predicate password =
      .execute (.setPassword t predicate password)
        (Program.reply fun n => .pure (decide (0 < n))) :=
  Program.send_bind _ _

theorem updateRefreshToken_eq (t : Table) (id token : String) :
    updateRefreshToken t id token =
      .execute (.setRefreshToken t id token) (Program.reply fun n => .pure (decide (0 < n))) :=
  Program.send_bind _ _

variable {t : Table} {c : Change}

theorem makes_insertion [Account.Lawful α] (a : α) :
    (create a).Makes (Account.table α) (StoreCall.create a).change ∧
      (createAndFetch a).Makes (Account.table α) (StoreCall.create a).change := by
  rw [create_eq, createAndFetch_eq]
  refine ⟨⟨⟨_, rfl⟩, fun n => ⟨_, rfl⟩, trivial, Program.stops_reply _⟩,
    Or.inr ⟨⟨_, rfl⟩, _, _, rfl, fun n => ?_⟩,
    fun rows => ((Program.ended_ofOption _ _).bind fun row => Program.ended_ofOption _ _).makes,
    Program.stops_reply _⟩
  obtain ⟨b, hb⟩ := Account.Lawful.exists_ofRow (α := α) _ (new_ofCells n a).typed
  refine ⟨b, ?_⟩
  change ofRow _ = _
  simp only [ofRow, hb]
  rfl

theorem makes_explained {id : String} (target : c.target? = some id) :
    (explained t id).Makes t c :=
  ⟨Or.inl ⟨rfl, Or.inr ⟨id, target, rfl⟩⟩, fun _ => trivial, Program.stops_reply _⟩

theorem makes_modify {id : String} {s : Statement} (writes : c.Writes t s)
    (target : c.target? = some id) : (modify t id s).Makes t c := by
  rw [modify_eq]
  exact ⟨writes, fun n => ⟨(), rfl⟩, makes_explained target, Program.stops_reply _⟩

theorem makes_delete (t : Table) (id : String) : (delete t id).Makes t (.deletion id) :=
  makes_modify rfl rfl

theorem makes_update [Account.Lawful α] (a : α) :
    (update a).Makes (Account.table α) (StoreCall.update a).change := by
  rw [update_eq]
  exact makes_modify rfl rfl

theorem makes_changePassword (t : Table) (predicate : ContactPredicate) (password : String) :
    (changePassword t predicate password).Makes t (.password predicate password) := by
  rw [changePassword_eq]
  exact ⟨rfl, fun _ => ⟨_, rfl⟩, trivial, Program.stops_reply _⟩

theorem makes_updateRefreshToken (t : Table) (id token : String) :
    (updateRefreshToken t id token).Makes t (.refreshToken id token) := by
  rw [updateRefreshToken_eq]
  exact ⟨rfl, fun _ => ⟨_, rfl⟩, trivial, Program.stops_reply _⟩

theorem makes_list (page : Pagination) (filters : List Filter) :
    (list page filters : Program (List α)).Makes (Account.table α) c := by
  rw [list_eq]
  exact ⟨Or.inl ⟨rfl, Or.inl (Statement.gated_list _ _ _)⟩,
    fun _ => (Program.ended_ofOption _ _).makes, Program.stops_reply _⟩

theorem makes_get (id : String) : (get id : Program α).Makes (Account.table α) c := by
  rw [get_eq]
  exact ⟨Or.inl ⟨rfl, Or.inl (Statement.gated_list _ _ _)⟩, fun _ =>
    ((Program.ended_ofOption _ _).bind fun _ => Program.ended_ofOption _ _).makes,
    Program.stops_reply _⟩

/-- What an existence check makes of the rows that it gets: no row means no. -/
def found? (rows : List ResultRow) : Option Bool :=
  match rows.head? with
  | none => some false
  | some row => row.bool? "found"

/-- What the check of a field makes of the rows that it gets. -/
def counted? (rows : List ResultRow) : Option Bool :=
  match rows.head? with
  | none => some false
  | some row => (row.bigint? "count").map fun n => decide (0 < n)

theorem ifExists_eq_found (t : Table) (predicate : ContactPredicate) :
    ifExists t predicate = .query (.found t predicate)
      (Program.reply fun rows => .ofOption (.database .undecodable) (found? rows)) := by
  refine (Program.rows_bind _ _).trans ?_
  congr 2
  funext rows
  unfold found?
  cases rows.head? <;> rfl

theorem checkField_eq_counted (t : Table) (field : Field t) (value : String) :
    checkField t field value = .query (.count t field.column value)
      (Program.reply fun rows => .ofOption (.database .undecodable) (counted? rows)) := by
  refine (Program.rows_bind _ _).trans ?_
  congr 2
  funext rows
  unfold counted?
  cases rows.head? with
  | none => rfl
  | some row =>
      dsimp only
      cases row.bigint? "count" <;> rfl

theorem makes_checkField (t : Table) (field : Field t) (value : String) :
    (checkField t field value).Makes t c := by
  rw [checkField_eq_counted]
  exact ⟨Or.inl ⟨rfl, Or.inl (Statement.gated_count t field.column value)⟩,
    fun _ => (Program.ended_ofOption _ _).makes, Program.stops_reply _⟩

theorem ifExists_eq (t : Table) (predicate : ContactPredicate) :
    ∃ next : List ResultRow → Program Bool, (∀ rows, (next rows).Ended) ∧
      ifExists t predicate = .query (.found t predicate) (Program.reply next) :=
  ⟨_, fun _ => Program.ended_ofOption _ _, ifExists_eq_found t predicate⟩

theorem needs_modify (t : Table) (id : String) (s : Statement) : (modify t id s).Needs := by
  rw [modify_eq]
  refine Or.inr ?_
  change (explained t id).Needs
  exact Or.inr fun rows => ⟨_, rfl⟩

end Store

/-! ## Calls -/

section Calls

variable {α : Type} [Account α]

def Call.program (stamp : Stamp) : Call α → Program (Answer α)
  | .store call => call.program
  | .service call => call.program stamp

def Call.operation : Call α → String
  | .store _ => ""
  | .service call => call.operation

theorem Service.checked_cases (a : α) (next : Program β) :
    checked a next = next ∨ ∃ r, checked a next = .fail (.validation r) := by
  unfold checked
  split
  · exact Or.inl rfl
  · exact Or.inr ⟨_, rfl⟩

theorem Service.create_cases (stamp : Stamp) (a : α) :
    (∃ r, create stamp a = .fail (.validation r)) ∨
      ∃ taken : List ResultRow → Program Bool, (∀ rows, (taken rows).Ended) ∧
        create stamp a = .pause (.query (.found (Account.table α)
            (Account.predicate (Account.guard (Account.assignIdentity stamp a))))
          (Program.reply fun rows =>
            (taken rows).bind fun b => if b then .fail (.conflict (Account.subject α))
              else .pause (Store.createAndFetch (Account.assignIdentity stamp a)))) := by
  obtain ⟨taken, ended, eq⟩ := Store.ifExists_eq (Account.table α)
    (Account.predicate (Account.guard (Account.assignIdentity stamp a)))
  rcases checked_cases (Account.assignIdentity stamp a) (.pause
    ((Store.ifExists (Account.table α)
      (Account.predicate (Account.guard (Account.assignIdentity stamp a)))).bind fun b =>
        if b then .fail (.conflict (Account.subject α))
        else .pause (Store.createAndFetch (Account.assignIdentity stamp a)))) with passed | refused
  · refine Or.inr ⟨taken, ended, passed.trans ?_⟩
    rw [eq]
    exact congrArg (fun next => Program.pause (.query _ next))
      (funext fun answer => Program.reply_bind _ _ answer)
  · exact Or.inl refused

theorem Service.update_cases (stamp : Stamp) (a : α) :
    (∃ r, update stamp a = .fail (.validation r)) ∨
      update stamp a = .pause (Store.update (Account.touch stamp.now a)) :=
  (checked_cases _ _).symm

/-! ## Success needs a write -/

theorem StoreCall.needs_program (call : StoreCall α) {id : String}
    (target : call.change.target? = some id) : call.program.Needs := by
  cases call with
  | create a =>
      refine Program.Needs.map ?_ _
      rw [Store.create_eq]
      exact Or.inl ⟨_, _, _, rfl⟩
  | createAndFetch a =>
      refine Program.Needs.map ?_ _
      rw [Store.createAndFetch_eq]
      exact Or.inl ⟨_, _, _, rfl⟩
  | update a =>
      refine Program.Needs.map ?_ _
      rw [Store.update_eq]
      exact Store.needs_modify _ _ _
  | delete id => exact (Store.needs_modify _ _ _).map _
  | get | list | checkField | ifExists | changePassword | updateRefreshToken =>
      exact absurd target nofun

theorem ServiceCall.needs_program {stamp : Stamp} {call : ServiceCall α} {id : String}
    (target : (call.change stamp).target? = some id) : (call.program stamp).Needs := by
  cases call with
  | create a =>
      refine Program.Needs.map ?_ _
      rcases Service.create_cases stamp a with ⟨r, eq⟩ | ⟨taken, ended, eq⟩ <;> rw [eq]
      · exact ⟨_, rfl⟩
      · refine Or.inr fun rows => (ended rows).needs_bind fun b => ?_
        cases b with
        | true => exact ⟨_, rfl⟩
        | false =>
            change (Store.createAndFetch _).Needs
            rw [Store.createAndFetch_eq]
            exact Or.inl ⟨_, _, _, rfl⟩
  | update a =>
      refine Program.Needs.map ?_ _
      rcases Service.update_cases stamp a with ⟨r, eq⟩ | eq <;> rw [eq]
      · exact ⟨_, rfl⟩
      · change (Store.update _).Needs
        rw [Store.update_eq]
        exact Store.needs_modify _ _ _
  | delete id => exact StoreCall.needs_program (.delete id) target
  | get | list | checkField | ifExists | changePassword | updateRefreshToken =>
      exact absurd target nofun

theorem Call.needs_program {stamp : Stamp} {call : Call α} {id : String}
    (target : (call.change stamp).target? = some id) : (call.program stamp).Needs := by
  cases call with
  | store call => exact call.needs_program target
  | service call => exact ServiceCall.needs_program target

/-! ## What calls send -/

variable [Account.Lawful α]

theorem StoreCall.makes_program (call : StoreCall α) :
    call.program.Makes (Account.table α) call.change := by
  cases call with
  | create a => exact (Store.makes_insertion a).1.map _
  | createAndFetch a => exact (Store.makes_insertion a).2.map _
  | get id => exact (Store.makes_get id).map _
  | list page filters => exact (Store.makes_list page filters).map _
  | update a => exact (Store.makes_update a).map _
  | delete id => exact (Store.makes_delete _ id).map _
  | checkField field value => exact (Store.makes_checkField _ field value).map _
  | ifExists lookup =>
      obtain ⟨next, ended, eq⟩ := Store.ifExists_eq (Account.table α) (Account.predicate lookup)
      refine Program.Makes.map ?_ _
      rw [eq]
      exact ⟨Or.inl ⟨rfl, Or.inl (Statement.gated_found _ _)⟩, fun rows => (ended rows).makes,
        Program.stops_reply _⟩
  | changePassword contact password => exact (Store.makes_changePassword _ _ password).map _
  | updateRefreshToken id token => exact (Store.makes_updateRefreshToken _ id token).map _

theorem Service.makes_create (stamp : Stamp) (a : α) :
    (create stamp a).Makes (Account.table α) ((ServiceCall.create a).change stamp) := by
  rcases create_cases stamp a with ⟨r, eq⟩ | ⟨taken, ended, eq⟩ <;> rw [eq]
  · trivial
  · refine ⟨Or.inl ⟨rfl, Or.inl (Statement.gated_found _ _)⟩, fun rows => ?_,
      Program.stops_reply _⟩
    refine (ended rows).makes_bind fun b => ?_
    cases b with
    | true => trivial
    | false => exact (Store.makes_insertion _).2

theorem Service.makes_update (stamp : Stamp) (a : α) :
    (update stamp a).Makes (Account.table α) ((ServiceCall.update a).change stamp) := by
  rcases update_cases stamp a with ⟨r, eq⟩ | eq <;> rw [eq]
  · trivial
  · exact Store.makes_update _

theorem ServiceCall.makes_program (stamp : Stamp) (call : ServiceCall α) :
    (call.program stamp).Makes (Account.table α) (call.change stamp) := by
  cases call with
  | create a => exact (Service.makes_create stamp a).map _
  | get id => exact (StoreCall.get (α := α) id).makes_program
  | list page filters => exact (StoreCall.list (α := α) page filters).makes_program
  | update a => exact (Service.makes_update stamp a).map _
  | delete id => exact (StoreCall.delete (α := α) id).makes_program
  | checkField name value =>
      refine Program.Makes.map ?_ _
      unfold Service.checkField
      split
      · exact Store.makes_checkField _ _ value
      · trivial
  | ifExists lookup => exact (StoreCall.ifExists (α := α) lookup).makes_program
  | changePassword contact password =>
      exact (StoreCall.changePassword (α := α) contact password).makes_program
  | updateRefreshToken id token =>
      exact (StoreCall.updateRefreshToken (α := α) id token).makes_program

theorem Call.makes_program (stamp : Stamp) (call : Call α) :
    (call.program stamp).Makes (Account.table α) (call.change stamp) := by
  cases call with
  | store call => exact call.makes_program
  | service call => exact call.makes_program stamp

end Calls

namespace Step

def program (stamp : Stamp) : Step → Program StepAnswer
  | user call => .user <$> call.program stamp
  | admin call => .admin <$> call.program stamp

def operation : Step → String
  | user call => call.operation
  | admin call => call.operation

theorem makes_program (stamp : Stamp) (step : Step) :
    (step.program stamp).Makes step.table (step.change stamp) := by
  cases step with
  | user call => exact (call.makes_program stamp).map _
  | admin call => exact (call.makes_program stamp).map _

theorem needs_program {stamp : Stamp} {step : Step} {id : String}
    (target : (step.change stamp).target? = some id) : (step.program stamp).Needs := by
  cases step with
  | user call => exact (Call.needs_program target).map _
  | admin call => exact (Call.needs_program target).map _

end Step
end AccountStore
