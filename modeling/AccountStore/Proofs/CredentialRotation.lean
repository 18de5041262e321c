import AccountStore.Proofs.Operation.Request
import Mathlib.Data.List.Nodup

/-!
# Rotations hit the live rows that match

A password reset sets the password of the live rows that match its contact details, and a new
refresh token goes to the live row with its identifier. Nothing else changes, and the answer tells
what an existence check or a look-up would have told (`rotations_hit_matches`).
-/

namespace AccountStore
open Calendar Memory

def Layer.rotating {α : Type} [Account α] : Layer → String → String → Call α
  | store, id, token => .store (.updateRefreshToken id token)
  | service, id, token => .service (.updateRefreshToken id token)

/-- The table with a value in one column of the rows that are hit. -/
def Memory.TableState.setting (hit : Row → Prop) [DecidablePred hit] (c : Column) (v : Value)
    (state : TableState) : TableState :=
  { state with
    rows := state.rows.map fun row => if hit row then Function.update row c v else row }

/-- A credential was set in the rows that are hit, of which there are at most so many. -/
structure SetsCredential {α : Type} (accounts : Accounts) (t : Table) (credential : Column)
    (secret : String) (hit : Row → Prop) [DecidablePred hit] (most : Nat)
    (run : Except AccountError (Answer α) × Accounts) : Prop where
  answer : run.1 = .ok (.truth (decide (∃ row ∈ (accounts.get t).rows, hit row)))
  after : run.2 =
    accounts.set t ((accounts.get t).setting hit credential (.text (some secret)))
  few : (accounts.get t).rows.countP (hit ·) ≤ most
  /-- Whatever is another than before is the credential of a live row that is hit. -/
  frame (u : Table) (i : Nat) (row : Row) : (accounts.get u).rows[i]? = some row →
    ∃ later, (run.2.get u).rows[i]? = some later ∧ ∀ column, later column ≠ row column →
      u = t ∧ hit row ∧ row.isLive = true ∧ column = credential
  unchanged : run.1 = .ok (.truth false) → run.2 = accounts

/-! ## How many rows are hit -/

theorem countP_or_le {β : Type} (p q : β → Prop) [DecidablePred p] [DecidablePred q]
    (rows : List β) : rows.countP (fun b => p b ∨ q b) ≤ rows.countP (p ·) + rows.countP (q ·) := by
  induction rows with
  | nil => exact Nat.zero_le _
  | cons b rest ih =>
      simp only [List.countP_cons, decide_eq_true_eq]
      by_cases inP : p b <;> by_cases inQ : q b <;> simp only [inP, inQ, or_self, or_true, or_false,
        if_true, if_false] <;> omega

namespace Memory.TableState

variable {t : Table} {state : TableState}

theorem Sound.countP_unique (sound : state.Sound t) {c : Column} (unique : c ∈ t.liveUnique)
    (v : Value) : state.rows.countP (fun row => row.isLive = true ∧ row c = v) ≤ 1 := by
  have once := List.nodup_iff_count_le_one.1 (sound.nodup_live unique) v
  rw [List.count, List.countP_map, live, List.countP_filter] at once
  refine Nat.le_trans (Nat.le_of_eq (List.countP_congr fun row _ => ?_)) once
  simp [and_comm]

theorem Sound.countP_id (sound : state.Sound t) (id : String) :
    state.rows.countP (fun row => row.isLive = true ∧ row .id = .text (some id)) ≤ 1 := by
  have once := List.nodup_iff_count_le_one.1 sound.nodup_ids (.text (some id))
  rw [List.count, List.countP_map] at once
  refine Nat.le_trans (List.countP_mono_left fun row _ => ?_) once
  simp

section

variable {hit : Row → Prop} [DecidablePred hit] {c : Column} {v : Value}

theorem setting_of_none (none : ¬∃ row ∈ state.rows, hit row) :
    state.setting hit c v = state := by
  have same : state.rows.map (fun row => if hit row then Function.update row c v else row) =
      state.rows :=
    (List.map_congr_left fun row member => if_neg fun h => none ⟨row, member, h⟩).trans
      (List.map_id _)
  rw [setting, same]

theorem getElem?_setting {i : Nat} {row : Row} (here : state.rows[i]? = some row) :
    (state.setting hit c v).rows[i]? =
      some (if hit row then Function.update row c v else row) := by
  rw [setting, List.getElem?_map, here]
  rfl

end

end Memory.TableState

/-! ## Rotations -/

theorem Rotation.setsCredential {α : Type} (r : Rotation) {accounts : Accounts}
    (sound : accounts.Sound) (t : Table) (now : Instant) {hit : Row → Prop}
    [DecidablePred hit] (hits : ∀ row, r.Hits row ↔ hit row) {most : Nat}
    (few : (accounts.get t).rows.countP (hit ·) ≤ most) :
    SetsCredential (α := α) accounts t r.column r.secret hit most
      ((Program.rotating (r.statement t) .truth).run (Accounts.driver now) accounts) := by
  have applied : (r.edit now).apply = fun row =>
      if hit row then Function.update row r.column (.text (some r.secret)) else row := by
    funext row
    simp only [apply_edit, hits]
  have edited : (accounts.get t).edited (r.edit now) =
      (accounts.get t).setting hit r.column (.text (some r.secret)) := by
    rw [TableState.edited, applied]
    rfl
  rw [Program.run_rotating r sound, Accounts.edited, edited]
  simp only [hits]
  refine ⟨rfl, rfl, few, ?_, ?_⟩
  · intro u i row here
    by_cases same : u = t
    · subst same
      rw [Accounts.get_set]
      refine ⟨_, TableState.getElem?_setting here, fun column altered => ?_⟩
      by_cases h : hit row
      · rw [if_pos h] at altered
        refine ⟨rfl, h, Row.isLive_of_satisfiesAll (by simp) ((hits row).2 h), ?_⟩
        exact Classical.byContradiction fun other => altered (Function.update_of_ne other _ _)
      · rw [if_neg h] at altered
        exact absurd rfl altered
    · rw [Accounts.get_set_of_ne same]
      exact ⟨row, here, fun column altered => absurd rfl altered⟩
  · intro answer
    have none : ¬∃ row ∈ (accounts.get t).rows, hit row := by simpa using answer
    rw [TableState.setting_of_none none, Accounts.set_get]

section

open Account

variable {α : Type} [Account α] {layer : Layer} {timing : Timing} {now : Instant} {stamp : Stamp}
  {accounts : Accounts}

theorem Layer.run_rotating (inTime : layer.InTime timing) (id token : String) :
    (layer.rotating id token : Call α).run (Accounts.driver now) timing stamp accounts =
      (Program.rotating (.setRefreshToken (table α) id token) .truth).run (Accounts.driver now)
        accounts := by
  have program : (StoreCall.updateRefreshToken id token : StoreCall α).program = _ :=
    StoreCall.program_of_rotation rfl
  cases layer with
  | store => exact congrArg (·.run (Accounts.driver now) accounts) program
  | service =>
      have untimed := (StoreCall.updateRefreshToken id token : StoreCall α).untimed_program
      change (Program.pause _).runWithin _ _ _ _ _ = _
      rw [untimed.runWithin_pause, if_neg (Nat.not_lt.2 (inTime rfl)), program]
      rfl

theorem Request.run_changePassword_eq (inTime : layer.InTime timing) (contact : Contact α)
    (password : String) :
    (changePassword contact password).run layer timing now stamp accounts =
      (Program.rotating (.setPassword (table α) (predicate (reset contact)) password) .truth).run
        (Accounts.driver now) accounts := by
  have program : (StoreCall.changePassword contact password : StoreCall α).program = _ :=
    StoreCall.program_of_rotation rfl
  exact (run_eq _ inTime now stamp accounts).trans
    (congrArg (·.run (Accounts.driver now) accounts) program)

/-- A password reset tells whether there is an account to reset. -/
theorem Request.answer_changePassword (sound : accounts.Sound) (inTime : layer.InTime timing)
    (contact : Contact α) (password : String) :
    (changePassword contact password).answer layer timing now stamp accounts =
      (ifExists (reset contact)).answer layer timing now stamp accounts := by
  rw [answer, answer, run_changePassword sound inTime, run_ifExists inTime]

theorem Request.setsCredential (sound : accounts.Sound) (inTime : layer.InTime timing)
    (contact : Contact α) (password : String) {hit : Row → Prop} [DecidablePred hit]
    (hits : ∀ row : Row, row.satisfiesAll [.contact (predicate (reset contact)), .live] = true ↔
      hit row) {most : Nat} (few : (accounts.get (table α)).rows.countP (hit ·) ≤ most) :
    SetsCredential accounts (table α) .password password hit most
      ((changePassword contact password).run layer timing now stamp accounts) := by
  rw [run_changePassword_eq inTime]
  exact Rotation.setsCredential (.password (predicate (reset contact)) password) sound (table α)
    now hits few

theorem Request.get_ok_iff [Readable α] (sound : accounts.Sound) (inTime : layer.InTime timing)
    (id : String) :
    (∃ a : α, (get id).answer layer timing now stamp accounts = .ok (.account a)) ↔
      (accounts.get (table α)).HasLive id := by
  obtain ⟨found, reads⟩ := exists_found (α := α) sound .unlimited [.byId id]
  rw [Pagination.cut_unlimited] at reads
  have listed : (accounts.get (table α)).HasLive id ↔
      ∃ row, row ∈ (accounts.get (table α)).listed [.byId id] := by
    simp only [TableState.HasLive, TableState.listed_byId, TableState.live, List.mem_filter,
      Value.same_text, and_assoc, and_comm]
  rw [answer, run_get sound inTime reads, listed]
  generalize (accounts.get (table α)).listed [.byId id] = rows at reads
  cases reads <;> simp

/-- A new refresh token goes to the live row with its identifier, and the call tells whether a
look-up finds that. -/
def SetsRefreshTokens (α : Type) [Account α] (accounts : Accounts) (layer : Layer)
    (timing : Timing) (now : Instant) (stamp : Stamp) : Prop :=
  ∀ id token : String,
    let run := (layer.rotating id token : Call α).run (Accounts.driver now) timing stamp accounts
    SetsCredential accounts (table α) .refreshToken token
        (fun row => row.isLive = true ∧ row .id = .text (some id)) 1 run ∧
      (run.1 = .ok (.truth true) ↔
        ∃ a : α, (Request.get id).answer layer timing now stamp accounts = .ok (.account a))

theorem setsRefreshTokens (α : Type) [Account α] [Readable α] (sound : accounts.Sound)
    (inTime : layer.InTime timing) (now : Instant) (stamp : Stamp) :
    SetsRefreshTokens α accounts layer timing now stamp := by
  intro id token run
  have hits : ∀ row : Row, row.satisfiesAll (Statement.liveById id) = true ↔
      row.isLive = true ∧ row .id = .text (some id) :=
    fun row => Row.satisfiesAll_liveById.trans and_comm
  have sets : SetsCredential accounts (table α) .refreshToken token
      (fun row => row.isLive = true ∧ row .id = .text (some id)) 1 run := by
    rw [show run = _ from Layer.run_rotating inTime id token]
    exact Rotation.setsCredential (.refreshToken id token) sound (table α) now hits
      ((sound (table α)).countP_id id)
  refine ⟨sets, ?_⟩
  rw [Request.get_ok_iff sound inTime, sets.answer]
  simp [TableState.HasLive, and_comm]

end

/-- What rotations of credentials do to both tables, and what they answer. -/
structure SetsCredentials (accounts : Accounts) (layer : Layer) (timing : Timing) (now : Instant)
    (stamp : Stamp) : Prop where
  userPassword (phoneNumber password : String) :
    let run := (Request.changePassword phoneNumber password : Request User).run layer timing now
      stamp accounts
    SetsCredential accounts .users .password password
        (fun row => row.isLive = true ∧ row .phoneNumber = .text (some phoneNumber)) 1 run ∧
      run.1 = (Request.ifExists ⟨phoneNumber⟩ : Request User).answer layer timing now stamp accounts
  adminPassword (contact : AdminContact) (password : String) :
    let run := (Request.changePassword contact password : Request Admin).run layer timing now
      stamp accounts
    SetsCredential accounts .admins .password password
        (fun row => row.isLive = true ∧ (row .phoneNumber = .text (some contact.phoneNumber) ∨
          row .email = .text (some contact.email))) 2 run ∧
      run.1 = (Request.ifExists (.either contact) : Request Admin).answer layer timing now stamp
        accounts
  userToken : SetsRefreshTokens User accounts layer timing now stamp
  adminToken : SetsRefreshTokens Admin accounts layer timing now stamp

theorem Memory.Row.satisfiesAll_phone {row : Row} {p : String} :
    row.satisfiesAll [.contact (.phone p), .live] = true ↔
      row.isLive = true ∧ row .phoneNumber = .text (some p) := by
  simp [satisfiesAll, satisfies, matchesContact, Value.same_text, and_comm]

theorem Memory.Row.satisfiesAll_either {row : Row} {p e : String} :
    row.satisfiesAll [.contact (.either p e), .live] = true ↔
      row.isLive = true ∧ (row .phoneNumber = .text (some p) ∨ row .email = .text (some e)) := by
  simp [satisfiesAll, satisfies, matchesContact, Value.same_text, and_comm]

/-- No more than one live row has the phone number, and one the e-mail address. -/
theorem Memory.TableState.Sound.countP_either {state : TableState} (sound : state.Sound .admins)
    (p e : String) :
    state.rows.countP (fun row => row.isLive = true ∧
      (row .phoneNumber = .text (some p) ∨ row .email = .text (some e))) ≤ 2 := by
  have phone := sound.countP_unique (c := .phoneNumber) (by decide) (.text (some p))
  have email := sound.countP_unique (c := .email) (by decide) (.text (some e))
  simp only [and_or_left]
  exact Nat.le_trans (countP_or_le _ _ _) (Nat.add_le_add phone email)

theorem rotations_hit_matches {accounts : Accounts} (reachable : Reachable accounts)
    {layer : Layer} {timing : Timing} (inTime : layer.InTime timing) (now : Instant)
    (stamp : Stamp) : SetsCredentials accounts layer timing now stamp where
  userPassword phoneNumber password :=
    ⟨Request.setsCredential (α := User) reachable.sound inTime phoneNumber password
        (fun _ => Row.satisfiesAll_phone)
        ((reachable.sound .users).countP_unique (by decide) _),
      Request.answer_changePassword (α := User) reachable.sound inTime phoneNumber password⟩
  adminPassword contact password :=
    ⟨Request.setsCredential (α := Admin) reachable.sound inTime contact password
        (fun _ => Row.satisfiesAll_either)
        ((reachable.sound .admins).countP_either contact.phoneNumber contact.email),
      Request.answer_changePassword (α := Admin) reachable.sound inTime contact password⟩
  userToken := setsRefreshTokens User reachable.sound inTime now stamp
  adminToken := setsRefreshTokens Admin reachable.sound inTime now stamp

/-- Two administrators of whom each has one of the details, and a third who was deleted. -/
def threeAdmins : Accounts :=
  let admin (id phoneNumber email : String) : Stamp × Step :=
    (⟨"", .epoch⟩, .admin (.store (.create { id, phoneNumber, email })))
  (runSteps Accounts.driver ⟨0, 30000⟩
    [admin "c" "+1" "b@example.com", (⟨"", .epoch⟩, .admin (.store (.delete "c"))),
     admin "a" "+1" "a@example.com", admin "b" "+2" "b@example.com"] .empty).2

/-- A reset by the phone number of the one and the address of the other is for both. -/
theorem rotations_hit_matches_both :
    let run := (Request.changePassword ⟨"+1", "b@example.com"⟩ "new" : Request Admin).run .service
      ⟨5, 30⟩ .epoch ⟨"", .epoch⟩ threeAdmins
    Reachable threeAdmins ∧ Layer.InTime .service ⟨5, 30⟩ ∧ run.1 = .ok (.truth true) ∧
      (run.2.get .admins).rows.map (· .password) =
        [.text (some ""), .text (some "new"), .text (some "new")] := by
  intro run
  have reachable : Reachable threeAdmins := Reachable.empty.runSteps _ _
  have inTime : Layer.InTime .service ⟨5, 30⟩ := fun _ => by decide
  have sets := ((rotations_hit_matches reachable inTime .epoch ⟨"", .epoch⟩).adminPassword
    ⟨"+1", "b@example.com"⟩ "new").1
  have answer : run.1 = _ := sets.answer
  have after : run.2 = _ := sets.after
  rw [answer, after]
  exact ⟨reachable, inTime, by decide +kernel, by decide +kernel⟩

end AccountStore
