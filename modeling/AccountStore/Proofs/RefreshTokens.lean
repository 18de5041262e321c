import AccountStore.Proofs.Interleaving.World
import AccountStore.Proofs.Operation.Commutation

/-!
# No refresh token is lost

A new refresh token and an update or a change of passwords write different columns, and neither
reads what the other writes. So their order makes no difference, and a row that stays live ends with
the token that a client gave it, whatever other clients did meanwhile (`no_refresh_token_lost`).
-/

namespace AccountStore
open Calendar Memory

variable {ι : Type} [DecidableEq ι] {calls : ι → Stamp × Step} {first : Accounts} {world : World ι}
  {i k : ι} {t : Table} {id token : String}

def RotatesToken (calls : ι → Stamp × Step) (t : Table) (id token : String) (i : ι) : Prop :=
  (calls i).2.table = t ∧ (calls i).2.change (calls i).1 = .refreshToken id token

namespace Rotation

theorem hits_refreshToken {row : Row} :
    (refreshToken id token).Hits row ↔ row .id = .text (some id) ∧ row.isLive = true :=
  Row.satisfiesAll_liveById

theorem exists_hits_refreshToken {state : TableState} :
    (∃ row ∈ state.rows, (refreshToken id token).Hits row) ↔ state.HasLive id :=
  exists_congr fun _ => and_congr_right fun _ => hits_refreshToken

theorem liveWith_edited {state : TableState} (live : state.HasLive id) (token : String)
    (now : Instant) :
    (state.edited ((refreshToken id token).edit now)).LiveWith id .refreshToken
      (.text (some token)) := by
  obtain ⟨row, member, hid, live⟩ := live
  have hit : (refreshToken id token).Hits row := hits_refreshToken.2 ⟨hid, live⟩
  have given := apply_edit (refreshToken id token) now row
  rw [if_pos hit] at given
  exact ⟨_, List.mem_map_of_mem member, by rw [given]; exact hid, by rw [given]; exact live,
    by rw [given]; rfl⟩

end Rotation

namespace World

/-- A rotation that has its answer was late, or it sent its one statement. -/
theorem Follows.rotatesToken (follows : world.Follows calls first) (sound : first.Sound)
    (rotates : RotatesToken calls t id token i) {result : Except AccountError StepAnswer}
    (answered : world.answer? i = some result) :
    result = .error (.timedOut (calls i).2.operation) ∨
      ∃ u, world.sentBy i = [u] ∧
        u.after = u.before.edited t ((Rotation.refreshToken id token).edit u.now) ∧
        result = .ok (.truth t (decide ((u.before.get t).HasLive id))) := by
  obtain ⟨rfl, change⟩ := rotates
  have rotation : ((calls i).2.change (calls i).1).rotation? = some (.refreshToken id token) :=
    congrArg Change.rotation? change
  have becomes := (Step.rotates_program rotation).becomes (follows.becomes i) answered
    fun u member => follows.sound_before sound (mem_sentBy.1 member)
  simpa only [Rotation.exists_hits_refreshToken] using becomes

/-- A row that has a token and stays live keeps it, unless a client gives it another. -/
theorem Follows.keeps_token {a b : Accounts} {part : List (ι × Exchange)} {v : Value}
    (follows : world.Follows calls first) (linked : Linked a (part.map (·.2)) b)
    (sub : part ⊆ world.log)
    (alone : ∀ sent ∈ part, ∀ other, ¬ RotatesToken calls t id other sent.1)
    (alive : ∀ sent ∈ part, ¬ (sent.2.after.get t).HasDeleted id)
    (held : (a.get t).LiveWith id .refreshToken v) : (b.get t).LiveWith id .refreshToken v := by
  refine Classical.byContradiction fun lost => ?_
  obtain ⟨j, e, member, held, lost, applies, _⟩ := follows.begins linked sub
    (P := fun accounts => ¬ (accounts.get t).LiveWith id .refreshToken v) (fun h => h held) lost
  obtain ⟨table, dead | ⟨other, rotates⟩⟩ := applies.ends_refreshToken
    ((calls j).2.lawful_change (calls j).1) (Classical.not_not.1 held) lost
  · exact alive _ member dead
  · exact alone _ member other ⟨table.symm, rotates⟩

/-- Whatever the others do, a row that stays live ends with the token that one client gave it. -/
theorem Follows.token_kept (follows : world.Follows calls first) (sound : first.Sound)
    (rotates : RotatesToken calls t id token k)
    (alone : ∀ i other, RotatesToken calls t id other i → i = k) (start : (first.get t).HasLive id)
    (live : (world.accounts.get t).HasLive id) {result : Except AccountError StepAnswer}
    (answered : world.answer? k = some result) :
    result = .error (.timedOut (calls k).2.operation) ∨
      result = .ok (.truth t true) ∧
        (world.accounts.get t).LiveWith id .refreshToken (.text (some token)) := by
  refine (follows.rotatesToken sound rotates answered).imp_right ?_
  rintro ⟨u, own, given, rfl⟩
  obtain ⟨before, rest, log, _, others⟩ := ownOf_eq_cons.1 own
  have sent : (k, u) ∈ world.log := by simp [log]
  -- whoever finds the row deleted leaves it deleted to the end
  have alive : ∀ {i e}, (i, e) ∈ world.log → ¬ (e.after.get t).HasDeleted id :=
    fun member dead => (follows.sound sound t).not_hasDeleted live
      ((follows.kept_after member).hasDeleted dead)
  have liveThen : (u.before.get t).HasLive id := by
    have present := (follows.kept_before sent).has (TableState.has_iff.2 (Or.inl start))
    refine (TableState.has_iff.1 present).resolve_right fun dead => alive sent ?_
    exact (follows.kept_exchange sent).hasDeleted dead
  refine ⟨by rw [decide_eq_true liveThen], ?_⟩
  have held : (u.after.get t).LiveWith id .refreshToken (.text (some token)) := by
    rw [given, Accounts.edited, Accounts.get_set]
    exact Rotation.liveWith_edited liveThen token u.now
  have sub : rest ⊆ world.log := fun e member => by simp [log, member]
  refine follows.keeps_token (follows.split log).2 sub ?_ (fun e member => alive (sub member)) held
  intro e member other another
  obtain rfl := alone e.1 other another
  have again : e.2 ∈ ownOf e.1 rest := List.mem_filterMap.2 ⟨e, member, if_pos rfl⟩
  rw [others] at again
  exact absurd again List.not_mem_nil

end World

/-- What becomes of refresh tokens when other calls are made before, after or meanwhile. -/
structure KeepsRefreshTokens (accounts : Accounts) : Prop where
  /-- A rotation and a call that spares its token do the same in either order. -/
  commutes (x y : Stamp × Step) (timing timing' : Timing) (now now' : Instant) (id token : String) :
    x.2.change x.1 = .refreshToken id token →
    (y.2.table = x.2.table → (y.2.change y.1).SparesToken id) →
      CommuteAt accounts (x.2.run (Accounts.driver now) timing x.1)
        (y.2.run (Accounts.driver now') timing' y.1)
  /-- A row that stays live ends with the token of the only client that gives it one. -/
  kept {ι : Type} [DecidableEq ι] (calls : ι → Stamp × Step) (schedule : List (ι × Turn))
    (t : Table) (id token : String) (k : ι) :
    let world := World.play calls accounts schedule
    RotatesToken calls t id token k → (∀ i other, RotatesToken calls t id other i → i = k) →
    (accounts.get t).HasLive id → (world.accounts.get t).HasLive id →
      ∀ result, world.answer? k = some result →
        result = .error (.timedOut (calls k).2.operation) ∨
          result = .ok (.truth t true) ∧
            (world.accounts.get t).LiveWith id .refreshToken (.text (some token))

theorem no_refresh_token_lost {accounts : Accounts} (reachable : Reachable accounts) :
    KeepsRefreshTokens accounts where
  commutes x y timing timing' now now' id token rotates spares :=
    Step.commute_rotation rotates spares reachable.sound timing timing' now now'
  kept calls schedule t id token k := by
    intro world rotates alone start live result answered
    have follows : world.Follows calls accounts := World.follows_play calls accounts schedule
    exact follows.token_kept reachable.sound rotates alone start live answered

def oneUser : Accounts :=
  (runSteps Accounts.driver ⟨0, 30000⟩
    [(⟨"", .epoch⟩, .user (.store (.create { id := "a", phoneNumber := "+1" })))] .empty).2

/-- One client rotates the token of a user while another changes the phone number and a third sets
the password of whoever has the old number. -/
def threeWrites (i : Fin 3) : Stamp × Step :=
  (⟨"", .epoch⟩, match i with
    | 0 => .user (.service (.updateRefreshToken "a" "token"))
    | 1 => .user (.service (.update { id := "a", phoneNumber := "+2" }))
    | 2 => .user (.store (.changePassword "+1" "new")))

def afterThreeWrites : World (Fin 3) :=
  World.play threeWrites oneUser ([1, 0, 2, 0, 1].map fun i => (i, .proceed .epoch))

/-- The rotation is sent between the two statements about the phone number. -/
theorem no_refresh_token_lost_among_writes :
    let run (i : Fin 3) := (threeWrites i).2.run (Accounts.driver .epoch) ⟨5, 30⟩ (threeWrites i).1
    CommuteAt oneUser (run 0) (run 1) ∧ CommuteAt oneUser (run 0) (run 2) ∧
      afterThreeWrites.answer? 0 = some (.ok (.truth .users true)) ∧
      (∀ i, afterThreeWrites.Succeeds i) ∧
      (afterThreeWrites.accounts.get .users).LiveWith "a" .refreshToken (.text (some "token")) := by
  intro run
  have keeps := no_refresh_token_lost (show Reachable oneUser from Reachable.empty.runSteps _ _)
  have alone : ∀ i other, RotatesToken threeWrites .users "a" other i → i = 0
    | 0, _, _ => rfl
    | 1, _, rotates => nomatch rotates.2
    | 2, _, rotates => nomatch rotates.2
  have answer : afterThreeWrites.answer? 0 = some (.ok (.truth .users true)) := rfl
  have all : ∀ i, afterThreeWrites.Succeeds i
    | 0 => ⟨_, answer⟩
    | 1 | 2 => ⟨_, rfl⟩
  have commutes (i : Fin 3) := keeps.commutes (threeWrites 0) (threeWrites i) ⟨5, 30⟩ ⟨5, 30⟩ .epoch
    .epoch "a" "token" rfl
  have kept := keeps.kept threeWrites ([1, 0, 2, 0, 1].map fun i => (i, .proceed .epoch)) .users
    "a" "token" 0 ⟨rfl, rfl⟩ alone (by decide +kernel) (by decide +kernel) _ answer
  exact ⟨commutes 1 fun _ => trivial, commutes 2 fun _ => trivial, answer, all,
    (kept.resolve_left nofun).2⟩

end AccountStore
