import AccountStore.Proofs.Interleaving.World
import AccountStore.Proofs.Operation.Request
import Mathlib.Data.List.Infix
import Mathlib.Data.List.Nodup

/-!
# Stable paging

One client reads a listing page by page while others change the table. What a listing goes by, the
identifier, the ordinal, the time of creation and the deletion marker of a row, is fixed as long as
nothing is deleted (`Change.rewrite_fixed`), and new rows come last. So the listing that a page is
cut from begins with the listings of the pages before (`Accounts.Grows.keys`), and pages of the same
size never miss or repeat a row.
-/

namespace AccountStore
open Calendar Memory

/-! ## Slices of growing lists -/

/-- The `n`-th slice of the first list, the next slice of the second list and so on. -/
def slices (k : Nat) : Nat → List (List β) → List (List β)
  | _, [] => []
  | n, list :: rest => (list.drop (n * k)).take k :: slices k (n + 1) rest

theorem flatten_slices_sublist {k n : Nat} {lists : List (List β)} {last : List β}
    (begins : ∀ list ∈ lists, list <+: last) :
    (slices k n lists).flatten.Sublist (last.drop (n * k)) := by
  induction lists generalizing n with
  | nil => exact List.nil_sublist _
  | cons list rest ih =>
      have first : ((list.drop (n * k)).take k).Sublist ((last.drop (n * k)).take k) :=
        (((begins list List.mem_cons_self).drop _).take _).sublist
      have others := ih (n := n + 1) (List.forall_mem_cons.1 begins).2
      rw [Nat.succ_mul, ← List.drop_drop] at others
      have both := first.append others
      rwa [List.take_append_drop] at both

/-- A slice that is not full is the last one, so nothing that follows its beginning is missed. -/
theorem mem_flatten_slices {k n : Nat} {list : List β} {rest : List (List β)}
    (grow : (list :: rest).Pairwise (· <+: ·)) {slice : List β}
    (last : (slices k n (list :: rest)).getLast? = some slice) (short : slice.length < k) {x : β}
    (member : x ∈ list.drop (n * k)) : x ∈ (slices k n (list :: rest)).flatten := by
  induction rest generalizing list n with
  | nil =>
      obtain rfl : (list.drop (n * k)).take k = slice := Option.some.inj last
      rw [List.length_take] at short
      have whole : (list.drop (n * k)).take k = list.drop (n * k) :=
        List.take_of_length_le (by omega)
      simpa only [slices, List.flatten_cons, List.flatten_nil, List.append_nil, whole] using member
  | cons next rest ih =>
      obtain ⟨begins, later⟩ := List.pairwise_cons.1 grow
      rw [← List.take_append_drop k (list.drop (n * k)), List.drop_drop, ← Nat.succ_mul] at member
      rw [slices, List.flatten_cons, List.mem_append]
      refine (List.mem_append.1 member).imp_right fun beyond => ih later ?_ ?_
      · simpa only [slices, List.getLast?_cons_cons] using last
      · exact ((begins next List.mem_cons_self).drop _).subset beyond

/-! ## What a listing goes by -/

namespace Memory.Row

/-- The columns of a row that nothing but a deletion changes, and nothing else. -/
def fixed (row : Row) : Row := fun c =>
  if c ∈ [Column.id, .ordinal, .createdAt, .deletedAt] then row c else .text none

def key (row : Row) : Value × Int :=
  (row .id, row.ordinal)

theorem key_fixed (row : Row) : row.fixed.key = row.key := rfl

theorem satisfiesAll_fixed (row : Row) (filters : List Filter) :
    row.fixed.satisfiesAll (.live :: filters.map (·.condition)) =
      row.satisfiesAll (.live :: filters.map (·.condition)) := by
  have live : row.fixed.isLive = row.isLive := rfl
  have each : ∀ filter : Filter,
      row.fixed.satisfies filter.condition = row.satisfies filter.condition := by
    intro filter
    cases filter <;> rfl
  simp only [satisfiesAll, List.all_cons, List.all_map, Function.comp_def, each]
  exact congrArg (· && _) live

end Memory.Row

namespace Memory

namespace TableState

/-- The keys of the rows of a listing. -/
def keys (state : TableState) (filters : List Filter) : List (Value × Int) :=
  (state.listed filters).map Row.key

variable {t : Table} {state : TableState} {filters : List Filter}

theorem keys_eq (state : TableState) (filters : List Filter) :
    state.keys filters = ((state.rows.map Row.fixed).filter
      (Row.satisfiesAll (.live :: filters.map (·.condition)))).map Row.key := by
  rw [List.filter_map, List.map_map, keys, listed]
  simp only [Function.comp_def, Row.satisfiesAll_fixed, Row.key_fixed]

theorem Sound.keys_ordered (sound : state.Sound t) (filters : List Filter) :
    (state.keys filters).Pairwise fun a b => a.2 < b.2 :=
  List.pairwise_map.2 (sound.ordered.filter _)

theorem Sound.keys_nodup (sound : state.Sound t) (filters : List Filter) :
    ((state.keys filters).map Prod.fst).Nodup := by
  rw [keys, List.map_map]
  exact sound.nodup_ids.sublist (List.filter_sublist.map _)

end TableState

namespace Accounts

/-- The rows of the first are still there, with the same fixed columns, and new ones may follow. -/
def Grows (t : Table) (a b : Accounts) : Prop :=
  (a.get t).rows.map Row.fixed <+: (b.get t).rows.map Row.fixed

variable {t : Table} {a b c : Accounts}

theorem Grows.refl (t : Table) (a : Accounts) : a.Grows t a := List.prefix_refl _

theorem Grows.trans (ab : a.Grows t b) (bc : b.Grows t c) : a.Grows t c :=
  List.IsPrefix.trans ab bc

theorem Grows.keys (grows : a.Grows t b) (filters : List Filter) :
    (a.get t).keys filters <+: (b.get t).keys filters := by
  rw [TableState.keys_eq, TableState.keys_eq]
  exact (grows.filter _).map _

end Accounts
end Memory

namespace Change

variable {t u : Table} {c : Change} {now : Instant}

theorem rewrite_fixed (lawful : c.Lawful t) (keeps : ∀ id, c ≠ .deletion id) (now : Instant)
    (row : Row) : (c.rewrite now row).fixed = row.fixed := by
  funext column
  unfold Row.fixed
  split
  next fixed =>
    refine Classical.byContradiction fun altered => ?_
    have notUpdatable : ∀ d ∈ [Column.id, .ordinal, .createdAt, .deletedAt], d ∉ t.updatable := by
      cases t <;> decide
    obtain ⟨_, ⟨id, deletion, _⟩ | rfl⟩ := rewrite_ne_of_fixed lawful
      (notUpdatable column fixed) altered
    · exact keeps id deletion
    · exact absurd fixed (by decide)
  next => rfl

theorem Applies.grows {before after : Accounts} (lawful : c.Lawful t)
    (applies : c.Applies t now before after) (keeps : t = u → ∀ id, c ≠ .deletion id) :
    before.Grows u after := by
  obtain ⟨s, state, writes, change, rfl⟩ := applies
  by_cases same : t = u
  · subst same
    unfold Accounts.Grows
    rw [Accounts.get_set]
    rcases writes.rows change with ⟨id, cells, _, rfl⟩ | ⟨_, rfl⟩
    · rw [List.map_append]
      exact List.prefix_append _ _
    · rw [List.map_map]
      simp only [Function.comp_def, rewrite_fixed lawful (keeps rfl)]
      exact List.prefix_refl _
  · unfold Accounts.Grows
    rw [Accounts.get_set_of_ne fun eq => same eq.symm]

end Change

/-! ## What others do between pages -/

namespace World

variable {ι : Type} [DecidableEq ι] {calls : ι → Stamp × Step} {first : Accounts} {world : World ι}

/-- In a turn the tables stay as they are, or the client has an exchange with them. -/
theorem accounts_turn (calls : ι → Stamp × Step) (world : World ι) (turn : ι × Turn) :
    (world.turn calls turn).accounts = world.accounts ∨
      ∃ e, (turn.1, e) ∈ (world.turn calls turn).log ∧ e.before = world.accounts ∧
        e.after = (world.turn calls turn).accounts := by
  obtain ⟨i, turn⟩ := turn
  cases turn with
  | expire =>
      refine Or.inl ?_
      cases running : world.running i <;> simp only [World.turn, running, goOn]
  | proceed now =>
      cases running : world.running i with
      | pause | done => exact Or.inl (by simp only [World.turn, running, goOn, Program.exchange?])
      | execute | query =>
          refine Or.inr ?_
          simp only [World.turn, running, Program.exchange?, record]
          exact ⟨_, List.mem_append_right _ List.mem_cons_self, rfl, rfl⟩

/-- No client deletes anything in the table. -/
def KeepsRows (calls : ι → Stamp × Step) (t : Table) : Prop :=
  ∀ i, (calls i).2.table = t → ∀ id, (calls i).2.change (calls i).1 ≠ .deletion id

theorem Follows.grows_turn (follows : world.Follows calls first) {t : Table}
    (keeps : KeepsRows calls t) (turn : ι × Turn) :
    world.accounts.Grows t (world.turn calls turn).accounts := by
  rcases world.accounts_turn calls turn with same | ⟨e, member, before, after⟩
  · rw [same]
    exact .refl t _
  · rw [← before, ← after]
    rcases (follows.turn turn).exchange member with same | ⟨applies, _⟩
    · rw [same]
      exact .refl t _
    · exact applies.grows ((calls turn.1).2.lawful_change _) (keeps turn.1)

theorem Follows.turns (follows : world.Follows calls first) (turns : List (ι × Turn)) :
    (turns.foldl (World.turn calls) world).Follows calls first := by
  induction turns generalizing world with
  | nil => exact follows
  | cons turn rest ih => exact ih (follows.turn turn)

theorem Follows.grows_turns (follows : world.Follows calls first) {t : Table}
    (keeps : KeepsRows calls t) (turns : List (ι × Turn)) :
    world.accounts.Grows t (turns.foldl (World.turn calls) world).accounts := by
  induction turns generalizing world with
  | nil => exact .refl t _
  | cons turn rest ih => exact (follows.grows_turn keeps turn).trans (ih (follows.turn turn))

end World

/-! ## Reading pages -/

/-- How a client reads a listing page by page. -/
structure PageReader where
  layer : Layer
  timing : Timing
  stamp : Stamp
  limit : UInt64
  filters : List Filter

/-- One of the pages, and what happens before it is read. -/
structure PageRead (ι : Type) where
  /-- The turns that others take since the page before. -/
  turns : List (ι × Turn)
  now : Instant
  offset : UInt64

namespace PageReader

variable {α : Type} [Account α] {ι : Type} [DecidableEq ι]

def page (reader : PageReader) (α : Type) [Account α] (read : PageRead ι) (accounts : Accounts) :
    Except AccountError (Answer α) :=
  (Request.list ⟨reader.limit, read.offset⟩ reader.filters).answer reader.layer reader.timing
    read.now reader.stamp accounts

/-- The tables that the reads find. -/
def found (calls : ι → Stamp × Step) : World ι → List (PageRead ι) → List Accounts
  | _, [] => []
  | world, read :: rest =>
      let next := read.turns.foldl (World.turn calls) world
      next.accounts :: found calls next rest

def pages (reader : PageReader) (α : Type) [Account α] (calls : ι → Stamp × Step) :
    World ι → List (PageRead ι) → List (Except AccountError (Answer α))
  | _, [] => []
  | world, read :: rest =>
      let next := read.turns.foldl (World.turn calls) world
      reader.page α read next.accounts :: reader.pages α calls next rest

variable {calls : ι → Stamp × Step} {first : Accounts} {world : World ι}

theorem found_grow {t : Table} (follows : world.Follows calls first)
    (keeps : World.KeepsRows calls t) (reads : List (PageRead ι)) :
    (∀ a ∈ found calls world reads, world.accounts.Grows t a) ∧
      (found calls world reads).Pairwise (Accounts.Grows t) := by
  induction reads generalizing world with
  | nil => exact ⟨by simp [found], .nil⟩
  | cons read rest ih =>
      have grows := follows.grows_turns keeps read.turns
      obtain ⟨later, pairwise⟩ := ih (follows.turns read.turns)
      refine ⟨?_, List.pairwise_cons.2 ⟨later, pairwise⟩⟩
      exact List.forall_mem_cons.2 ⟨grows, fun a member => grows.trans (later a member)⟩

theorem exists_last {t : Table} (follows : world.Follows calls first) (sound : first.Sound)
    (keeps : World.KeepsRows calls t) (reads : List (PageRead ι)) :
    ∃ last : Accounts, last.Sound ∧ world.accounts.Grows t last ∧
      ∀ a ∈ found calls world reads, a.Grows t last := by
  induction reads generalizing world with
  | nil => exact ⟨world.accounts, follows.sound sound, .refl t _, by simp [found]⟩
  | cons read rest ih =>
      obtain ⟨last, soundLast, grows, later⟩ := ih (follows.turns read.turns)
      exact ⟨last, soundLast, (follows.grows_turns keeps read.turns).trans grows,
        List.forall_mem_cons.2 ⟨grows, later⟩⟩

/-- The key of the row that an account was read from. -/
def key [Account.Readable α] (a : α) : Value × Int :=
  (.text (some (Account.id a)), Account.Readable.ordinal a)

theorem map_key [Account.Readable α] {accounts : List α} {rows : List Row}
    (reads : List.Forall₂ Account.Reads accounts rows) :
    accounts.map key = rows.map Row.key := by
  induction reads with
  | nil => rfl
  | @cons a row _ _ one _ ih =>
      have same : key a = row.key := by
        simp only [key, Row.key, Row.ordinal, one.id, one.ordinal]
      rw [List.map_cons, List.map_cons, same, ih]

theorem id_of_key [Account.Readable α] {a : α} {row : Row} {id : String} (same : key a = row.key)
    (hid : row .id = .text (some id)) : Account.id a = id := by
  have ids : Value.text (some (Account.id a)) = row .id := congrArg Prod.fst same
  rw [hid] at ids
  exact Option.some.inj (Value.text.inj ids)

theorem exists_pages [Account.Readable α] {reader : PageReader} (positive : 0 < reader.limit)
    (inTime : reader.layer.InTime reader.timing) (follows : world.Follows calls first)
    (sound : first.Sound) {n : Nat} {reads : List (PageRead ι)}
    (offsets : ∀ i read, reads[i]? = some read →
      read.offset.toNat = (n + i) * reader.limit.toNat) :
    ∃ pages : List (List α),
      reader.pages α calls world reads = pages.map (fun page => .ok (.accounts page)) ∧
        pages.map (·.map key) = slices reader.limit.toNat n ((found calls world reads).map fun a =>
          (a.get (Account.table α)).keys reader.filters) := by
  induction reads generalizing world n with
  | nil => exact ⟨[], rfl, rfl⟩
  | cons read rest ih =>
      have next := follows.turns read.turns
      have here := next.sound sound
      obtain ⟨page, reads⟩ := Request.exists_found (α := α) here ⟨reader.limit, read.offset⟩
        reader.filters
      have answer : reader.page α read (read.turns.foldl (World.turn calls) world).accounts =
          .ok (.accounts page) := by
        unfold PageReader.page
        rw [Request.answer, Request.run_list here inTime reads]
      have slice : page.map key = (((((read.turns.foldl (World.turn calls) world).accounts.get
          (Account.table α)).keys reader.filters).drop (n * reader.limit.toNat)).take
            reader.limit.toNat) := by
        rw [Pagination.cut_of_limited positive] at reads
        rw [map_key reads, List.map_take, List.map_drop, offsets 0 read rfl, Nat.add_zero]
        rfl
      obtain ⟨later, answers, keys⟩ := ih next fun i other there =>
        (offsets (i + 1) other there).trans (by rw [Nat.add_assoc, Nat.add_comm 1 i])
      refine ⟨page :: later, ?_, ?_⟩
      · simp only [pages, answer, answers, List.map_cons]
      · simp only [found, List.map_cons, slices, slice, keys]

end PageReader

/-- What one client reads page by page, while others do anything but delete, has no identifier
twice and is in the order of the ordinals; and if the last page is not full, it has every row that
was listed when the first page was read exactly once. -/
theorem stable_paging {α : Type} [Account α] [Account.Readable α] {ι : Type} [DecidableEq ι]
    {accounts : Accounts} (reachable : Reachable accounts) (calls : ι → Stamp × Step)
    (keeps : World.KeepsRows calls (Account.table α)) (reader : PageReader)
    (positive : 0 < reader.limit) (inTime : reader.layer.InTime reader.timing)
    (reads : List (PageRead ι))
    (offsets : ∀ i read, reads[i]? = some read → read.offset.toNat = i * reader.limit.toNat) :
    let world := World.start calls accounts
    ∃ pages : List (List α),
      reader.pages α calls world reads = pages.map (fun page => .ok (.accounts page)) ∧
        (pages.flatten.map Account.id).Nodup ∧
        (pages.flatten.map Account.Readable.ordinal).Pairwise (· < ·) ∧
        ∀ page first, pages.getLast? = some page → page.length < reader.limit.toNat →
          (PageReader.found calls world reads).head? = some first →
          ∀ row ∈ (first.get (Account.table α)).listed reader.filters, ∀ id,
            row .id = .text (some id) → (pages.flatten.map Account.id).count id = 1 := by
  intro world
  have follows := World.follows_start calls accounts
  obtain ⟨pages, answers, keys⟩ := PageReader.exists_pages (α := α) (n := 0) positive inTime follows
    reachable.sound (by simpa only [Nat.zero_add] using offsets)
  have grow := (PageReader.found_grow follows keeps reads).2
  obtain ⟨last, sound, _, grows⟩ := PageReader.exists_last follows reachable.sound keeps reads
  have part : (pages.flatten.map PageReader.key).Sublist
      ((last.get (Account.table α)).keys reader.filters) := by
    rw [List.map_flatten, keys]
    have begins := flatten_slices_sublist (k := reader.limit.toNat) (n := 0)
      (List.forall_mem_map.2 fun a member => (grows a member).keys reader.filters)
    rwa [Nat.zero_mul, List.drop_zero] at begins
  have distinct : (pages.flatten.map Account.id).Nodup := by
    have distinct := (sound (Account.table α)).keys_nodup reader.filters
    replace distinct := distinct.sublist (part.map Prod.fst)
    rw [List.map_map] at distinct
    refine List.Nodup.of_map (fun id => Value.text (some id)) ?_
    rw [List.map_map]
    exact distinct
  refine ⟨pages, answers, distinct, ?_, ?_⟩
  · have ordered := ((sound (Account.table α)).keys_ordered reader.filters).sublist part
    rw [List.pairwise_map] at ordered ⊢
    exact ordered
  · intro page first ends short starts row listed id hid
    obtain ⟨rest, tables⟩ := List.head?_eq_some_iff.1 starts
    rw [tables] at keys grow
    rw [List.map_cons] at keys
    have slice := congrArg List.getLast? keys
    rw [List.getLast?_map, ends] at slice
    have member : row.key ∈ pages.flatten.map PageReader.key := by
      rw [List.map_flatten, keys]
      refine mem_flatten_slices ?_ slice.symm (by rwa [List.length_map]) ?_
      · exact List.Pairwise.map _ (fun _ _ grows => grows.keys reader.filters) grow
      · rw [Nat.zero_mul, List.drop_zero]
        exact List.mem_map_of_mem listed
    obtain ⟨a, there, same⟩ := List.mem_map.1 member
    rw [← PageReader.id_of_key same hid]
    exact List.count_eq_one_of_mem distinct (List.mem_map_of_mem there)

def createUser (id phoneNumber : String) : Stamp × Step :=
  (⟨"", .epoch⟩, .user (.store (.create { id, phoneNumber })))

def threeUsers : Accounts :=
  (runSteps Accounts.driver ⟨0, 30000⟩
    [createUser "a" "+1", createUser "b" "+2", createUser "c" "+3"] .empty).2

/-- One client updates the first user, another creates a fourth one. -/
def updateAndCreate : Bool → Stamp × Step
  | false => (⟨"", .epoch⟩, .user (.store (.update { id := "a", phoneNumber := "+5" })))
  | true => createUser "d" "+4"

def pagesOfTwo : PageReader := ⟨.store, ⟨0, 30000⟩, ⟨"", .epoch⟩, 2, []⟩

def readsBetween : List (PageRead Bool) :=
  [⟨[], .epoch, 0⟩, ⟨[(false, .proceed .epoch), (true, .proceed .epoch)], .epoch, 2⟩,
    ⟨[], .epoch, 4⟩]

/-- Between two pages of two users the first of them is updated and a fourth is created. -/
theorem stable_paging_during_creation :
    Reachable threeUsers ∧ World.KeepsRows updateAndCreate .users ∧
      ∃ pages : List (List User),
        pagesOfTwo.pages User updateAndCreate (World.start updateAndCreate threeUsers)
            readsBetween = pages.map (fun page => .ok (.accounts page)) ∧
          pages.map (·.map User.id) = [["a", "b"], ["c", "d"], []] ∧
          (pages.flatten.map User.id).Nodup := by
  have reachable : Reachable threeUsers := Reachable.empty.runSteps _ _
  have keeps : World.KeepsRows updateAndCreate .users := by
    intro i _ id
    cases i <;> exact nofun
  have offsets : ∀ i read, readsBetween[i]? = some read →
      read.offset.toNat = i * pagesOfTwo.limit.toNat := by
    intro i read there
    match i, there with
    | 0, rfl => rfl
    | 1, rfl => rfl
    | 2, rfl => rfl
  obtain ⟨pages, answers, distinct, _⟩ := stable_paging (α := User) reachable updateAndCreate keeps
    pagesOfTwo (by decide) nofun readsBetween offsets
  have shown : (pagesOfTwo.pages User updateAndCreate (World.start updateAndCreate threeUsers)
      readsBetween).map (fun answer => (Answer.listed answer).map User.id) =
        [["a", "b"], ["c", "d"], []] := by decide +kernel
  rw [answers, List.map_map] at shown
  exact ⟨reachable, keeps, pages, answers, shown, distinct⟩

end AccountStore
