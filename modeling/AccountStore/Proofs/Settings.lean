import AccountStore.Command.Run
import AccountStore.Proofs.Text.Digits
import AccountStore.Proofs.Text.Trim
import Mathlib.Data.Nat.Digits.Defs

/-!
# Numbers in settings

A setting spells a number in digits, perhaps after a plus sign, with any letters `s` after them and
white space around all that (`SpelledNumber`). Such texts, of numbers that fit, are exactly the ones
that are read (`readNumber?_eq_some_iff`); any other leaves the default in place, and so does a
timeout of zero. So every deadline is at least a second (`configured_numbers`).
-/

namespace AccountStore
open Text

def Text.plusSign : Bool → List Char
  | true => ['+']
  | false => []

structure SpelledNumber where
  before : List Char
  plus : Bool
  digits : List Char
  /-- How many letters `s` follow the digits. -/
  letters : Nat
  after : List Char
  blank : ∀ c ∈ before ++ after, isBlank c = true
  filled : digits ≠ []
  digit : ∀ c ∈ digits, '0' ≤ c ∧ c ≤ '9'

namespace SpelledNumber

/-- What stands between the white space. -/
def core (s : SpelledNumber) : List Char :=
  plusSign s.plus ++ s.digits ++ List.replicate s.letters 's'

def text (s : SpelledNumber) : String :=
  String.ofList (s.before ++ s.core ++ s.after)

/-- What the digits denote in the decimal system. -/
def number (s : SpelledNumber) : Nat :=
  Nat.ofDigits 10 (s.digits.reverse.map fun c => c.toNat - '0'.toNat)

end SpelledNumber

/-- The variable is set to a number below a bound. -/
def Environment.Holds (env : Environment) (key : String) (bound n : Nat) : Prop :=
  ∃ s : SpelledNumber, env key = some s.text ∧ s.number = n ∧ n < bound

/-- The number is what a variable holds, if that counts, and otherwise the default. -/
structure Environment.Gives (env : Environment) (key : String) (bound : Nat) (counts : Nat → Prop)
    (absent n : Nat) : Prop where
  held (m : Nat) : env.Holds key bound m → counts m → n = m
  absent : (∀ m, env.Holds key bound m → ¬counts m) → n = absent

/-- What the numbers of a configuration have to do with the environment. -/
structure ConfiguredNumbers (env : Environment) (config : ServiceConfig) : Prop where
  connections (key : String) (n : UInt32) :
    ServiceConfig.connections? env key = some n ↔ env.Holds key (2 ^ 32) n.toNat
  timeout (n : UInt64) :
    ServiceConfig.timeout? env = some n ↔
      env.Holds "CONTEXT_TIMEOUT" (2 ^ 64) n.toNat ∧ n.toNat ≠ 0
  maxConnections : env.Gives "DATABASE_MAX_CONNECTIONS" (2 ^ 32) (fun _ => True) 10
    config.database.maxConnections.toNat
  minConnections : env.Gives "DATABASE_MIN_CONNECTIONS" (2 ^ 32) (fun _ => True) 1
    config.database.minConnections.toNat
  timeoutSeconds : env.Gives "CONTEXT_TIMEOUT" (2 ^ 64) (· ≠ 0) 30
    config.deadline.timeoutSeconds.toNat
  /-- No deadline is shorter than a second. -/
  deadline : 1000 ≤ config.deadline.milliseconds
  /-- This is the deadline that the services get. -/
  handedOn (stamp : Stamp) (action : Command.AccountAction) (db : Memory.Database) :
    let timing : Timing := ⟨0, config.deadline.milliseconds⟩
    let ready : List Command.Line := [.logged (.ready config.database.maxConnections)]
    db.up.1 = .ok () →
      Command.runOn config stamp (.account .users action) db =
          (Command.runAccount User timing stamp action db.up.2).after ready ∧
        Command.runOn config stamp (.account .admins action) db =
          (Command.runAccount Admin timing stamp action db.up.2).after ready

/-! ## Digits -/

namespace Text

theorem isDigit_iff {c : Char} : isDigit c = true ↔ '0' ≤ c ∧ c ≤ '9' := by
  simp only [isDigit, Bool.and_eq_true, decide_eq_true_eq, Char.le_def, UInt32.le_iff_toNat_le]
  exact Iff.rfl

theorem value_eq_ofDigits (digits : List Char) :
    value digits = Nat.ofDigits 10 (digits.reverse.map digitValue) := by
  induction digits using List.reverseRecOn with
  | nil => rfl
  | append_singleton before last ih =>
      rw [value_append_digit, ih, List.reverse_concat, List.map_cons, Nat.ofDigits_cons]
      omega

variable {bound n : Nat} {cs digits : List Char}

theorem readUnsigned?_signed (plus : Bool) (filled : digits ≠ [])
    (all : ∀ c ∈ digits, isDigit c = true) :
    readUnsigned? bound (plusSign plus ++ digits) =
      if value digits < bound then some (value digits) else none := by
  have unsigned : digits.head? ≠ some '+' := fun signed =>
    absurd (all '+' (List.mem_of_mem_head? signed)) (by decide)
  have rest : readUnsigned? bound (plusSign plus ++ digits) =
      if !digits.isEmpty && digits.all isDigit && value digits < bound then some (value digits)
        else none := by
    cases plus with
    | true => rfl
    | false =>
        unfold readUnsigned?
        split
        next shape => exact absurd (congrArg List.head? shape) unsigned
        next => rfl
  simp [rest, filled, List.all_eq_true.2 all]

theorem readUnsigned?_eq_some_iff : readUnsigned? bound cs = some n ↔
    ∃ plus digits, cs = plusSign plus ++ digits ∧ digits ≠ [] ∧
      (∀ c ∈ digits, isDigit c = true) ∧ value digits = n ∧ n < bound := by
  constructor
  · intro read
    obtain ⟨plus, digits, signed, rest⟩ : ∃ plus digits, cs = plusSign plus ++ digits ∧
        (if !digits.isEmpty && digits.all isDigit && value digits < bound then some (value digits)
          else none) = some n := by
      unfold readUnsigned? at read
      split at read
      next rest => exact ⟨true, rest, rfl, read⟩
      next => exact ⟨false, cs, rfl, read⟩
    simp only [Bool.and_eq_true, Bool.not_eq_true', List.isEmpty_eq_false_iff, List.all_eq_true,
      decide_eq_true_eq, Option.ite_none_right_eq_some, Option.some.injEq] at rest
    obtain ⟨⟨⟨filled, all⟩, small⟩, rfl⟩ := rest
    exact ⟨plus, digits, signed, filled, all, rfl, small⟩
  · rintro ⟨plus, digits, rfl, filled, all, rfl, small⟩
    rw [readUnsigned?_signed plus filled all, if_pos small]

end Text

/-! ## Spelled numbers -/

namespace SpelledNumber

variable (s : SpelledNumber)

theorem isDigit_digits : ∀ c ∈ s.digits, isDigit c = true :=
  fun c member => isDigit_iff.2 (s.digit c member)

theorem number_eq : s.number = value s.digits :=
  (value_eq_ofDigits s.digits).symm

theorem endsApart_digits {p : Char → Bool} (apart : ∀ c, isDigit c = true → p c = false)
    (cs : List Char) : EndsApart p (cs ++ s.digits) := by
  intro c last
  rw [List.getLast?_append_of_ne_nil _ s.filled] at last
  exact apart c (s.isDigit_digits c (List.mem_of_mem_getLast? last))

theorem solid_plusSign (plus : Bool) : ∀ c ∈ plusSign plus, isBlank c = false := by
  have sign : isBlank '+' = false := by decide
  cases plus <;> simp [plusSign, sign]

theorem solid_head : ∀ c ∈ s.core.head?, isBlank c = false := by
  intro c first
  rw [core, List.head?_append_of_ne_nil _ (by simp [s.filled])] at first
  rcases List.mem_append.1 (List.mem_of_mem_head? first) with plus | digit
  · exact solid_plusSign s.plus c plus
  · exact isBlank_of_isDigit (s.isDigit_digits c digit)

theorem endsApart_core : EndsApart isBlank s.core := by
  unfold core
  cases s.letters with
  | zero =>
      rw [List.replicate_zero, List.append_nil]
      exact s.endsApart_digits (fun _ => isBlank_of_isDigit) _
  | succ n =>
      intro c last
      rw [List.replicate_succ', ← List.append_assoc, List.getLast?_concat] at last
      cases last
      decide

theorem trim_text : trim s.text.toList = s.core := by
  rw [text, String.toList_ofList]
  exact trim_append (fun c member => s.blank c (List.mem_append_left _ member)) s.solid_head
    s.endsApart_core (by simp [core, s.filled])
    (fun c member => s.blank c (List.mem_append_right _ member))

theorem dropEndWhile_core : dropEndWhile (· = 's') s.core = plusSign s.plus ++ s.digits := by
  refine dropEndWhile_append (s.endsApart_digits (fun c digit => ?_) _) fun c letter => ?_
  · rw [decide_eq_false_iff_not]
    rintro rfl
    exact absurd digit (by decide)
  · exact decide_eq_true (List.eq_of_mem_replicate letter)

end SpelledNumber

/-- A number is read from the texts that spell it, if it fits, and from no others. -/
theorem readNumber?_eq_some_iff {bound n : Nat} {raw : String} :
    readNumber? bound raw = some n ↔
      ∃ s : SpelledNumber, raw = s.text ∧ s.number = n ∧ n < bound := by
  rw [readNumber?, readUnsigned?_eq_some_iff]
  constructor
  · rintro ⟨plus, digits, signed, filled, all, rfl, small⟩
    obtain ⟨before, after, shape, blank, blankToo⟩ := exists_trim raw.toList
    obtain ⟨letters, core⟩ := exists_replicate 's' (trim raw.toList)
    let s : SpelledNumber :=
      { before, plus, digits, letters, after, filled
        blank := fun c member => (List.mem_append.1 member).elim (blank c) (blankToo c)
        digit := fun c member => isDigit_iff.1 (all c member) }
    refine ⟨s, String.toList_inj.1 ?_, s.number_eq, small⟩
    rw [SpelledNumber.text, String.toList_ofList, SpelledNumber.core, ← signed, core, ← shape]
  · rintro ⟨s, rfl, rfl, small⟩
    refine ⟨s.plus, s.digits, ?_, s.filled, s.isDigit_digits, s.number_eq.symm, small⟩
    rw [s.trim_text, s.dropEndWhile_core]

/-! ## Configurations -/

namespace Environment

variable {env : Environment} {key : String} {bound : Nat}

theorem Holds.lt {n : Nat} (held : env.Holds key bound n) : n < bound := by
  obtain ⟨_, _, _, small⟩ := held
  exact small

theorem bind_readNumber?_eq_some_iff {n : Nat} :
    (env key).bind (readNumber? bound) = some n ↔ env.Holds key bound n := by
  simp only [Option.bind_eq_some_iff, readNumber?_eq_some_iff]
  constructor
  · rintro ⟨raw, set, s, rfl, number, small⟩
    exact ⟨s, set, number, small⟩
  · rintro ⟨s, set, number, small⟩
    exact ⟨s.text, set, s, rfl, number, small⟩

/-- A setting with a default gives what is read, of whatever width that is. -/
theorem gives_getD {β : Type} {counts : Nat → Prop} {read : Option β} {number : β → Nat}
    (reads : ∀ n, read = some n ↔ env.Holds key bound (number n) ∧ counts (number n))
    (wide : ∀ m < bound, ∃ n, number n = m) (absent : β) :
    env.Gives key bound counts (number absent) (number (read.getD absent)) where
  held m held counted := by
    obtain ⟨n, rfl⟩ := wide m held.lt
    rw [(reads n).2 ⟨held, counted⟩]
    rfl
  absent unheld := by
    have unread : read = none := Option.eq_none_iff_forall_ne_some.2 fun n isRead =>
      unheld _ ((reads n).1 isRead).1 ((reads n).1 isRead).2
    rw [unread]
    rfl

end Environment

namespace ServiceConfig

open Environment

variable {env : Environment}

theorem connections?_eq_some_iff {key : String} {n : UInt32} :
    connections? env key = some n ↔ env.Holds key (2 ^ 32) n.toNat := by
  simp only [connections?, Option.map_eq_some_iff, bind_readNumber?_eq_some_iff]
  constructor
  · rintro ⟨m, held, rfl⟩
    rwa [UInt32.toNat_ofNat_of_lt' held.lt]
  · intro held
    exact ⟨n.toNat, held, UInt32.ofNat_toNat⟩

theorem timeout?_eq_some_iff {n : UInt64} :
    timeout? env = some n ↔ env.Holds "CONTEXT_TIMEOUT" (2 ^ 64) n.toNat ∧ n.toNat ≠ 0 := by
  simp only [timeout?, Option.map_eq_some_iff, Option.filter_eq_some_iff,
    bind_readNumber?_eq_some_iff, decide_eq_true_eq, Nat.pos_iff_ne_zero]
  constructor
  · rintro ⟨m, ⟨held, counted⟩, rfl⟩
    rw [UInt64.toNat_ofNat_of_lt' held.lt]
    exact ⟨held, counted⟩
  · intro held
    exact ⟨n.toNat, held, UInt64.ofNat_toNat⟩

theorem gives_connections (env : Environment) (key : String) (absent : UInt32) :
    env.Gives key (2 ^ 32) (fun _ => True) absent.toNat
      ((connections? env key).getD absent).toNat :=
  gives_getD (fun _ => connections?_eq_some_iff.trans (and_iff_left trivial).symm)
    (fun m small => ⟨.ofNat m, UInt32.toNat_ofNat_of_lt' small⟩) absent

theorem gives_timeout (env : Environment) (absent : UInt64) :
    env.Gives "CONTEXT_TIMEOUT" (2 ^ 64) (· ≠ 0) absent.toNat
      ((timeout? env).getD absent).toNat :=
  gives_getD (fun _ => timeout?_eq_some_iff)
    (fun m small => ⟨.ofNat m, UInt64.toNat_ofNat_of_lt' small⟩) absent

theorem timeoutSeconds_ne_zero (env : Environment) :
    (ofEnvironment env).deadline.timeoutSeconds.toNat ≠ 0 := by
  change ((timeout? env).getD 30).toNat ≠ 0
  cases read : timeout? env with
  | none => decide
  | some n => exact (timeout?_eq_some_iff.1 read).2

end ServiceConfig

/-- Whatever the environment is, a number is read from it exactly where it is spelled and fits. -/
theorem configured_numbers (env : Environment) :
    ConfiguredNumbers env (.ofEnvironment env) where
  connections _ _ := ServiceConfig.connections?_eq_some_iff
  timeout _ := ServiceConfig.timeout?_eq_some_iff
  maxConnections := ServiceConfig.gives_connections env _ 10
  minConnections := ServiceConfig.gives_connections env _ 1
  timeoutSeconds := ServiceConfig.gives_timeout env 30
  deadline := by
    have filled := ServiceConfig.timeoutSeconds_ne_zero env
    unfold DeadlineConfig.milliseconds
    omega
  handedOn stamp action db := by
    intro timing ready upgraded
    simp only [Command.runOn]
    generalize db.up = up at upgraded ⊢
    obtain ⟨result, after⟩ := up
    cases upgraded
    exact ⟨rfl, rfl⟩

/-- White space and letters around the digits do not count; a number that does not fit leaves the
default, and so does one with a space before its letter. -/
theorem configured_numbers_of_spellings :
    let env : Environment := fun
      | "DATABASE_MAX_CONNECTIONS" => some "\u3000+007ss\n"
      | "DATABASE_MIN_CONNECTIONS" => some "4294967296"
      | "CONTEXT_TIMEOUT" => some "10 s"
      | _ => none
    let config := ServiceConfig.ofEnvironment env
    config.database.maxConnections = 7 ∧ config.database.minConnections = 1 ∧
      config.deadline.milliseconds = 30000 := by
  intro env config
  have numbers := configured_numbers env
  let seven : SpelledNumber :=
    ⟨['\u3000'], true, ['0', '0', '7'], 2, ['\n'], List.all_eq_true.1 (by decide), by decide,
      by simp⟩
  have held := numbers.maxConnections.held 7 ⟨seven, by decide, by decide, by decide⟩ trivial
  have wide := numbers.minConnections.absent fun m held _ => by
    have unread : ServiceConfig.connections? env "DATABASE_MIN_CONNECTIONS" = none := by
      decide +kernel
    have read := (numbers.connections "DATABASE_MIN_CONNECTIONS" (.ofNat m)).2
      (by rwa [UInt32.toNat_ofNat_of_lt' held.lt])
    exact absurd (unread.symm.trans read) nofun
  have spaced := numbers.timeoutSeconds.absent fun m held filled => by
    have unread : ServiceConfig.timeout? env = none := by decide +kernel
    have read := (numbers.timeout (.ofNat m)).2
      (by rw [UInt64.toNat_ofNat_of_lt' held.lt]; exact ⟨held, filled⟩)
    exact absurd (unread.symm.trans read) nofun
  refine ⟨UInt32.toNat_inj.1 held, UInt32.toNat_inj.1 wide, ?_⟩
  rw [DeadlineConfig.milliseconds, spaced]

end AccountStore
