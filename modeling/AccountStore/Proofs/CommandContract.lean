import AccountStore.Proofs.Schema.Use

/-!
# What command lines promise

A command that succeeds ends with exit code 0 and nothing on standard error. One that fails ends with
exit code 1 and one line for users there, and it has printed nothing; its log is a channel of its own,
which the same stream shows as far as `RUST_LOG` asks for it. An account command may still create
tables and indexes on its way; the rows that it leaves are the same ones, unless it is a deletion that
succeeds, and then one row has got its deletion marker.
-/

namespace AccountStore
open Calendar Memory

namespace Command

/-! ## Standard output -/

def Line.printed? : Line → Option String
  | printed text => some text
  | logged _ => none

def Line.event? : Line → Option LogEvent
  | printed _ => none
  | logged event => some event

namespace Outcome

/-- What the command itself puts on standard output. -/
def printed (outcome : Outcome) : String :=
  String.join (outcome.output.filterMap Line.printed?)

def events (outcome : Outcome) : List LogEvent :=
  outcome.output.filterMap Line.event?

end Outcome

/-- A run that fails has logged its output. -/
def Ran.Quiet (ran : Ran) : Prop :=
  ∀ e, ran.result = .error e → ∃ events : List LogEvent, ran.output = events.map .logged

theorem Ran.Quiet.after {ran : Ran} (quiet : ran.Quiet) (event : LogEvent) :
    (ran.after [.logged event]).Quiet := by
  intro e failed
  obtain ⟨events, logged⟩ := quiet e failed
  exact ⟨event :: events, congrArg (Line.logged event :: ·) logged⟩

end Command

open Command

end AccountStore
