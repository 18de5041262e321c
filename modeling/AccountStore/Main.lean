import AccountStore.Command.Run

/-!
The command line program.

Its database lives in memory for the length of one command, whatever is configured, with the schema in
place. Nothing that a command prints depends on the time. The log is not written.
-/

namespace AccountStore

/-- The variables that settings are read from. -/
def settingNames : List String :=
  ["USER_SERVICE_DATABASE_URL", "DATABASE_URL", "DATABASE_MAX_CONNECTIONS",
   "DATABASE_MIN_CONNECTIONS", "CONTEXT_TIMEOUT"]

end AccountStore

open AccountStore

def main (args : List String) : IO UInt32 := do
  let settings ← settingNames.mapM fun name => return (name, ← IO.getEnv name)
  let env : Environment := fun name => (settings.find? (·.1 == name)).bind (·.2)
  let db := Memory.Database.initial .postgres [.users, .admins] (Migration.all.map (·.name))
  let (outcome, _) := Command.runLine (fun _ => .here) env ⟨"", .epoch⟩ args db
  IO.print (outcome.text fun _ => "")
  IO.eprint outcome.errors
  return outcome.exitCode
