import AccountStore.Query.Pagination
import AccountStore.Text.Digits
import AccountStore.Text.Split

/-!
The command line.

Arguments are read from left to right, and the first one that settles the matter does: a request for
help, or an argument that fits nowhere. After a bare `--` no argument is an option any more.
-/

namespace AccountStore
open Text

namespace Command

inductive MigrateAction where
  | up
  | down
  | status
  | fresh
deriving DecidableEq, Repr

/-- The options of a listing. -/
structure ListOptions where
  page : Pagination
  /-- The filters as they were given, in order. -/
  filters : List String
deriving DecidableEq

inductive AccountAction where
  | get (id : String)
  | list (options : ListOptions)
  | delete (id : String)
  | checkField (field value : String)
deriving DecidableEq

end Command

/-- What a command line asks for. -/
inductive Command where
  | migrate (action : Command.MigrateAction)
  | ping
  | account (table : Table) (action : Command.AccountAction)
deriving DecidableEq

namespace Command

/-- Why no command is run. -/
inductive Stop where
  | usage
  | help
deriving DecidableEq, Repr

/-- A request for help; further letters after `-h` do not count. -/
def isHelp (arg : String) : Bool :=
  arg == "--help" || arg.startsWith "-h"

/-- An argument that is an option by its form. A lone hyphen is none. -/
def isOption (arg : String) : Bool :=
  arg.startsWith "-" && arg != "-"

/-- Reads a given number of values. -/
def values (count : Nat) (trailing : Bool) (taken : List String) :
    List String → Except Stop (List String)
  | [] => if taken.length = count then .ok taken else .error .usage
  | arg :: rest =>
      if !trailing && arg == "--" then values count true taken rest
      else if !trailing && isHelp arg then .error .help
      else if !trailing && isOption arg then .error .usage
      else if taken.length < count then values count trailing (taken ++ [arg]) rest
      else .error .usage

def readUInt64? (text : String) : Option UInt64 :=
  (readUnsigned? UInt64.size text.toList).map .ofNat

/-- The options of a listing read so far. -/
structure Gathered where
  limit : Option UInt64 := none
  offset : Option UInt64 := none
  filters : List String := []

namespace Gathered

/-- Takes an option; limit and offset may be given once each. -/
def take (g : Gathered) (option value : String) : Option Gathered :=
  match option with
  | "--limit" => if g.limit.isSome then none
      else (readUInt64? value).map fun n => { g with limit := some n }
  | "--offset" => if g.offset.isSome then none
      else (readUInt64? value).map fun n => { g with offset := some n }
  | "--filter" => some { g with filters := g.filters ++ [value] }
  | _ => none

def options (g : Gathered) : ListOptions :=
  ⟨⟨g.limit.getD 0, g.offset.getD 0⟩, g.filters⟩

end Gathered

/-- Reads the options of a listing; a value is the next argument or follows an equals sign. -/
def listOptions (g : Gathered) : List String → Except Stop ListOptions
  | [] => .ok g.options
  | ["--"] => .ok g.options
  | arg :: rest =>
      if isHelp arg then .error .help
      else match splitFirst? '=' arg.toList with
        | some (option, value) =>
            match g.take (String.ofList option) (String.ofList value) with
            | some g => listOptions g rest
            | none => .error .usage
        | none =>
            match rest with
            | [] => .error .usage
            | value :: rest =>
                if isOption value then .error .usage
                else match g.take arg value with
                  | some g => listOptions g rest
                  | none => .error .usage

def migrateNames : List String := ["up", "down", "status", "fresh"]

def accountNames : List String := ["get", "list", "delete", "check-field"]

/-- The command names that help can be asked about. -/
def isTopic : List String → Bool
  | [] => true
  | [name] => ["migrate", "ping", "user", "admin", "help"].contains name
  | [group, name] =>
      (group == "migrate" && ("help" :: migrateNames).contains name) ||
        ((group == "user" || group == "admin") && ("help" :: accountNames).contains name)
  | _ => false

def helpFor (topic : List String) : Except Stop α :=
  .error (if isTopic topic then .help else .usage)

def readMigrate : List String → Except Stop MigrateAction
  | "up" :: rest => (values 0 false [] rest).map fun _ => .up
  | "down" :: rest => (values 0 false [] rest).map fun _ => .down
  | "status" :: rest => (values 0 false [] rest).map fun _ => .status
  | "fresh" :: rest => (values 0 false [] rest).map fun _ => .fresh
  | "help" :: rest => helpFor ("migrate" :: rest)
  | arg :: _ => .error (if isHelp arg then .help else .usage)
  | [] => .error .usage

def readAccount : List String → Except Stop AccountAction
  | "get" :: rest => do
      match ← values 1 false [] rest with
      | [id] => .ok (.get id)
      | _ => .error .usage
  | "list" :: rest => .list <$> listOptions {} rest
  | "delete" :: rest => do
      match ← values 1 false [] rest with
      | [id] => .ok (.delete id)
      | _ => .error .usage
  | "check-field" :: rest => do
      match ← values 2 false [] rest with
      | [field, value] => .ok (.checkField field value)
      | _ => .error .usage
  | "help" :: rest => helpFor ("user" :: rest)
  | arg :: _ => .error (if isHelp arg then .help else .usage)
  | [] => .error .usage

/-- The command of an argument list. -/
def read : List String → Except Stop Command
  | "migrate" :: rest => migrate <$> readMigrate rest
  | "ping" :: rest => (values 0 false [] rest).map fun _ => ping
  | "user" :: rest => account .users <$> readAccount rest
  | "admin" :: rest => account .admins <$> readAccount rest
  | "help" :: rest => helpFor rest
  | arg :: _ => .error (if isHelp arg then .help else .usage)
  | [] => .error .usage

end Command
end AccountStore
