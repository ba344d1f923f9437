import SqlShell.Database.Datum

namespace SqlShell

/-- Which part of the client an error belongs to. -/
inductive Failure.Origin where
  | general
  | config
  | command
  | cancellation
  deriving DecidableEq, Repr

inductive Failure where
  | error (origin : Failure.Origin) (message : Text)
  /-- A bare value. -/
  | value (d : Datum)

namespace Failure

def message : Failure → Text
  | error _ message => message
  | value d => d.plain

def origin : Failure → Origin
  | error origin _ => origin
  | value _ => .general

/-- A query that was stopped on request. -/
def cancelled : Failure := error .cancellation "Query cancelled"

def isCancellation (f : Failure) : Bool := f.origin == .cancellation

end Failure

/-- Mistakes in commands of the client. -/
inductive CommandError where
  | unknown (command : Text)
  | missingTable
  | noSuchTable (name : Text)
  deriving DecidableEq, Repr

namespace CommandError

def message : CommandError → Text
  | unknown command =>
    .concat ["Unknown command: ", command, ". Type \x22help\x22 for a list."]
  | missingTable => "describe requires a table name"
  | noSuchTable name => .concat ["No such table: ", name]

def failure (e : CommandError) : Failure := .error .command e.message

end CommandError

end SqlShell
