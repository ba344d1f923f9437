import SqlShell.Event

namespace SqlShell

inductive LogLevel where
  | debug | info | warn | error | silent
  deriving DecidableEq, Repr

namespace LogLevel

def all : List LogLevel := [debug, info, warn, error, silent]

def name : LogLevel → Text
  | debug => "debug"
  | info => "info"
  | warn => "warn"
  | error => "error"
  | silent => "silent"

def ofName? (t : Text) : Option LogLevel := all.find? (fun l => l.name == t)

def names : Text := Text.join ", " (all.map name)

def weight : LogLevel → Nat
  | debug => 0
  | info => 1
  | warn => 2
  | error => 3
  | silent => 4

end LogLevel

structure Logger where
  /-- The least weight that is written. -/
  level : LogLevel := .info
  /-- Stands before every message. -/
  label : Text := []
  /-- How a line shows outside. -/
  write : Stream → Text → Event := .logged

namespace Logger

/-- Lines written to the streams of the process. -/
def streams : Logger := { write := fun stream line => .written stream (line ++ [unit '\n']) }

/-- Another logger of the same level that writes to the same place. -/
def child (l : Logger) (label : Text) : Logger := { l with label }

/-- The mark of a message and the stream it goes to. -/
def heading : LogLevel → Text × Stream
  | .debug => ("[DEBUG] ", .out)
  | .info => ([], .out)
  | .warn => ("Warning: ", .err)
  | .error | .silent => ("Error: ", .err)

def labelText (l : Logger) : Text := if l.label.isEmpty then [] else l.label ++ [unit ' ']

/-- The event of a message, if the logger lets it pass. -/
def log (l : Logger) (level : LogLevel) (message : Text) : List Event :=
  if l.level.weight ≤ level.weight then
    let (mark, stream) := heading level
    [l.write stream (.concat [mark, l.labelText, message])]
  else []

def debug (l : Logger) (message : Text) : List Event := l.log .debug message

def warn (l : Logger) (message : Text) : List Event := l.log .warn message

end Logger

end SqlShell
