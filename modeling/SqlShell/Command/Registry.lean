import SqlShell.Command.Line
import SqlShell.Context.Basic
import SqlShell.Failure

namespace SqlShell

structure CommandEntry where
  name : Text
  shortcut : Option Text
  description : Text
  argument : ArgumentKind
  aliases : List Text
  caseSensitive : Bool
  /-- Whether it is kept out of listings. -/
  hidden : Bool := false
  deriving DecidableEq, Repr

namespace CommandEntry

def names (e : CommandEntry) : List Text := e.name :: e.shortcut.toList ++ e.aliases

/-- The key under which a name of the command is filed. -/
def key (e : CommandEntry) (name : Text) : Text := if e.caseSensitive then name else name.lower

def spec (e : CommandEntry) : CommandSpec := ⟨e.name, e.argument, e.description⟩

end CommandEntry

/-- A command with what it does. -/
structure Command (α : Type) extends CommandEntry where
  action : α

structure Registry (α : Type) where
  /-- Later commands win a key over earlier ones. -/
  byName : OrderedMap Text (Command α) := .empty
  /-- In the order of registration. -/
  commands : List (Command α) := []

/-- The marks that tell a command from SQL by themselves. -/
def commandSigils : List CodeUnit := [unit '.', unit '\\']

def hasSigil (name : Text) : Bool := name.head?.any commandSigils.contains

namespace Registry

def register (r : Registry α) (c : Command α) : Registry α :=
  { byName := r.byName.insertAll (c.names.map (fun n => (c.key n, c)))
    commands := r.commands ++ [c] }

def ofList (commands : List (Command α)) : Registry α := commands.foldl register {}

def find? (r : Registry α) (name : Text) : Option (Command α) :=
  match r.byName.lookup name with
  | some c => some c
  | none => (r.byName.lookup name.lower).filter (fun c => !c.caseSensitive)

/-- Whether a line is a command of the client rather than SQL. -/
def isCommand (r : Registry α) (line : Text) : Bool :=
  let command := (CommandLine.parse line).command
  !command.isEmpty && ((r.find? command).isSome || hasSigil command)

/-- The command that a line calls. -/
def resolve (r : Registry α) (line : Text) : Except CommandError (Command α) :=
  let command := (CommandLine.parse line).command
  match r.find? command with
  | some c => .ok c
  | none => .error (.unknown command)

def listing (r : Registry α) : List CommandEntry :=
  (r.commands.map Command.toCommandEntry).filter (fun e => !e.hidden)

/-- The names that begin with a mark, for completion. -/
def vocabulary (r : Registry α) : Vocabulary :=
  .ofList (r.listing.flatMap (fun e => (e.names.filter hasSigil).map (fun n => (n, e.spec))))

end Registry

end SqlShell
