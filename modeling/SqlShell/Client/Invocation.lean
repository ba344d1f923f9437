import SqlShell.Client.Similar
import SqlShell.Log

namespace SqlShell

namespace Client

def name : Text := "litequery"

def version : Text := "0.1.0"

def description : Text := "SQLite client with context-aware completion"

/-- The database that lives in memory only. -/
def memoryDatabase : Text := ":memory:"

end Client

/-- How one session is to be run. -/
structure SessionOptions where
  execute : Option Text := none
  config : Option Text := none
  logLevel : Option Text := none
  deriving DecidableEq, Repr

inductive Flag where
  | version | execute | config | logLevel | help
  deriving DecidableEq, Repr

namespace Flag

/-- The flags of the client itself; asking for help comes on top. -/
def own : List Flag := [version, execute, config, logLevel]

def all : List Flag := own ++ [help]

def short? : Flag → Option Text
  | version => some "-V"
  | execute => some "-e"
  | help => some "-h"
  | config | logLevel => none

def long : Flag → Text
  | version => "--version"
  | execute => "--execute"
  | config => "--config"
  | logLevel => "--log-level"
  | help => "--help"

/-- What stands for the value of a flag that takes one. -/
def value? : Flag → Option Text
  | execute => some "sql"
  | config => some "path"
  | logLevel => some "level"
  | version | help => none

def description : Flag → Text
  | version => "output the version number"
  | execute => "Execute SQL and exit"
  | config => "Config file (default: $XDG_CONFIG_HOME/litequery/config.toml)"
  | logLevel => .concat ["Log level (", LogLevel.names, ")"]
  | help => "display help for command"

/-- The forms of a flag, as they are listed. -/
def forms (f : Flag) : Text :=
  .concat [f.short?.elim [] (· ++ Text.ofString ", "), f.long,
    f.value?.elim [] (fun v => .concat [" <", v, ">"])]

def is (f : Flag) (argument : Text) : Bool := f.long == argument || f.short? == some argument

def find? (argument : Text) : Option Flag := own.find? (·.is argument)

end Flag

/-- Why the client does not start. -/
inductive Refusal where
  | version
  | help
  | unknownOption (argument : Text)
  | missingValue (flag : Flag)
  deriving DecidableEq, Repr

namespace Refusal

/-- Flags that an unknown argument may have been meant to be. -/
def meant (argument : Text) : List Text :=
  let dashes : Text := "--"
  if dashes.isPrefixOf argument then
    let words := Flag.all.map (fun f => f.long.drop 2)
    (Similar.suggestions (argument.drop 2) words).map (dashes ++ ·)
  else []

def suggestion (argument : Text) : Text :=
  match meant argument with
  | [] => []
  | [flag] => .concat ["\n(Did you mean ", flag, "?)"]
  | flags => .concat ["\n(Did you mean one of ", Text.join ", " flags, "?)"]

def usage : Text :=
  .concat ["Usage: ", Client.name, " [options] [database]\n\n", Client.description, "\n\n",
    Text.join "\n" (Flag.all.map (fun f => Text.concat [f.forms, "  ", f.description]))]

def message : Refusal → Text
  | version => Client.version
  | help => usage
  | unknownOption argument =>
    .concat ["error: unknown option '", argument, "'", suggestion argument]
  | missingValue flag => .concat ["error: option '", flag.forms, "' argument missing"]

/-- Asking for something is no mistake. -/
def stream : Refusal → Stream
  | version | help => .out
  | unknownOption _ | missingValue _ => .err

def event (r : Refusal) : Event := .written r.stream (r.message ++ [unit '\n'])

end Refusal

/-- Arguments that have been read. -/
structure Invocation where
  options : SessionOptions := {}
  operands : List Text := []
  /-- An argument that is no known option, and all that follow it but known options. -/
  unknown : List Text := []
  deriving DecidableEq, Repr

namespace Invocation

def set (i : Invocation) (f : Flag) (value : Text) : Invocation :=
  match f with
  | .execute => { i with options := { i.options with execute := some value } }
  | .config => { i with options := { i.options with config := some value } }
  | .logLevel => { i with options := { i.options with logLevel := some value } }
  | .version | .help => i

def looksLikeOption (argument : Text) : Bool :=
  1 < argument.length && argument.head? == some (unit '-')

/-- Adds arguments that are no known option. -/
def add (i : Invocation) (arguments : List Text) : Invocation :=
  if i.unknown.isEmpty then { i with operands := i.operands ++ arguments }
  else { i with unknown := i.unknown ++ arguments }

def addOne (i : Invocation) (argument : Text) : Invocation :=
  if looksLikeOption argument then { i with unknown := i.unknown ++ [argument] }
  else i.add [argument]

/-- A short flag with more behind it in one argument. -/
def shortForm? (argument : Text) : Option (Flag × Text) :=
  match argument with
  | d :: u :: v :: rest =>
    if d = unit '-' && u != unit '-' then (Flag.find? [d, u]).map (fun f => (f, v :: rest))
    else none
  | _ => none

/-- A long flag with its value behind an equals sign. -/
def longForm? (argument : Text) : Option (Flag × Text) :=
  let flag := argument.takeWhile (· != unit '=')
  if argument.contains (unit '=') then
    ((Flag.find? flag).filter (fun f => f.value?.isSome && f.long == flag)).map
      (fun f => (f, argument.drop (flag.length + 1)))
  else none

/-- Reads arguments one after the other. Asking for the version ends it at once. -/
def read (i : Invocation) : List Text → Except Refusal Invocation
  | [] => .ok i
  | argument :: rest =>
    if argument = "--" then
      .ok (if i.unknown.isEmpty then i.add rest else i.add (argument :: rest))
    else match Flag.find? argument with
      | some f =>
        if f.value?.isSome then
          match rest with
          | value :: rest => read (i.set f value) rest
          | [] => .error (.missingValue f)
        else .error .version
      | none =>
        match (shortForm? argument).or (longForm? argument) with
        | some (f, value) =>
          if f.value?.isSome then read (i.set f value) rest else .error .version
        | none => read (i.addOne argument) rest

/-- The database and the options that the arguments ask for. -/
def parse (arguments : List Text) : Except Refusal (Text × SessionOptions) :=
  match read {} arguments with
  | .error r => .error r
  | .ok i =>
    if i.unknown.any Flag.help.is then .error .help
    else match i.unknown with
      | argument :: _ => .error (.unknownOption argument)
      | [] => .ok (i.operands.headD Client.memoryDatabase, i.options)

end Invocation

end SqlShell
