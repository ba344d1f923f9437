import SqlShell.Candidate.Basic
import SqlShell.Failure
import SqlShell.Log
import SqlShell.Path
import SqlShell.Toml.Parse

namespace SqlShell

structure Config where
  logLevel : LogLevel := .info
  casing : KeywordCasing := .auto
  /-- A backslash with a `d` stands for the name of the database. -/
  prompt : Text := "\\d> "
  /-- Whether to ask before a destructive command. -/
  destructiveWarning : Bool := true
  maxSuggestions : Int := 100
  substrings : Bool := true
  /-- The file that was read, if one was. -/
  path : Option Text := none

inductive ConfigError where
  | malformed (source : Option Text)
  | notTable (name : Text)
  | notOneOf (name choices : Text)
  | notText (name : Text)
  | notTruth (name : Text)
  | notPositive (name : Text)
  | notFound (path : Text)
  | unknownLevel

namespace ConfigError

def message : ConfigError → Text
  | malformed source => .concat ["Failed to parse ", source.getD "config", ": <toml>"]
  | notTable name => .concat [name, " must be a table"]
  | notOneOf name choices => .concat [name, " must be one of ", choices]
  | notText name => .concat [name, " must be a string"]
  | notTruth name => .concat [name, " must be a boolean"]
  | notPositive name => .concat [name, " must be a positive integer"]
  | notFound path => .concat ["Config file not found: ", path]
  | unknownLevel => .concat ["--log-level must be one of ", LogLevel.names]

def failure (e : ConfigError) : Failure := .error .config e.message

end ConfigError

namespace Config

/-- A table of the document; an absent one is empty. -/
def section? (document : Toml.Fields) (name : Text) : Except ConfigError Toml.Fields :=
  match document.lookup name with
  | none => .ok []
  | some (.table _ fields) => .ok fields
  | some _ => .error (.notTable name)

/-- A setting; an absent one keeps its default. -/
def setting (fields : Toml.Fields) (name : Text) (read : Toml → Option α) (error : ConfigError)
    (default : α) : Except ConfigError α :=
  match fields.lookup name with
  | none => .ok default
  | some v =>
    match read v with
    | some a => .ok a
    | none => .error error

def readText : Toml → Option Text
  | .text t => some t
  | _ => none

def readTruth : Toml → Option Bool
  | .truth b => some b
  | _ => none

/-- Whole numbers count however they are written. -/
def readPositive (v : Toml) : Option Int :=
  let n? :=
    match v with
    | .integer n => some n
    | .float x => (Binary.ofFloat x).integer?
    | _ => none
  n?.filter (fun n => 1 ≤ n)

/-- The settings of a document. Of several mistakes the first in the order of the settings here is
reported. -/
def ofDocument (document : Toml.Fields) (source : Option Text) : Except ConfigError Config := do
  let defaults : Config := {}
  let main ← section? document "main"
  let logLevel ← setting main "log_level" (fun v => (readText v).bind LogLevel.ofName?)
    (.notOneOf "main.log_level" LogLevel.names) defaults.logLevel
  let casing ← setting main "keyword_casing" (fun v => (readText v).bind KeywordCasing.ofName?)
    (.notOneOf "main.keyword_casing" KeywordCasing.names) defaults.casing
  let prompt ← setting main "prompt" readText (.notText "main.prompt") defaults.prompt
  let destructiveWarning ← setting main "destructive_warning" readTruth
    (.notTruth "main.destructive_warning") defaults.destructiveWarning
  let completion ← section? document "completion"
  let maxSuggestions ← setting completion "max_suggestions" readPositive
    (.notPositive "completion.max_suggestions") defaults.maxSuggestions
  let substrings ← setting completion "substring_matching" readTruth
    (.notTruth "completion.substring_matching") defaults.substrings
  pure { logLevel, casing, prompt, destructiveWarning, maxSuggestions, substrings, path := source }

def parse (content : Text) (source : Option Text) : Except ConfigError Config :=
  match Toml.parse? content with
  | none => .error (.malformed source)
  | some document => ofDocument document source

end Config

/-- What the client finds around it when it starts. -/
structure Surroundings where
  workingDirectory : Text
  homeDirectory : Text
  /-- Where users keep their settings, if they say so. -/
  configDirectory : Option Text
  pathExists : Text → Bool
  contents : Text → Option Text

namespace Surroundings

def defaultConfigPath (s : Surroundings) : Text :=
  let base := (s.configDirectory.filter (fun d => !d.isEmpty)).getD
    (Path.join [s.homeDirectory, ".config"])
  Path.join [base, "litequery", "config.toml"]

/-- Only a file that is asked for has to exist. -/
def loadConfig (s : Surroundings) (path : Option Text) : Except ConfigError Config :=
  let file := path.getD s.defaultConfigPath
  if s.pathExists file then Config.parse ((s.contents file).getD []) (some file)
  else match path with
    | some path => .error (.notFound path)
    | none => .ok {}

end Surroundings

end SqlShell
