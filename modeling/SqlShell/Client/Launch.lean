import SqlShell.Client.Invocation
import SqlShell.Session.Loop

namespace SqlShell

namespace Batch

/-- Shows a result; the answer of a failed one is `false`. -/
def showResult (o : Output) (r : QueryResult) (w : World σ) :
    Except Failure (Option Bool) × World σ :=
  if !r.error.isEmpty then (.ok (some false), o.printError r.error w)
  else if r.cancelled then (.ok (some false), w)
  else
    let (outcome, w) := o.printAll (r.lines false) w
    (outcome.map (fun _ => none), w)

/-- Whether every statement succeeded. -/
def run (service : Service σ) (o : Output) (sql : Text) (w : World σ) :
    Except Failure Bool × World σ :=
  let (outcome, w) := service.run sql (showResult o) w
  (outcome.map (·.getD true), w)

end Batch

/-- How a database is to be opened. -/
structure DatabaseDetails where
  path : Text
  readOnly : Bool := false
  /-- How long to wait for others who use it. -/
  timeout : Millis := 5000

namespace DatabaseDetails

/-- What the database is called at the prompt. -/
def name (d : DatabaseDetails) : Text :=
  if d.path = Client.memoryDatabase then d.path else Path.baseName d.path

/-- Opens the database, whose directory must exist. `refusal` is what the database itself has
against it. -/
def connect (d : DatabaseDetails) (s : Surroundings) (refusal : Option Failure) (w : World σ) :
    Except Failure Unit × World σ :=
  let directory := Path.directoryOf s.workingDirectory d.path
  if d.path != Client.memoryDatabase && !s.pathExists directory then
    (.error (.error .general (.concat ["Path does not exist: ", directory])), w)
  else
    let w := w.emit [.opened d.path d.readOnly d.timeout]
    match refusal with
    | some f => (.error f, w)
    | none => (.ok (), w)

end DatabaseDetails

/-- What a call has come to. -/
inductive Launch (σ : Type) where
  | finished (outcome : Except Failure Nat) (w : World σ)
  | interactive (s : Session σ) (st : Session.State σ)

/-- What a call works with. -/
structure Client (σ : Type) where
  surroundings : Surroundings
  database : Database σ
  refusal : Option Failure := none
  logger : Logger := {}
  output : Output := {}
  editor : LineEditor := {}

namespace Client

/-- The settings of a call, and the least weight of messages in it. -/
def settings (c : Client σ) (o : SessionOptions) : Except ConfigError (Config × LogLevel) := do
  let config ← c.surroundings.loadConfig o.config
  match o.logLevel with
  | none => pure (config, config.logLevel)
  | some name =>
    match LogLevel.ofName? name with
    | some level => pure (config, level)
    | none => .error .unknownLevel

def refreshSchema (connection : Connection σ) (logger : Logger) (w : World σ) :
    Except Failure Unit × World σ :=
  let (outcome, w) := SchemaReading.refresh connection (logger.child "[schema]") w
  (outcome.map (fun _ => ()), w)

def service (connection : Connection σ) (logger : Logger) (path : Text) : Service σ :=
  { connection
    logger := logger.child "[query]"
    commands := some Builtin.registry
    databasePath := path
    onSchemaChange := some (refreshSchema connection logger) }

/-- Ends a call; the database is closed whatever the outcome. -/
def finish (outcome : Except Failure Nat) (w : World σ) : Launch σ :=
  .finished outcome (w.emit [.disconnected])

/-- Runs a text to its end. Nothing can interrupt it. -/
def runBatch (c : Client σ) (logger : Logger) (path sql : Text) (w : World σ) : Launch σ :=
  let connection : Connection σ := ⟨c.database, id⟩
  let (outcome, w) := Batch.run (service connection logger path) c.output sql w
  finish (outcome.map (fun succeeded => if succeeded then 0 else 1)) w

/-- Reads the schema and starts a session. -/
def startSession (c : Client σ) (logger : Logger) (config : Config) (details : DatabaseDetails)
    (w : World σ) : Launch σ :=
  match refreshSchema ⟨c.database, id⟩ logger w with
  | (.error f, w) => finish (.error f) w
  | (.ok (), w) =>
    let connection := Session.connection c.database logger
    let session : Session σ :=
      { service := service connection logger details.path
        commands := Builtin.registry
        config
        databaseName := details.name
        logger
        output := c.output
        editor := c.editor }
    .interactive session (session.start w)

def announceConfig (logger : Logger) (config : Config) (w : World σ) : World σ :=
  match config.path with
  | some path =>
    if path.isEmpty then w else w.emit (logger.debug (.concat ["Loaded config from ", path]))
  | none => w

def launch (c : Client σ) (path : Text) (o : SessionOptions) (w : World σ) : Launch σ :=
  match c.settings o with
  | .error e => .finished (.error e.failure) w
  | .ok (config, level) =>
    let logger := { c.logger with level }
    let details : DatabaseDetails := { path }
    match details.connect c.surroundings c.refusal (announceConfig logger config w) with
    | (.error f, w) => .finished (.error f) w
    | (.ok (), w) =>
      match o.execute with
      | some sql => c.runBatch logger path sql w
      | none => c.startSession logger config details w

end Client

namespace Launch

/-- Plays what the user does. There is no outcome while the session goes on. -/
def play (inputs : List UserInput) : Launch σ → Option (Except Failure Nat) × World σ
  | finished outcome w => (some outcome, w)
  | interactive s st =>
    let st := inputs.foldl s.step st
    if st.isDone then (some (.ok 0), st.world.emit [.disconnected]) else (none, st.world)

/-- The exit code of a call; a failure is reported and counts as one. -/
def exitCode (outcome : Except Failure Nat) (o : Output) (w : World σ) : Nat × World σ :=
  match outcome with
  | .ok code => (code, w)
  | .error f => (1, o.printError f.message w)

end Launch

end SqlShell
