import SqlShell.Query.Service
import SqlShell.Session.Completer
import SqlShell.Session.Output
import SqlShell.Session.Prompt

namespace SqlShell

/-- The line editor of a session. -/
structure LineEditor where
  /-- What a question comes to that is put once the editor is closed. Without it the question waits
  for an answer that nobody gives. -/
  refusal : Option Failure := none

/-- The line editor of a terminal. -/
def LineEditor.terminal : LineEditor := { refusal := some (.error .general "readline was closed") }

structure Session (σ : Type) where
  service : Service σ
  commands : Registry Builtin
  config : Config := {}
  databaseName : Text
  logger : Logger := {}
  output : Output := {}
  editor : LineEditor := {}

structure Session.State (σ : Type) where
  world : World σ
  /-- The lines of the statement that is being entered. -/
  buffer : List Text := []
  /-- What the line editor shows before the next line. -/
  prompt : Text
  /-- Lines that have arrived and wait their turn. -/
  queue : List Text := []
  /-- What is run if the question is answered with yes. -/
  question : Option Text := none
  /-- The run that has let others go first and is not over. -/
  running : Option (Service.Call σ) := none
  closed : Bool := false

namespace Session

/-- A connection whose interruptions stop the running query. -/
def connection (database : Database σ) (logger : Logger) : Connection σ :=
  { database
    interrupt := fun w =>
      { w.emit (logger.debug "Cancelling the running query") with aborted := true } }

def mainPrompt (s : Session σ) : Text := Prompt.render s.config.prompt s.databaseName

def destructiveQuestion : Text :=
  "You're about to run a destructive command.\nDo you want to proceed? (y/N) "

namespace State

def emit (st : State σ) (events : List Event) : State σ :=
  { st with world := st.world.emit events }

def showPrompt (st : State σ) : State σ := st.emit [.prompted st.prompt]

def close (st : State σ) : State σ :=
  if st.closed then st else { st.emit [.closed] with closed := true }

/-- A line is still being handled: its question has no answer, or its run is not over. -/
def isBusy (st : State σ) : Bool := st.question.isSome || st.running.isSome

/-- Nothing will be taken or run any more. -/
def isDone (st : State σ) : Bool := st.closed && !st.isBusy

end State

/-- Shows a result; one that asks to leave ends the run. -/
def showResult (s : Session σ) (r : QueryResult) (w : World σ) :
    Except Failure (Option Unit) × World σ :=
  if !r.error.isEmpty then (.ok none, s.output.printError r.error w)
  else match s.output.printAll (r.lines (!r.exit)) w with
    | (.error f, w) => (.error f, w)
    | (.ok (), w) => (.ok (if r.exit then some () else none), w)

/-- Reports a failure of the session itself. -/
def recover (s : Session σ) (f : Failure) (st : State σ) : State σ :=
  { st with world := s.output.printError f.message st.world }.showPrompt

/-- Leaves or goes on to the next line once a run is over; until then the run waits. -/
def attend (s : Session σ) (p : Service.Progress σ Unit) (st : State σ) : State σ :=
  match p with
  | .waiting call w => { st with world := w, running := some call }
  | .ended (.ok (some ())) w => { st with world := w, running := none }.close
  | .ended (.ok none) w => { st with world := w, running := none }.showPrompt
  | .ended (.error f) w => s.recover f { st with world := w, running := none }

/-- Runs a text. -/
def execute (s : Session σ) (sql : Text) (st : State σ) : State σ :=
  s.attend (s.service.start sql s.showResult { st.world with aborted := false }) st

def mustAsk (s : Session σ) (sql : Text) : Bool :=
  s.config.destructiveWarning && isDestructive sql

/-- What a question comes to that the line editor does not put. -/
def refusal? (s : Session σ) (st : State σ) : Option Failure :=
  if st.closed then s.editor.refusal else none

/-- Asks whether a text is to be run. -/
def ask (s : Session σ) (sql : Text) (st : State σ) : State σ :=
  match s.refusal? st with
  | some f => s.recover f st
  | none => { st.emit [.asked destructiveQuestion] with question := some sql }

/-- Runs a complete text, or asks before it does. -/
def submit (s : Session σ) (sql : Text) (st : State σ) : State σ :=
  if s.mustAsk sql then s.ask sql st else s.execute sql st

/-- Whether a text ends where a statement may end. -/
def isComplete (sql : Text) : Bool := sql.getLast? == some (unit ';')

def handleLine (s : Session σ) (line : Text) (st : State σ) : State σ :=
  let trimmed := Text.trim line
  if st.buffer.isEmpty && trimmed.isEmpty then st.showPrompt
  else if st.buffer.isEmpty && s.commands.isCommand trimmed then s.execute trimmed st
  else
    let buffer := st.buffer ++ [line]
    let sql := Text.trim (Text.join [unit '\n'] buffer)
    if isComplete sql then s.submit sql { st with buffer := [], prompt := s.mainPrompt }
    else { st with buffer, prompt := Prompt.continuation }.showPrompt

/-- Takes lines until one of them leaves a question or a run that waits. -/
def takeLines (s : Session σ) : List Text → State σ → State σ
  | [], st => { st with queue := [] }
  | line :: rest, st =>
    if st.isBusy then { st with queue := line :: rest }
    else s.takeLines rest (s.handleLine line st)

/-- Only a `y` is a yes. -/
def isYes (answer : Text) : Bool := (Text.trim answer).lower == [unit 'y']

def answer (s : Session σ) (sql line : Text) (st : State σ) : State σ :=
  let st := { st with question := none }
  if isYes line then s.execute sql st
  else match s.output.print "Wise choice!" st.world with
    | (.ok (), w) => { st with world := w }.showPrompt
    | (.error f, w) => s.recover f { st with world := w }

/-- Lines arrive together; the first of them answers a question that waits. -/
def receive (s : Session σ) (lines : List Text) (st : State σ) : State σ :=
  match st.question, lines with
  | some sql, line :: rest => s.takeLines (st.queue ++ rest) (s.answer sql line st)
  | _, lines => s.takeLines (st.queue ++ lines) st

/-- An interruption stops the run that waits. Without one it drops the statement that is being
entered, and without that it ends the session. -/
def interrupt (s : Session σ) (st : State σ) : State σ :=
  if st.running.isSome then { st with world := s.service.connection.interrupt st.world }
  else if st.buffer.isEmpty then st.close
  else
    let st := { st with buffer := [], prompt := s.mainPrompt }
    match s.output.print [] st.world with
    | (.ok (), w) => { st with world := w }.showPrompt
    | (.error _, w) => { st with world := w }

def complete (s : Session σ) (line : Text) (st : State σ) : State σ :=
  let (texts, typed) := Completer.complete st.world.store.current s.config s.commands.vocabulary
    st.buffer line
  st.emit [.offered texts typed]

def respond (s : Session σ) (i : UserInput) (st : State σ) : State σ :=
  match i with
  | .line text => s.receive [text] st
  | .lines texts => s.receive texts st
  | .interrupt => s.interrupt st
  | .endOfInput => st.close
  | .tab line => s.complete line st
  | .wait elapsed => { st with world := { st.world with clock := st.world.clock + elapsed } }

/-- Goes on with the run that waits. -/
def goOn (s : Session σ) (st : State σ) : State σ :=
  match st.running with
  | none => st
  | some call => s.attend (s.service.resume s.showResult call st.world) st

/-- What can come next in a session. -/
inductive Moment where
  | input (i : UserInput)
  /-- The run that waits goes on. -/
  | resume

/-- What a session does at a moment. A closed session takes no more input. -/
def move (s : Session σ) (st : State σ) : Moment → State σ
  | .input i => if st.closed then st else s.respond i (st.emit [.input i])
  | .resume =>
    if st.running.isNone then st
    else
      let st := s.goOn st
      s.takeLines st.queue st

def start (s : Session σ) (w : World σ) : State σ :=
  let greeting : Text := .concat ["Interactive session on ", s.databaseName]
  let st : State σ := { world := w.emit (s.logger.debug greeting), prompt := s.mainPrompt }
  st.showPrompt

/-- The state that a session is in after some moments. -/
def follow (s : Session σ) (moments : List Moment) (w : World σ) : State σ :=
  moments.foldl s.move (s.start w)

/-- Brings the run that waits to its end. -/
def finishRun (s : Session σ) (st : State σ) : State σ :=
  match st.running with
  | none => st
  | some call =>
    let (answer, w) := s.service.complete s.showResult call st.world
    s.attend (.ended answer w) st

/-- Takes lines until one of them leaves a question, and brings every run to its end. -/
def settle (s : Session σ) : List Text → State σ → State σ
  | [], st => { s.finishRun st with queue := [] }
  | line :: rest, st =>
    let st := s.finishRun st
    if st.question.isSome then { st with queue := line :: rest }
    else s.settle rest (s.handleLine line st)

/-- What comes of an input if nothing else happens until the session is at rest. -/
def step (s : Session σ) (st : State σ) (i : UserInput) : State σ :=
  let st := s.move st (.input i)
  s.settle st.queue st

def play (s : Session σ) (inputs : List UserInput) (w : World σ) : State σ :=
  inputs.foldl s.step (s.start w)

end Session

end SqlShell
