import SqlShell.Command.Builtin
import SqlShell.Query.Task
import SqlShell.Schema.Reading
import SqlShell.Statement.Kind

namespace SqlShell

structure Service (σ : Type) where
  connection : Connection σ
  logger : Logger := { level := .silent }
  commands : Option (Registry Builtin) := none
  databasePath : Text := []
  /-- Called when the schema may have changed. -/
  onSchemaChange : Option (World σ → Except Failure Unit × World σ) := none
  /-- How many rows are read before the user may stop the query. -/
  yieldEvery : Nat := 500

namespace Service

/-- How many rows are read between two looks at whether the query is to stop. -/
def stride (s : Service σ) : Nat := max 1 s.yieldEvery

/-- A schema that cannot be read is no reason to stop. -/
def notifySchemaChange (s : Service σ) (w : World σ) : World σ :=
  match s.onSchemaChange with
  | none => w
  | some change =>
    match change w with
    | (.ok (), w) => w
    | (.error f, w) => w.emit (s.logger.warn (.concat ["Schema refresh failed: ", f.message]))

/-- Reads the rows that are left after `count` of them. Behind every so many rows others go first,
and then it is looked at whether the query is to stop. -/
def rowsTask (s : Service σ) (count : Nat) :
    List RowStep → World σ → Task σ (Except Failure (List (List Text)))
  | [], w => .done (.ok []) w
  | step :: rest, w =>
    let w := s.connection.interruptIf step.interrupted w
    match step.outcome with
    | .error f => .done (.error f) w
    | .ok row =>
      let others (w : World σ) : Task σ (Except Failure (List (List Text))) :=
        (s.rowsTask (count + 1) rest w).map (.map (row.map Datum.display :: ·))
      if (count + 1) % s.stride = 0 then
        .paused w fun w =>
          let w := s.connection.interruptIf step.interruptedBehind w
          if w.aborted then .done (.error .cancelled) w else others w
      else others w

/-- The result of a statement that is ready to run. -/
def preparedTask (s : Service σ) (text : Text) (p : Prepared) (w : World σ) :
    Task σ (Except Failure QueryResult) :=
  match p.execute [] w with
  | (.error f, w) => .done (.error f) w
  | (.ok p, w) =>
    match p.columns with
    | none =>
      .done (.ok { statement := text, rowCount := p.changes, status := rowsAffected p.changes }) w
    | some columns =>
      (s.rowsTask 0 p.steps w).map (.map fun rows =>
        { statement := text, columns, rows, rowCount := rows.length
          status := rowsInSet rows.length })

/-- The result of a statement, without the time that it took. -/
def statementTask (s : Service σ) (st : Statement) (text : Text) (w : World σ) :
    Task σ (Except Failure QueryResult) :=
  let w := w.emit (s.logger.debug (.concat ["Executing: ", text]))
  match s.connection.prepare st.text w with
  | (.error f, w) => .done (.error f) w
  | (.ok p, w) => s.preparedTask text p w

/-- The number of the line in which an offset lies. -/
def lineOf (sql : Text) (offset : Nat) : Nat := (sql.take offset).count (unit '\n') + 1

/-- What is reported of a statement that failed. -/
def errorText (sql : Text) (st : Statement) (f : Failure) : Text :=
  .concat ["ERROR at Line ", .ofNat (lineOf sql (st.leading?.elim st.start Token.start)), ": ",
    f.message]

/-- What has come of a statement of SQL since `begun`. The flag says whether the run ends with
it. -/
def conclude (s : Service σ) (sql : Text) (st : Statement) (text : Text) (begun : Millis) :
    Except Failure QueryResult → World σ → QueryResult × Bool × World σ
  | .ok r, w =>
    let r := { r with elapsed := w.clock - begun }
    (r, false, if st.altersSchema then s.notifySchemaChange w else w)
  | .error f, w =>
    let elapsed := w.clock - begun
    if f.isCancellation then
      (.stopped text elapsed, true,
        w.emit (s.logger.debug (.concat ["Cancelled after ", Number.text elapsed, "ms: ", text])))
    else (.failed text elapsed (errorText sql st f), true, w)

/-- Runs a statement of SQL. -/
def sqlTask (s : Service σ) (sql : Text) (st : Statement) (text : Text) (w : World σ) :
    Task σ (QueryResult × Bool) :=
  (s.statementTask st text w).andThen fun outcome after =>
    let (r, ends, after) := s.conclude sql st text w.clock outcome after
    .done (r, ends) after

def commandContext (s : Service σ) (commands : Registry Builtin) : CommandContext σ :=
  ⟨s.connection, s.databasePath, s.notifySchemaChange, commands.listing⟩

/-- The output of the command that a line calls. -/
def runCommand (s : Service σ) (commands : Registry Builtin) (line : Text) (w : World σ) :
    Except Failure CommandOutput × World σ :=
  match commands.resolve line with
  | .error e => (.error e.failure, w)
  | .ok c =>
    let parsed := CommandLine.parse line
    c.action.run (s.commandContext commands) parsed.argument parsed.verbose w

/-- Runs a command of the client. -/
def performCommand (s : Service σ) (commands : Registry Builtin) (text : Text) (w : World σ) :
    QueryResult × Bool × World σ :=
  let (outcome, after) := s.runCommand commands text w
  let elapsed := after.clock - w.clock
  let r : QueryResult :=
    match outcome with
    | .ok o =>
      { statement := text, columns := o.columns, rows := o.rows, rowCount := o.rows.length
        status := o.status, elapsed, exit := o.exit }
    | .error f => .failed text elapsed f.message
  (r, !r.error.isEmpty || r.exit, after)

/-- The registry, if a text is a command in it. -/
def commandFor? (s : Service σ) (text : Text) : Option (Registry Builtin) :=
  s.commands.filter (fun r => r.isCommand text)

/-- Runs one statement unless the run has been told to stop. -/
def performTask (s : Service σ) (sql : Text) (st : Statement) (w : World σ) :
    Task σ (QueryResult × Bool) :=
  let text := Text.trim st.text
  if w.aborted then .done (.stopped text 0, true) w
  else match s.commandFor? text with
    | some commands =>
      let (r, ends, w) := s.performCommand commands text w
      .done (r, ends) w
    | none => s.sqlTask sql st text w

/-- Runs one statement while nobody does anything meanwhile. -/
def perform (s : Service σ) (sql : Text) (st : Statement) (w : World σ) :
    QueryResult × Bool × World σ :=
  let ((r, ends), w) := (s.performTask sql st w).finish
  (r, ends, w)

/-- Hands a result to `take`. The run stops with an answer, or it goes on. -/
def handOut (take : QueryResult → World σ → Except Failure (Option ρ) × World σ)
    (stop : Except Failure (Option ρ) → World σ → α) (goOn : World σ → α) (r : QueryResult)
    (ends : Bool) (w : World σ) : α :=
  match take r w with
  | (.ok none, w) => if ends then stop (.ok none) w else goOn w
  | (answer, w) => stop answer w

/-- Runs statements and hands each result to `take`, which may end the run with an answer. -/
def each (s : Service σ) (sql : Text)
    (take : QueryResult → World σ → Except Failure (Option ρ) × World σ) :
    List Statement → World σ → Except Failure (Option ρ) × World σ
  | [], w => (.ok none, w)
  | st :: rest, w =>
    let (r, ends, w) := s.perform sql st w
    handOut take Prod.mk (fun w => s.each sql take rest w) r ends w

/-- Runs the statements of a text. -/
def run (s : Service σ) (sql : Text)
    (take : QueryResult → World σ → Except Failure (Option ρ) × World σ) (w : World σ) :
    Except Failure (Option ρ) × World σ :=
  s.each sql take (executableStatements sql) w

/-- A run that lets others go first in the midst of a statement. -/
structure Call (σ : Type) where
  sql : Text
  /-- How it goes on with the statement. -/
  statement : World σ → Task σ (QueryResult × Bool)
  /-- The statements behind it. -/
  rest : List Statement

/-- How far a run has come. -/
inductive Progress (σ ρ : Type) where
  | ended (answer : Except Failure (Option ρ)) (w : World σ)
  | waiting (call : Call σ) (w : World σ)

/-- How far a run has come with a statement, whose result is handed out once it is there. -/
def progress (take : QueryResult → World σ → Except Failure (Option ρ) × World σ) (sql : Text)
    (rest : List Statement) (goOn : World σ → Progress σ ρ) :
    Task σ (QueryResult × Bool) → Progress σ ρ
  | .paused w statement => .waiting ⟨sql, statement, rest⟩ w
  | .done (r, ends) w => handOut take .ended goOn r ends w

/-- Runs statements until others go first. -/
def advance (s : Service σ) (sql : Text)
    (take : QueryResult → World σ → Except Failure (Option ρ) × World σ) :
    List Statement → World σ → Progress σ ρ
  | [], w => .ended (.ok none) w
  | st :: rest, w =>
    progress take sql rest (fun w => s.advance sql take rest w) (s.performTask sql st w)

/-- Begins to run the statements of a text. -/
def start (s : Service σ) (sql : Text)
    (take : QueryResult → World σ → Except Failure (Option ρ) × World σ) (w : World σ) :
    Progress σ ρ :=
  s.advance sql take (executableStatements sql) w

/-- Goes on with a run after others have gone first. -/
def resume (s : Service σ) (take : QueryResult → World σ → Except Failure (Option ρ) × World σ)
    (call : Call σ) (w : World σ) : Progress σ ρ :=
  progress take call.sql call.rest (s.advance call.sql take call.rest) (call.statement w)

/-- What comes of a run if nobody does anything any more. -/
def complete (s : Service σ) (take : QueryResult → World σ → Except Failure (Option ρ) × World σ)
    (call : Call σ) (w : World σ) : Except Failure (Option ρ) × World σ :=
  let ((r, ends), w) := (call.statement w).finish
  handOut take Prod.mk (s.each call.sql take call.rest) r ends w

/-- Every result of a text, as an event. The run is told to stop after `limit` results. -/
def report (s : Service σ) (sql : Text) (limit : Option Nat) (w : World σ) : World σ :=
  let seen (w : World σ) : Nat := w.events.countP (fun e => e matches .result _)
  let take (r : QueryResult) (w : World σ) : Except Failure (Option Unit) × World σ :=
    let w := w.emit [.result r]
    (.ok none, { w with aborted := w.aborted || limit == some (seen w) })
  (s.run sql take w).2

/-- Reads rows while nobody does anything meanwhile. -/
def readRows (s : Service σ) (count : Nat) (steps : List RowStep) (w : World σ) :
    Except Failure (List (List Text)) × World σ := (s.rowsTask count steps w).finish

def runPrepared (s : Service σ) (text : Text) (p : Prepared) (w : World σ) :
    Except Failure QueryResult × World σ := (s.preparedTask text p w).finish

def runStatement (s : Service σ) (st : Statement) (text : Text) (w : World σ) :
    Except Failure QueryResult × World σ := (s.statementTask st text w).finish

def performSql (s : Service σ) (sql : Text) (st : Statement) (text : Text) (w : World σ) :
    QueryResult × Bool × World σ :=
  let ((r, ends), w) := (s.sqlTask sql st text w).finish
  (r, ends, w)

section
variable {s : Service σ}

theorem readRows_nil (count : Nat) (w : World σ) : s.readRows count [] w = (.ok [], w) := rfl

theorem readRows_error {step : RowStep} (h : step.outcome = .error f) (count : Nat)
    (rest : List RowStep) (w : World σ) :
    s.readRows count (step :: rest) w =
      (.error f, s.connection.interruptIf step.interrupted w) := by
  rw [readRows, rowsTask, h]
  rfl

theorem runPrepared_eq (text : Text) (p : Prepared) (w : World σ) :
    s.runPrepared text p w =
      match p.execute [] w with
      | (.error f, w) => (.error f, w)
      | (.ok p, w) =>
        match p.columns with
        | none =>
          (.ok { statement := text, rowCount := p.changes, status := rowsAffected p.changes }, w)
        | some columns =>
          let (outcome, w) := s.readRows 0 p.steps w
          (outcome.map (fun rows =>
            { statement := text, columns, rows, rowCount := rows.length
              status := rowsInSet rows.length }), w) := by
  unfold runPrepared preparedTask
  cases p.execute [] w with
  | mk outcome v =>
    cases outcome with
    | error f => rfl
    | ok q =>
      cases hc : q.columns with
      | none => simp [hc, Task.finish]
      | some columns => simp [hc, Task.finish_map, readRows]

theorem runStatement_eq (st : Statement) (text : Text) (w : World σ) :
    s.runStatement st text w =
      let w := w.emit (s.logger.debug (.concat ["Executing: ", text]))
      match s.connection.prepare st.text w with
      | (.error f, w) => (.error f, w)
      | (.ok p, w) => s.runPrepared text p w := by
  unfold runStatement statementTask
  dsimp only
  split
  · rfl
  · rfl

theorem performSql_eq (sql : Text) (st : Statement) (text : Text) (w : World σ) :
    s.performSql sql st text w =
      s.conclude sql st text w.clock (s.runStatement st text w).1 (s.runStatement st text w).2 := by
  unfold performSql sqlTask
  rw [Task.finish_andThen]
  rfl

theorem perform_eq (sql : Text) (st : Statement) (w : World σ) :
    s.perform sql st w =
      if w.aborted then (.stopped (Text.trim st.text) 0, true, w)
      else match s.commandFor? (Text.trim st.text) with
        | some commands => s.performCommand commands (Text.trim st.text) w
        | none => s.performSql sql st (Text.trim st.text) w := by
  unfold perform performTask
  dsimp only
  split
  · rfl
  · split
    · rfl
    · rfl

end

end Service

end SqlShell
