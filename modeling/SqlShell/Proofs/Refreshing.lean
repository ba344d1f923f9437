import SqlShell.Proofs.Answers
import SqlShell.Proofs.Turns

namespace SqlShell.Proofs

open SchemaReading

/-- The same service with another refresh. -/
def refreshing (s : Service σ) (change : Option (World σ → Except Failure Unit × World σ)) :
    Service σ := { s with onSchemaChange := change }

/-- The same service, but a refresh that fails says so itself instead of throwing. -/
def tolerant (s : Service σ) : Service σ :=
  refreshing s (s.onSchemaChange.map fun change w =>
    match change w with
    | (.ok (), v) => (.ok (), v)
    | (.error f, v) =>
      (.ok (), v.emit (s.logger.warn (.concat ["Schema refresh failed: ", f.message]))))

/-- A refresh changes no result and ends no run, even if it throws. -/
structure Undisturbed (s : Service σ) (sql : Text) : Prop where
  /-- Without any refresh the result is the same, but for the time of one that was asked for. -/
  result (x : Statement) (w : World σ) :
    { (s.perform sql x w).1 with
      elapsed := ((refreshing s none).perform sql x w).1.elapsed } =
        ((refreshing s none).perform sql x w).1
  ends (x : Statement) (w : World σ) :
    (s.perform sql x w).2.1 = ((refreshing s none).perform sql x w).2.1
  /-- All goes as if the refresh had not thrown, whoever takes the results. -/
  turns_eq {ρ : Type} (take : QueryResult → World σ → Except Failure (Option ρ) × World σ)
    (w : World σ) :
    turns s sql take (executableStatements sql) w =
      turns (tolerant s) sql take (executableStatements sql) w
  run_eq {ρ : Type} (take : QueryResult → World σ → Except Failure (Option ρ) × World σ)
    (w : World σ) : s.run sql take w = (tolerant s).run sql take w

theorem notices_publish (s : SchemaSnapshot) (w : World σ) :
    notices (publish s w) =
      notices w ++ w.store.listeners.map (fun _ => .published s.tableNames.length) := by
  refine (notices_emit _ _).trans (congrArg (notices w ++ ·) ?_)
  rw [List.filter_eq_self.mpr]
  · exact List.map_map
  · intro e he
    obtain ⟨told, -, rfl⟩ := List.mem_map.mp he
    rfl

/-- How a refresh goes: either the schema cannot be read and nobody is told, or the snapshot that
the answers make is published. -/
theorem refresh_cases {c : Connection σ} (hc : OnlyStops c) {logger : Logger} (hl : Plain logger)
    (w : World σ) :
    ∃ v, Untold w v ∧
      ((∃ f, (answers c.database w.database).required = .error f ∧
          refresh c logger w = (.error f, v)) ∨
        ∃ s u, (answers c.database w.database).snapshot v.clock = .ok s ∧
          Untold (publish s v) u ∧ refresh c logger w = (.ok s, u)) := by
  obtain ⟨v, h, hv⟩ := snapshot_reads hc hl w
  refine ⟨v, hv, ?_⟩
  rw [refresh, h]
  unfold Answers.snapshot
  cases (answers c.database w.database).required with
  | error f => exact .inl ⟨f, rfl, rfl⟩
  | ok r => exact .inr ⟨_, _, rfl, untold_log hl _ _, rfl⟩

section
variable {s t : Service σ} (h : s.perform = t.perform) {ρ : Type} (sql : Text)
  (take : QueryResult → World σ → Except Failure (Option ρ) × World σ)
include h

/-- A run knows a service only by how it performs a statement. -/
theorem turns_of_perform (ss : List Statement) (w : World σ) :
    turns s sql take ss w = turns t sql take ss w := by
  induction ss generalizing w with
  | nil => rfl
  | cons x rest ih =>
    have hx : Turn.of s sql x w = Turn.of t sql x w := by
      rw [Turn.of, Turn.of, h]
    rw [turns, turns, hx]
    simp only [ih]

theorem each_of_perform (ss : List Statement) (w : World σ) :
    s.each sql take ss w = t.each sql take ss w := by
  induction ss generalizing w with
  | nil => rfl
  | cons x rest ih =>
    have hx : Turn.of s sql x w = Turn.of t sql x w := by
      rw [Turn.of, Turn.of, h]
    rw [each_cons, each_cons, hx]
    simp only [ih]

end

section
variable (s : Service σ) (change : Option (World σ → Except Failure Unit × World σ))

theorem rowsTask_refreshing (count : Nat) (steps : List RowStep) (w : World σ) :
    (refreshing s change).rowsTask count steps w = s.rowsTask count steps w := by
  induction steps generalizing count w with
  | nil => rfl
  | cons step rest ih =>
    rw [Service.rowsTask, Service.rowsTask]
    simp only [ih]
    rfl

theorem statementTask_refreshing (x : Statement) (text : Text) (w : World σ) :
    (refreshing s change).statementTask x text w = s.statementTask x text w := by
  unfold Service.statementTask Service.preparedTask
  simp only [rowsTask_refreshing]
  rfl

theorem runStatement_refreshing (x : Statement) (text : Text) (w : World σ) :
    (refreshing s change).runStatement x text w = s.runStatement x text w :=
  congrArg Task.finish (statementTask_refreshing s change x text w)

theorem performSql_refreshing (sql : Text) (x : Statement) (text : Text) (w : World σ) :
    (s.performSql sql x text w).1 = ((refreshing s change).performSql sql x text w).1 ∧
      (s.performSql sql x text w).2.1 =
        ((refreshing s change).performSql sql x text w).2.1 := by
  cases h : s.runStatement x text w with
  | mk outcome v =>
    have h' : (refreshing s change).runStatement x text w = (outcome, v) :=
      (runStatement_refreshing s change x text w).trans h
    cases outcome with
    | ok r =>
      rw [performSql_ok h, performSql_ok h']
      exact ⟨rfl, rfl⟩
    | error f =>
      cases hf : f.isCancellation with
      | true =>
        rw [performSql_cancelled h hf, performSql_cancelled h' hf]
        exact ⟨rfl, rfl⟩
      | false =>
        rw [performSql_failed h hf, performSql_failed h' hf]
        exact ⟨rfl, rfl⟩

/-- A command answers the same whatever the refresh does. -/
theorem run_refresh (b : Builtin) (ctx : CommandContext σ) (refresh : World σ → World σ)
    (argument : Text) (verbose : Bool) (w : World σ) :
    (b.run ctx argument verbose w).1 = (b.run { ctx with refresh } argument verbose w).1 := by
  cases b with
  | help | exit | tables | views | schema | indexes | databases | describe | status | refresh => rfl

theorem runCommand_refreshing (commands : Registry Builtin) (line : Text) (w : World σ) :
    (s.runCommand commands line w).1 = ((refreshing s change).runCommand commands line w).1 := by
  unfold Service.runCommand
  cases commands.resolve line with
  | error e => rfl
  | ok entry => exact run_refresh entry.action (s.commandContext commands) _ _ _ w

theorem performCommand_refreshing (commands : Registry Builtin) (text : Text) (w : World σ) :
    { (s.performCommand commands text w).1 with
      elapsed := ((refreshing s change).performCommand commands text w).1.elapsed } =
        ((refreshing s change).performCommand commands text w).1 ∧
      (s.performCommand commands text w).2.1 =
        ((refreshing s change).performCommand commands text w).2.1 := by
  unfold Service.performCommand
  dsimp only
  rw [runCommand_refreshing s change]
  cases ((refreshing s change).runCommand commands text w).1 with
  | ok o => exact ⟨rfl, rfl⟩
  | error f => exact ⟨rfl, rfl⟩

theorem notify_tolerant : (tolerant s).notifySchemaChange = s.notifySchemaChange := by
  funext w
  unfold Service.notifySchemaChange tolerant refreshing
  cases s.onSchemaChange with
  | none => rfl
  | some change =>
    simp only [Option.map_some]
    cases change w with
    | mk outcome v =>
      cases outcome with
      | ok _ => rfl
      | error f => rfl

theorem conclude_tolerant : (tolerant s).conclude = s.conclude := by
  funext sql x text begun outcome w
  unfold Service.conclude
  rw [notify_tolerant]
  rfl

theorem performTask_tolerant : (tolerant s).performTask = s.performTask := by
  funext sql x w
  unfold Service.performTask Service.performCommand Service.runCommand Service.commandContext
    Service.sqlTask
  rw [conclude_tolerant, notify_tolerant, tolerant]
  simp only [statementTask_refreshing]
  rfl

theorem perform_tolerant : (tolerant s).perform = s.perform := by
  funext sql x w
  rw [Service.perform, Service.perform, performTask_tolerant]

theorem perform_refreshing (sql : Text) (x : Statement) (w : World σ) :
    { (s.perform sql x w).1 with
      elapsed := ((refreshing s change).perform sql x w).1.elapsed } =
        ((refreshing s change).perform sql x w).1 ∧
      (s.perform sql x w).2.1 = ((refreshing s change).perform sql x w).2.1 := by
  cases ha : w.aborted with
  | true =>
    rw [perform_aborted x ha, perform_aborted x ha]
    exact ⟨rfl, rfl⟩
  | false =>
    cases hc : s.commandFor? (Text.trim x.text) with
    | some commands =>
      have hc' : (refreshing s change).commandFor? (Text.trim x.text) = some commands := hc
      rw [perform_command ha hc, perform_command ha hc']
      exact performCommand_refreshing s change commands _ w
    | none =>
      have hc' : (refreshing s change).commandFor? (Text.trim x.text) = none := hc
      rw [perform_sql ha hc, perform_sql ha hc']
      obtain ⟨hr, he⟩ := performSql_refreshing s change sql x (Text.trim x.text) w
      refine ⟨?_, he⟩
      rw [hr]

theorem undisturbed (sql : Text) : Undisturbed s sql where
  result x w := (perform_refreshing s none sql x w).1
  ends x w := (perform_refreshing s none sql x w).2
  turns_eq take w := turns_of_perform (perform_tolerant s).symm sql take _ w
  run_eq take w := each_of_perform (perform_tolerant s).symm sql take _ w

end

theorem required_failed_iff (a : Answers) : (∃ f, a.required = .error f) ↔
    (∃ f, a.relations = .error f) ∨ (∃ f, a.indexes = .error f) ∨
      ∃ f, a.databases = .error f := by
  rw [Answers.required]
  cases a.relations with
  | error f => exact ⟨fun _ => .inl ⟨f, rfl⟩, fun _ => ⟨f, rfl⟩⟩
  | ok relations =>
    cases a.indexes with
    | error f => exact ⟨fun _ => .inr (.inl ⟨f, rfl⟩), fun _ => ⟨f, rfl⟩⟩
    | ok indexes =>
      cases a.databases with
      | error f => exact ⟨fun _ => .inr (.inr ⟨f, rfl⟩), fun _ => ⟨f, rfl⟩⟩
      | ok databases =>
        constructor
        · rintro ⟨f, h⟩
          cases h
        · rintro (⟨f, h⟩ | ⟨f, h⟩ | ⟨f, h⟩)
          · cases h
          · cases h
          · cases h

/-- An empty database whose user is impatient. It counts the queries and refuses one of them. -/
def refusing (query : Nat) : Database Nat where
  prepare _ asked :=
    let nothing : Prepared :=
      { columns := some [], failure := none, changes := 0, rows := [], steps := [] }
    let outcome : Except Failure Prepared :=
      if asked = query then .error (.error .general "no such table") else .ok nothing
    (⟨0, true, outcome⟩, asked + 1)
  isReadOnly _ := false
  inTransaction _ := false

/-- A world with one listener, which nobody has told anything. -/
def watched : World Nat := { database := 0, store := { listeners := ["completer"] } }

end SqlShell.Proofs
