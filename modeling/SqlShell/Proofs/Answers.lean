import SqlShell.Session.Loop

namespace SqlShell.Proofs

open SchemaReading

/-- A listener is told of a snapshot. -/
def isNotice : Event → Bool
  | .published _ => true
  | _ => false

/-- What listeners have been told so far. -/
def notices (w : World σ) : List Event := w.events.filter isNotice

/-- Messages of a logger are not taken for notices. -/
def Plain (l : Logger) : Prop := ∀ stream line, isNotice (l.write stream line) = false

/-- The store is the same, and no listener has been told anything since. -/
structure Untold (w v : World σ) : Prop where
  store : v.store = w.store
  notices : notices v = notices w

/-- An interruption may stop what is running and say so; it neither works on the database nor
publishes anything. -/
structure OnlyStops (c : Connection σ) : Prop where
  database (w : World σ) : (c.interrupt w).database = w.database
  untold (w : World σ) : Untold w (c.interrupt w)

/-- What a database has to say to a query, in the end. -/
def ask (d : Database σ) (sql : Text) (x : σ) : Except Failure Prepared × σ :=
  let asked := d.prepare sql x
  (asked.1.outcome.bind (fun p => p.failure.elim (.ok p) .error), asked.2)

/-- The answers to the five queries that a snapshot is made of. -/
structure Answers where
  relations : Except Failure Prepared
  indexes : Except Failure Prepared
  databases : Except Failure Prepared
  pragmas : Except Failure Prepared
  functions : Except Failure Prepared

/-- The answers of a database that is asked one query after the other. -/
def answers (d : Database σ) (x : σ) : Answers :=
  let relations := ask d relationsSql x
  let indexes := ask d SchemaReading.indexesSql relations.2
  let databases := ask d SchemaReading.databasesSql indexes.2
  let pragmas := ask d pragmasSql databases.2
  let functions := ask d functionsSql pragmas.2
  ⟨relations.1, indexes.1, databases.1, pragmas.1, functions.1⟩

/-- The texts in the first column of an answer. -/
def firstTexts (p : Prepared) : List Text := p.rows.map (fun row => (firstField row).plain)

def firstTextsOr (fallback : List Text) : Except Failure Prepared → List Text
  | .ok p => firstTexts p
  | .error _ => fallback

namespace Answers

/-- The parts that may not be missing. -/
def required (a : Answers) : Except Failure Required := do
  let relations ← a.relations
  let indexes ← a.indexes
  let databases ← a.databases
  pure
    { columns := relations.rows.map (RelationColumn.ofRow relations)
      indexes := firstTexts indexes
      databases := databases.rows.map (fun row => (databases.field "name" row).plain) }

/-- The snapshot that these answers make. -/
def snapshot (a : Answers) (now : Millis) : Except Failure SchemaSnapshot :=
  a.required.map (fun r =>
    r.snapshot (firstTextsOr Words.pragmas a.pragmas) (firstTextsOr [] a.functions) now)

end Answers

section
variable {w v u : World σ}

theorem Untold.rfl : Untold w w := ⟨Eq.refl _, Eq.refl _⟩

theorem Untold.trans (h : Untold w v) (h' : Untold v u) : Untold w u :=
  ⟨h'.store.trans h.store, h'.notices.trans h.notices⟩

theorem notices_emit (w : World σ) (events : List Event) :
    notices (w.emit events) = notices w ++ events.filter isNotice := List.filter_append ..

theorem untold_emit {events : List Event} (h : ∀ e ∈ events, isNotice e = false) :
    Untold w (w.emit events) := by
  refine ⟨Eq.refl _, ?_⟩
  rw [notices_emit, List.filter_eq_nil_iff.mpr (fun e he => by simp [h e he]), List.append_nil]

theorem untold_log {logger : Logger} (hl : Plain logger) (level : LogLevel) (message : Text) :
    Untold w (w.emit (logger.log level message)) := by
  refine untold_emit fun e he => ?_
  unfold Logger.log at he
  split at he
  · rw [List.mem_singleton.mp he]
    exact hl _ _
  · contradiction

end

section
variable {c : Connection σ}

theorem onlyStops_id (d : Database σ) : OnlyStops (⟨d, id⟩ : Connection σ) :=
  ⟨fun _ => rfl, fun _ => .rfl⟩

theorem onlyStops_session (d : Database σ) {logger : Logger} (hl : Plain logger) :
    OnlyStops (Session.connection d logger) := by
  refine ⟨fun _ => rfl, fun w => ?_⟩
  have h : Untold w (w.emit (logger.debug "Cancelling the running query")) := untold_log hl _ _
  exact ⟨h.store, h.notices⟩

theorem execute_asks (hc : OnlyStops c) (sql : Text) (w : World σ) :
    ∃ v, c.execute sql [] w = ((ask c.database sql w.database).1, v) ∧
      v.database = (ask c.database sql w.database).2 ∧ Untold w v := by
  let prepared : World σ :=
    { w.emit [.prepared sql] with
      database := (c.database.prepare sql w.database).2
      clock := w.clock + (c.database.prepare sql w.database).1.elapsed }
  have hprepared : Untold w prepared := by
    have h : Untold w (w.emit [.prepared sql]) := untold_emit (by simp [isNotice])
    exact ⟨h.store, h.notices⟩
  let after := c.interruptIf (c.database.prepare sql w.database).1.interrupted prepared
  have hafter : after.database = prepared.database ∧ Untold prepared after := by
    unfold after Connection.interruptIf
    split
    · exact ⟨hc.database prepared, hc.untold prepared⟩
    · exact ⟨rfl, .rfl⟩
  refine ⟨after, ?_, hafter.1, hprepared.trans hafter.2⟩
  simp only [Connection.execute, Connection.prepare, ask]
  cases (c.database.prepare sql w.database).1.outcome with
  | error f => rfl
  | ok p =>
    simp only [Prepared.execute, Except.bind]
    cases p.failure with
    | some f => rfl
    | none => rfl

/-- Reads the answer to one query, and tells nobody. -/
def Reads (c : Connection σ) (sql : Text) (read : Except Failure Prepared → α)
    (f : World σ → α × World σ) : Prop :=
  ∀ w, ∃ v, f w = (read (ask c.database sql w.database).1, v) ∧
    v.database = (ask c.database sql w.database).2 ∧ Untold w v

variable (hc : OnlyStops c)
include hc

theorem reads_of_execute {f : World σ → α × World σ} {read : Except Failure Prepared → α}
    (h : ∀ w, f w = (read (c.execute sql [] w).1, (c.execute sql [] w).2)) :
    Reads c sql read f := by
  intro w
  obtain ⟨v, hx, hv⟩ := execute_asks hc sql w
  refine ⟨v, ?_, hv⟩
  rw [h w, hx]

theorem relationColumns_reads :
    Reads c relationsSql (.map fun p => p.rows.map (RelationColumn.ofRow p))
      (relationColumns c) :=
  reads_of_execute hc fun _ => rfl

theorem firstColumn_reads (sql : Text) : Reads c sql (.map firstTexts) (firstColumn c sql) := by
  refine reads_of_execute hc fun w => ?_
  rw [firstColumn, Connection.rows]
  cases c.execute sql [] w with
  | mk outcome v =>
    cases outcome with
    | error f => rfl
    | ok p => rfl

theorem databaseNames_reads :
    Reads c SchemaReading.databasesSql
      (.map fun p => p.rows.map (fun row => (p.field "name" row).plain)) (databaseNames c) :=
  reads_of_execute hc fun _ => rfl

theorem firstColumnOr_reads {logger : Logger} (hl : Plain logger) (sql complaint : Text)
    (fallback : List Text) :
    Reads c sql (firstTextsOr fallback) (firstColumnOr c logger sql complaint fallback) := by
  intro w
  obtain ⟨v, h, hd, hv⟩ := firstColumn_reads hc sql w
  rw [firstColumnOr, h]
  cases (ask c.database sql w.database).1 with
  | ok p => exact ⟨v, rfl, hd, hv⟩
  | error f => exact ⟨_, rfl, hd, hv.trans (untold_log hl _ _)⟩

/-- The state of a database that has been asked for what may not be missing. -/
def afterRequired (d : Database σ) (x : σ) : σ :=
  (ask d SchemaReading.databasesSql
    (ask d SchemaReading.indexesSql (ask d relationsSql x).2).2).2

theorem required_reads (w : World σ) :
    ∃ v, SchemaReading.required c w = ((answers c.database w.database).required, v) ∧
      Untold w v ∧ (∀ r, (answers c.database w.database).required = .ok r →
        v.database = afterRequired c.database w.database) := by
  obtain ⟨w₁, h₁, hd₁, hw₁⟩ := relationColumns_reads hc w
  obtain ⟨w₂, h₂, hd₂, hw₂⟩ := firstColumn_reads hc SchemaReading.indexesSql w₁
  obtain ⟨w₃, h₃, hd₃, hw₃⟩ := databaseNames_reads hc w₂
  rw [hd₂, hd₁] at h₃ hd₃
  rw [hd₁] at h₂
  rw [SchemaReading.required, h₁]
  simp only [Answers.required, answers]
  cases (ask c.database relationsSql w.database).1 with
  | error f => exact ⟨w₁, rfl, hw₁, fun _ h => nomatch h⟩
  | ok relations =>
    simp only [Except.map]
    rw [h₂]
    cases (ask c.database SchemaReading.indexesSql
        (ask c.database relationsSql w.database).2).1 with
    | error f => exact ⟨w₂, rfl, hw₁.trans hw₂, fun _ h => nomatch h⟩
    | ok indexes =>
      simp only [Except.map]
      rw [h₃]
      cases (ask c.database SchemaReading.databasesSql (ask c.database SchemaReading.indexesSql
          (ask c.database relationsSql w.database).2).2).1 with
      | error f => exact ⟨w₃, rfl, (hw₁.trans hw₂).trans hw₃, fun _ h => nomatch h⟩
      | ok databases => exact ⟨w₃, rfl, (hw₁.trans hw₂).trans hw₃, fun _ _ => hd₃⟩

/-- A snapshot is what the answers to the five queries make. -/
theorem snapshot_reads {logger : Logger} (hl : Plain logger) (w : World σ) :
    ∃ v, SchemaReading.snapshot c logger w =
        ((answers c.database w.database).snapshot v.clock, v) ∧ Untold w v := by
  obtain ⟨w₁, h₁, hw₁, hd₁⟩ := required_reads hc w
  rw [SchemaReading.snapshot, h₁]
  unfold Answers.snapshot
  cases hr : (answers c.database w.database).required with
  | error f => exact ⟨w₁, rfl, hw₁⟩
  | ok r =>
    obtain ⟨w₂, h₂, hd₂, hw₂⟩ := firstColumnOr_reads hc hl pragmasSql
      "pragma_list unavailable, using built-in pragma names: " Words.pragmas w₁
    obtain ⟨w₃, h₃, -, hw₃⟩ := firstColumnOr_reads hc hl functionsSql
      "function_list unavailable, using built-in function names: " [] w₂
    rw [hd₁ r hr] at h₂ hd₂
    rw [hd₂] at h₃
    refine ⟨w₃, ?_, (hw₁.trans hw₂).trans hw₃⟩
    simp only [pragmas, functions, h₂, h₃]
    rfl

end

end SqlShell.Proofs
