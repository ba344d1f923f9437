import SqlShell.Client.Launch
import SqlShell.Proofs.Results

namespace SqlShell.Proofs

/-- Carrying out a statement in this world fails. -/
inductive Fails (s : Service σ) (x : Statement) (w : World σ) (f : Failure) : Prop
  | sql (ha : w.aborted = false) (hc : s.commandFor? (Text.trim x.text) = none)
      (h : s.runStatement x (Text.trim x.text) w = (.error f, v))
  | command (ha : w.aborted = false) (hc : s.commandFor? (Text.trim x.text) = some commands)
      (h : s.runCommand commands (Text.trim x.text) w = (.error f, v))

/-- The result says so: it has an error, or it tells that a statement of SQL was stopped. -/
def Marked (s : Service σ) (t : Turn σ) (f : Failure) : Prop :=
  t.result.error ≠ [] ∨
    (t.result.cancelled = true ∧ f.isCancellation = true ∧
      s.commandFor? (Text.trim t.statement.text) = none)

/-- A command of the client has failed with nothing to say about it. -/
def Unheard (s : Service σ) (x : Statement) (f : Failure) : Prop :=
  (s.commandFor? (Text.trim x.text)).isSome = true ∧ f.message = []

/-- A call of the client comes to run `sql` in world `w`. -/
def ComesTo (c : Client σ) (path : Text) (options : SessionOptions) (start : World σ)
    (s : Service σ) (o : Output) (sql : Text) (w : World σ) : Prop :=
  ∃ config level, c.settings options = .ok (config, level) ∧
    DatabaseDetails.connect { path } c.surroundings c.refusal
      (Client.announceConfig { c.logger with level } config start) = (.ok (), w) ∧
    options.execute = some sql ∧ o = c.output ∧
    s = Client.service ⟨c.database, id⟩ { c.logger with level } path

section
variable {s : Service σ} {sql : Text} {o : Output}

theorem performCommand_failed (h : s.runCommand commands line w = (.error f, v)) :
    s.performCommand commands line w =
      (.failed line (v.clock - w.clock) f.message, !f.message.isEmpty, v) := by
  rw [Service.performCommand, h]
  simp [QueryResult.failed]

theorem marked_iff (hf : Fails s x w f) :
    Marked s (.of s sql x w) f ↔ ¬ Unheard s x f := by
  change ((s.perform sql x w).1.error ≠ [] ∨ ((s.perform sql x w).1.cancelled = true ∧
    f.isCancellation = true ∧ s.commandFor? (Text.trim x.text) = none)) ↔ _
  cases hf with
  | sql ha hc h =>
    rw [perform_sql ha hc, hc, Unheard, hc]
    cases hn : f.isCancellation with
    | true =>
      rw [performSql_cancelled h hn]
      simp [QueryResult.stopped]
    | false =>
      rw [performSql_failed h hn]
      simp [QueryResult.failed, errorText_nonempty]
  | command ha hc h =>
    rw [perform_command ha hc, performCommand_failed h, Unheard, hc]
    simp [QueryResult.failed]

theorem Marked.stops {t : Turn σ} (h : Marked s t f) : Stops t.result :=
  h.elim .inl (fun h => .inr (.inl h.1))

theorem showResult_refused (w : World σ) (h : r.error ≠ [] ∨ r.cancelled = true) :
    (Batch.showResult o r w).1 = .ok (some false) := by
  unfold Batch.showResult
  cases he : r.error with
  | cons u rest => rfl
  | nil =>
    have hc : r.cancelled = true := h.resolve_left (fun hn => hn he)
    rw [hc]
    rfl

theorem Marked.refused {t : Turn σ} (h : Marked s t f) (w : World σ) :
    (Batch.showResult o t.result w).1 = .ok (some false) :=
  showResult_refused w (h.imp_right And.left)

theorem run_refused {before after : List (Turn σ)} {t : Turn σ}
    (ht : turns s sql (Batch.showResult o) (executableStatements sql) w = before ++ t :: after)
    (hr : (Batch.showResult o t.result t.after).1 = .ok (some false)) :
    after = [] ∧ (Batch.run s o sql w).1 = .ok false ∧
      (Batch.run s o sql w).2 = afterDeeds s (Batch.showResult o) w (deeds s (before ++ [t])) := by
  have h : Course s sql (Batch.showResult o) (executableStatements sql) w (before ++ t :: after)
      (s.run sql (Batch.showResult o) w) := by
    rw [← ht]
    exact course _ w
  obtain ⟨hlast, hanswer⟩ := h.stop (.inr (by simp [hr]))
  subst hlast
  refine ⟨rfl, ?_, h.after.symm⟩
  change (s.run sql (Batch.showResult o) w).1.map _ = _
  rw [hanswer, hr]
  rfl

theorem launch_refused {c : Client σ}
    (h : ComesTo c path options start s o sql w) (hr : (Batch.run s o sql w).1 = .ok false) :
    ∃ u, c.launch path options start = .finished (.ok 1) u := by
  obtain ⟨config, level, hsettings, hconnect, hexecute, rfl, rfl⟩ := h
  unfold Client.launch
  rw [hsettings]
  dsimp only
  rw [hconnect, hexecute]
  dsimp only
  unfold Client.runBatch
  dsimp only
  rw [hr]
  exact ⟨_, rfl⟩

/-- A statement that fails is marked as failed, ends the run and makes the call fail, unless it is
a command of the client that fails without a message. -/
theorem failure_ends_batch_iff {s : Service σ} {o : Output} {sql : Text} {w : World σ}
    {before after : List (Turn σ)} {t : Turn σ} {f : Failure}
    (ht : turns s sql (Batch.showResult o) (executableStatements sql) w = before ++ t :: after)
    (hf : Fails s t.statement t.before f) :
    (Marked s t f ∧ after = [] ∧ (Batch.run s o sql w).1 = .ok false ∧
      (Batch.run s o sql w).2 = afterDeeds s (Batch.showResult o) w (deeds s (before ++ [t])) ∧
      ∀ (c : Client σ) path options start, ComesTo c path options start s o sql w →
        ∃ u, c.launch path options start = .finished (.ok 1) u) ↔
    ¬ Unheard s t.statement f := by
  have h : Course s sql (Batch.showResult o) (executableStatements sql) w (before ++ t :: after)
      (s.run sql (Batch.showResult o) w) := by
    rw [← ht]
    exact course _ w
  have hmarked : Marked s t f ↔ ¬ Unheard s t.statement f := by
    have hturn : t = .of s sql t.statement t.before := h.mem (by simp)
    rw [hturn]
    exact marked_iff hf
  constructor
  · rintro ⟨hm, _⟩
    exact hmarked.mp hm
  · intro hn
    have hm := hmarked.mpr hn
    obtain ⟨hlast, hrun, hworld⟩ := run_refused ht (hm.refused t.after)
    exact ⟨hm, hlast, hrun, hworld, fun c path options start hc => launch_refused hc hrun⟩

/-- A run whose first statement fails has no other turn. -/
theorem turns_first {take : QueryResult → World σ → Except Failure (Option ρ) × World σ}
    (hsplit : executableStatements sql = x :: rest) (hf : Fails s x w f)
    (hn : ¬ Unheard s x f) :
    turns s sql take (executableStatements sql) w = [.of s sql x w] := by
  have hends : (Turn.of s sql x w).ends = true :=
    (ends_iff_stops rfl).mpr ((marked_iff hf).mpr hn).stops
  have h : Course s sql take (x :: rest) w ([] ++ Turn.of s sql x w :: _)
      (s.each sql take (x :: rest) w) := course (x :: rest) w
  have hlast := (h.stop (.inl hends)).1
  rw [hsplit, turns, hlast]

end

/-- A service whose database takes no text. -/
def refusingService (f : Failure) : Service Unit :=
  { connection :=
      { database :=
          { prepare := fun _ _ => (⟨0, false, .error f⟩, ())
            isReadOnly := fun _ => false
            inTransaction := fun _ => false }
        interrupt := id }
    commands := some Builtin.registry }

theorem refused_select_ends_batch :
    let f : Failure := .error .general "database is locked"
    let s := refusingService f
    let sql : Text := "SELECT 1; SELECT 2"
    let x : Statement := ⟨0, tokenize "SELECT 1", true⟩
    let w : World Unit := { database := () }
    let t := Turn.of s sql x w
    turns s sql (Batch.showResult {}) (executableStatements sql) w = [] ++ t :: [] ∧
    Fails s x w f ∧ ¬ Unheard s x f ∧ Marked s t f ∧ (Batch.run s {} sql w).1 = .ok false := by
  intro f s sql x w t
  let y : Statement := ⟨9, ⟨⟨.whitespace, " "⟩, 9⟩ :: placeFrom 10 (lexemes "SELECT 2"), false⟩
  have hsplit : executableStatements sql = [x, y] := by decide +kernel
  have hsql : s.commandFor? (Text.trim x.text) = none := by
    have hx : Builtin.registry.isCommand (Text.trim x.text) = false := by decide +kernel
    rw [commandFor_eq rfl, hx]
    rfl
  have hf : Fails s x w f := .sql rfl hsql rfl
  have hn : ¬ Unheard s x f := by
    rintro ⟨hc, _⟩
    rw [hsql] at hc
    exact Bool.false_ne_true hc
  have ht : turns s sql (Batch.showResult {}) (executableStatements sql) w = [] ++ t :: [] :=
    turns_first hsplit hf hn
  obtain ⟨hm, _, hrun, _⟩ := (failure_ends_batch_iff ht hf).mpr hn
  exact ⟨ht, hf, hn, hm, hrun⟩

/-- Whether a line calls this command. -/
def callsBuiltin (b : Builtin) (line : Text) : Bool :=
  Builtin.registry.isCommand line && match Builtin.registry.resolve line with
    | .ok c => c.action == b
    | .error _ => false

theorem runCommand_builtin {s : Service σ} {b : Builtin} {line : Text}
    (h : callsBuiltin b line = true) (w : World σ) :
    s.runCommand Builtin.registry line w =
      b.run (s.commandContext Builtin.registry) (CommandLine.parse line).argument
        (CommandLine.parse line).verbose w := by
  rw [callsBuiltin, Bool.and_eq_true] at h
  obtain ⟨_, h⟩ := h
  unfold Service.runCommand
  split at h
  · rename_i c hr
    rw [hr, ← beq_iff_eq.mp h]
  · exact Bool.noConfusion h

theorem turns_single {s : Service σ} {sql : Text}
    {take : QueryResult → World σ → Except Failure (Option ρ) × World σ}
    (hsplit : executableStatements sql = [x]) :
    turns s sql take (executableStatements sql) w = [.of s sql x w] := by
  rw [hsplit, turns]
  split
  · split
    · rfl
    · rfl
  · rfl

/-- A text that is one command succeeds where the command fails without a message. -/
theorem run_unheard {s : Service σ} {o : Output} {sql : Text}
    (hsplit : executableStatements sql = [x]) (ha : w.aborted = false)
    (hc : s.commandFor? (Text.trim x.text) = some commands)
    (h : s.runCommand commands (Text.trim x.text) w = (.error f, v)) (hm : f.message = []) :
    (Batch.run s o sql w).1 = .ok true := by
  have hp : s.perform sql x w =
      (.failed (Text.trim x.text) (v.clock - w.clock) [], false, v) := by
    rw [perform_command ha hc, performCommand_failed h, hm]
    rfl
  change ((s.each sql (Batch.showResult o) (executableStatements sql) w).1.map _) = _
  rw [hsplit, each_cons, Turn.of, hp]
  rfl

/-- A failure with an empty message makes a command look as if it had succeeded. -/
theorem silent_command_passes :
    let f : Failure := .value (.text [])
    let s := refusingService f
    let sql : Text := ".databases"
    let x : Statement := ⟨0, tokenize sql, false⟩
    let w : World Unit := { database := () }
    let t := Turn.of s sql x w
    turns s sql (Batch.showResult {}) (executableStatements sql) w = [t] ∧
    Fails s x w f ∧ ¬ Marked s t f ∧ (Batch.run s {} sql w).1 = .ok true := by
  intro f s sql x w t
  have hsplit : executableStatements sql = [x] := by decide +kernel
  have hcalls : callsBuiltin .databases (Text.trim x.text) = true := by decide +kernel
  have hcommand : s.commandFor? (Text.trim x.text) = some Builtin.registry := by
    have hx : Builtin.registry.isCommand (Text.trim x.text) = true := by decide +kernel
    rw [commandFor_eq rfl, hx]
    rfl
  have hrun : s.runCommand Builtin.registry (Text.trim x.text) w = (.error f, _) :=
    runCommand_builtin hcalls w
  have hf : Fails s x w f := .command rfl hcommand hrun
  have hm : ¬ Marked s t f := by
    rw [marked_iff hf]
    exact fun h => h ⟨by rw [hcommand]; rfl, rfl⟩
  exact ⟨turns_single hsplit, hf, hm, run_unheard hsplit rfl hcommand hrun rfl⟩

end SqlShell.Proofs
