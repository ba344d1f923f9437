import SqlShell.Query.Service

namespace SqlShell.Proofs

/-- What comes of one statement of a run. -/
structure Turn (σ : Type) where
  statement : Statement
  /-- The world in which its turn comes. -/
  before : World σ
  result : QueryResult
  /-- Whether the run ends with it. -/
  ends : Bool
  /-- The world in which the result is handed out. -/
  after : World σ

def Turn.of (s : Service σ) (sql : Text) (x : Statement) (w : World σ) : Turn σ where
  statement := x
  before := w
  result := (s.perform sql x w).1
  ends := (s.perform sql x w).2.1
  after := (s.perform sql x w).2.2

/-- The statements that a run comes to. -/
def turns (s : Service σ) (sql : Text)
    (take : QueryResult → World σ → Except Failure (Option ρ) × World σ) :
    List Statement → World σ → List (Turn σ)
  | [], _ => []
  | x :: rest, w =>
    let t := Turn.of s sql x w
    t :: match take t.result t.after with
      | (.ok none, u) => if t.ends then [] else turns s sql take rest u
      | _ => []

/-- One thing that a service does. -/
inductive Deed where
  /-- A statement is passed over, since the run has been told to stop. -/
  | skip
  /-- Messages go to the logger. -/
  | note (events : List Event)
  /-- A text is handed to the database. -/
  | prepare (sql : Text)
  /-- What the database made of a text is run, and its rows are read. -/
  | execute (p : Prepared)
  /-- A command of the client is called. -/
  | call (commands : Registry Builtin) (line : Text)
  /-- Whoever wants to hear of it is told that the schema may have changed, and a failure of his is
  logged. -/
  | notify
  /-- A result is handed out. -/
  | yield (r : QueryResult)

namespace Deed

/-- What a deed makes of the world. -/
def effect (s : Service σ) (take : QueryResult → World σ → Except Failure (Option ρ) × World σ)
    (w : World σ) : Deed → World σ
  | skip => w
  | note events => w.emit events
  | prepare sql => (s.connection.prepare sql w).2
  | execute p => (s.runPrepared [] p w).2
  | call commands line => (s.runCommand commands line w).2
  | notify =>
    match s.onSchemaChange with
    | none => w
    | some change =>
      match change w with
      | (.ok (), w) => w
      | (.error f, w) => w.emit (s.logger.warn (.concat ["Schema refresh failed: ", f.message]))
  | yield r => (take r w).2

def prepared? : Deed → Option Text
  | prepare sql => some sql
  | _ => none

def result? : Deed → Option QueryResult
  | yield r => some r
  | _ => none

/-- Has a text or a command carried out. -/
def carriesOut : Deed → Bool
  | prepare _ | call _ _ => true
  | _ => false

end Deed

/-- The world after some deeds. -/
def afterDeeds (s : Service σ)
    (take : QueryResult → World σ → Except Failure (Option ρ) × World σ) (w : World σ)
    (deeds : List Deed) : World σ :=
  deeds.foldl (Deed.effect s take) w

/-- What is done to run a statement of SQL. -/
def attemptDeeds (s : Service σ) (x : Statement) (w : World σ) : List Deed :=
  let announced := s.logger.debug (.concat ["Executing: ", Text.trim x.text])
  .note announced :: .prepare x.text ::
    match s.connection.prepare x.text (w.emit announced) with
    | (.ok p, _) => [.execute p]
    | (.error _, _) => []

/-- What is done once it is known how a statement of SQL went. -/
def sequelDeeds (s : Service σ) (x : Statement) (w : World σ) : List Deed :=
  match s.runStatement x (Text.trim x.text) w with
  | (.ok _, _) => if x.altersSchema then [.notify] else []
  | (.error f, after) =>
    if f.isCancellation then
      [.note (s.logger.debug (.concat
        ["Cancelled after ", Number.text (after.clock - w.clock), "ms: ", Text.trim x.text]))]
    else []

/-- What is done to a statement before its result is handed out. -/
def statementDeeds (s : Service σ) (x : Statement) (w : World σ) : List Deed :=
  if w.aborted then [.skip]
  else match s.commandFor? (Text.trim x.text) with
    | some commands => [.call commands (Text.trim x.text)]
    | none => attemptDeeds s x w ++ sequelDeeds s x w

def Turn.deeds (s : Service σ) (t : Turn σ) : List Deed :=
  statementDeeds s t.statement t.before ++ [.yield t.result]

def deeds (s : Service σ) (ts : List (Turn σ)) : List Deed := ts.flatMap (Turn.deeds s)

section
variable {s : Service σ} {sql : Text}
  {take : QueryResult → World σ → Except Failure (Option ρ) × World σ}

@[simp] theorem afterDeeds_append (w : World σ) (xs ys : List Deed) :
    afterDeeds s take w (xs ++ ys) = afterDeeds s take (afterDeeds s take w xs) ys :=
  List.foldl_append

theorem after_runPrepared (text : Text) (p : Prepared) (w : World σ) :
    (s.runPrepared [] p w).2 = (s.runPrepared text p w).2 := by
  rw [Service.runPrepared_eq, Service.runPrepared_eq]
  split
  · rfl
  · split
    · rfl
    · rfl

theorem after_attempt (x : Statement) (w : World σ) :
    afterDeeds s take w (attemptDeeds s x w) = (s.runStatement x (Text.trim x.text) w).2 := by
  rw [Service.runStatement_eq]
  unfold attemptDeeds afterDeeds
  dsimp only
  split
  · rename_i p v hp
    simp only [List.foldl_cons, List.foldl_nil, Deed.effect, hp]
    exact after_runPrepared _ p v
  · rename_i hp
    simp only [List.foldl_cons, List.foldl_nil, Deed.effect, hp]

theorem commandFor_eq {commands : Registry Builtin} (h : s.commands = some commands)
    (text : Text) :
    s.commandFor? text = if commands.isCommand text then some commands else none := by
  rw [Service.commandFor?, h]
  exact Option.filter_some

theorem perform_aborted {w : World σ} (x : Statement) (ha : w.aborted = true) :
    s.perform sql x w = (.stopped (Text.trim x.text) 0, true, w) := by
  rw [Service.perform_eq, ha]
  rfl

theorem perform_command {x : Statement} {w : World σ} {commands : Registry Builtin}
    (ha : w.aborted = false) (hc : s.commandFor? (Text.trim x.text) = some commands) :
    s.perform sql x w = s.performCommand commands (Text.trim x.text) w := by
  rw [Service.perform_eq, ha, hc]
  rfl

theorem performTask_command {x : Statement} {w : World σ} {commands : Registry Builtin}
    (ha : w.aborted = false) (hc : s.commandFor? (Text.trim x.text) = some commands) :
    s.performTask sql x w =
      let (r, ends, u) := s.performCommand commands (Text.trim x.text) w
      .done (r, ends) u := by
  unfold Service.performTask
  dsimp only
  rw [ha, hc]
  rfl

theorem perform_sql {x : Statement} {w : World σ} (ha : w.aborted = false)
    (hc : s.commandFor? (Text.trim x.text) = none) :
    s.perform sql x w = s.performSql sql x (Text.trim x.text) w := by
  rw [Service.perform_eq, ha, hc]
  rfl

theorem statementDeeds_sql {x : Statement} {w : World σ} (ha : w.aborted = false)
    (hc : s.commandFor? (Text.trim x.text) = none) :
    statementDeeds s x w = attemptDeeds s x w ++ sequelDeeds s x w := by
  rw [statementDeeds, ha, hc]
  rfl

theorem sequelDeeds_ok (h : s.runStatement x (Text.trim x.text) w = (.ok r, v)) :
    sequelDeeds s x w = if x.altersSchema then [.notify] else [] := by
  rw [sequelDeeds, h]

theorem sequelDeeds_cancelled (h : s.runStatement x (Text.trim x.text) w = (.error f, v))
    (hf : f.isCancellation = true) :
    sequelDeeds s x w = [.note (s.logger.debug (.concat
      ["Cancelled after ", Number.text (v.clock - w.clock), "ms: ", Text.trim x.text]))] := by
  rw [sequelDeeds, h]
  exact if_pos hf

theorem sequelDeeds_failed (h : s.runStatement x (Text.trim x.text) w = (.error f, v))
    (hf : f.isCancellation = false) : sequelDeeds s x w = [] := by
  rw [sequelDeeds, h]
  exact if_neg (by simp [hf])

theorem performSql_ok (h : s.runStatement x text w = (.ok r, v)) :
    s.performSql sql x text w = ({ r with elapsed := v.clock - w.clock }, false,
      if x.altersSchema then s.notifySchemaChange v else v) := by
  rw [Service.performSql_eq, h]
  rfl

theorem performSql_cancelled (h : s.runStatement x text w = (.error f, v))
    (hf : f.isCancellation = true) :
    s.performSql sql x text w = (.stopped text (v.clock - w.clock), true,
      v.emit (s.logger.debug (.concat
        ["Cancelled after ", Number.text (v.clock - w.clock), "ms: ", text]))) := by
  rw [Service.performSql_eq, h]
  exact if_pos hf

theorem performSql_failed (h : s.runStatement x text w = (.error f, v))
    (hf : f.isCancellation = false) :
    s.performSql sql x text w =
      (.failed text (v.clock - w.clock) (Service.errorText sql x f), true, v) := by
  rw [Service.performSql_eq, h]
  exact if_neg (by simp [hf])

theorem after_sequel (x : Statement) (w : World σ) :
    afterDeeds s take (s.runStatement x (Text.trim x.text) w).2 (sequelDeeds s x w) =
      (s.performSql sql x (Text.trim x.text) w).2.2 := by
  cases h : s.runStatement x (Text.trim x.text) w with
  | mk outcome v =>
    cases outcome with
    | ok r =>
      rw [sequelDeeds_ok h, performSql_ok h]
      cases x.altersSchema with
      | true => rfl
      | false => rfl
    | error f =>
      cases hf : f.isCancellation with
      | true =>
        rw [sequelDeeds_cancelled h hf, performSql_cancelled h hf]
        rfl
      | false =>
        rw [sequelDeeds_failed h hf, performSql_failed h hf]
        rfl

theorem after_statementDeeds (x : Statement) (w : World σ) :
    afterDeeds s take w (statementDeeds s x w) = (s.perform sql x w).2.2 := by
  cases ha : w.aborted with
  | true =>
    rw [perform_aborted x ha, statementDeeds, ha]
    rfl
  | false =>
    cases hc : s.commandFor? (Text.trim x.text) with
    | some commands =>
      rw [perform_command ha hc, statementDeeds, ha, hc]
      rfl
    | none =>
      rw [perform_sql ha hc, statementDeeds_sql ha hc, afterDeeds_append, after_attempt,
        after_sequel]

theorem after_turn {t : Turn σ} (ht : t = .of s sql x w) :
    afterDeeds s take w (t.deeds s) = (take t.result t.after).2 := by
  subst ht
  rw [Turn.deeds, afterDeeds_append]
  exact congrArg (fun v => (take _ v).2) (after_statementDeeds x w)

theorem each_cons (x : Statement) (rest : List Statement) (w : World σ) :
    s.each sql take (x :: rest) w =
      match take (Turn.of s sql x w).result (Turn.of s sql x w).after with
      | (.ok none, u) =>
        if (Turn.of s sql x w).ends then (.ok none, u) else s.each sql take rest u
      | (answer, u) => (answer, u) := rfl

/-- How a run goes: it is over where no statement is left, and it stops at a statement that ends
it or whose result is not answered with leave to go on. -/
inductive Course (s : Service σ) (sql : Text)
    (take : QueryResult → World σ → Except Failure (Option ρ) × World σ) :
    List Statement → World σ → List (Turn σ) → Except Failure (Option ρ) × World σ → Prop
  | done : Course s sql take [] w [] (.ok none, w)
  | last (ht : t = Turn.of s sql x w)
      (h : t.ends = true ∨ (take t.result t.after).1 ≠ .ok none) :
      Course s sql take (x :: rest) w [t] (take t.result t.after)
  | next (ht : t = Turn.of s sql x w) (he : t.ends = false)
      (hg : take t.result t.after = (.ok none, u)) (h : Course s sql take rest u ts answer) :
      Course s sql take (x :: rest) w (t :: ts) answer

theorem course (ss : List Statement) (w : World σ) :
    Course s sql take ss w (turns s sql take ss w) (s.each sql take ss w) := by
  induction ss generalizing w with
  | nil => exact .done
  | cons x rest ih =>
    rw [turns, each_cons]
    generalize ht : Turn.of s sql x w = t
    cases hg : take t.result t.after with
    | mk answer u =>
      have hlast (h : t.ends = true ∨ answer ≠ .ok none) :
          Course s sql take (x :: rest) w [t] (answer, u) := by
        rw [← hg]
        exact .last ht.symm (by rwa [hg])
      rcases answer with f | _ | a
      · exact hlast (.inr (by simp))
      · cases he : t.ends with
        | true => exact hlast (.inl he)
        | false => exact .next ht.symm he hg (ih u)
      · exact hlast (.inr (by simp))

theorem Course.after {ts : List (Turn σ)} (h : Course s sql take ss w ts answer) :
    afterDeeds s take w (deeds s ts) = answer.2 := by
  induction h with
  | done => rfl
  | last ht => rw [deeds, List.flatMap_singleton, after_turn ht]
  | next ht _ hg _ ih =>
    rw [deeds, List.flatMap_cons, afterDeeds_append, after_turn ht, hg]
    exact ih

theorem Course.statements {ts : List (Turn σ)} (h : Course s sql take ss w ts answer) :
    ts.map Turn.statement <+: ss := by
  induction h with
  | done => exact List.prefix_rfl
  | last ht =>
    subst ht
    exact (List.prefix_cons_inj _).mpr List.nil_prefix
  | next ht _ _ _ ih =>
    subst ht
    exact (List.prefix_cons_inj _).mpr ih

/-- From any turn on, a run is a run from the world that the turns before it leave. -/
theorem Course.from {before after : List (Turn σ)} {t : Turn σ}
    (h : Course s sql take ss w (before ++ t :: after) answer) :
    ∃ x rest, Course s sql take (x :: rest) (afterDeeds s take w (deeds s before)) (t :: after)
      answer := by
  induction before generalizing ss w with
  | nil =>
    cases h with
    | last ht hstop => exact ⟨_, [], .last ht hstop⟩
    | next ht he hg h => exact ⟨_, _, .next ht he hg h⟩
  | cons b before ih =>
    rw [List.cons_append] at h
    generalize hts : before ++ t :: after = ts at h
    cases h with
    | last => simp at hts
    | next ht he hg h =>
      subst hts
      obtain ⟨x, rest, h⟩ := ih h
      refine ⟨x, rest, ?_⟩
      rwa [deeds, List.flatMap_cons, afterDeeds_append, after_turn ht, hg]

theorem Course.head {after : List (Turn σ)} {t : Turn σ}
    (h : Course s sql take (x :: rest) w (t :: after) answer) :
    t = .of s sql x w := by
  cases h with
  | last ht => exact ht
  | next ht => exact ht

/-- Each turn is that of its statement in the world that the turns before it leave. -/
theorem Course.turn {before after : List (Turn σ)} {t : Turn σ}
    (h : Course s sql take ss w (before ++ t :: after) answer) :
    t = .of s sql t.statement (afterDeeds s take w (deeds s before)) := by
  obtain ⟨x, rest, h⟩ := h.from
  rw [h.head]
  rfl

/-- Nothing comes after a turn that ends the run or whose result is not answered with leave to go
on, and the run ends with that answer. -/
theorem Course.stop {before after : List (Turn σ)} {t : Turn σ}
    (h : Course s sql take ss w (before ++ t :: after) answer)
    (hstop : t.ends = true ∨ (take t.result t.after).1 ≠ .ok none) :
    after = [] ∧ answer = take t.result t.after := by
  obtain ⟨x, rest, h⟩ := h.from
  cases h with
  | last => exact ⟨rfl, rfl⟩
  | next ht he hg =>
    rcases hstop with hs | hs
    · rw [he] at hs
      contradiction
    · rw [hg] at hs
      contradiction

end

end SqlShell.Proofs
