import SqlShell.Client.Invocation
import SqlShell.Proofs.Acts
import SqlShell.Proofs.Kinds
import SqlShell.Proofs.Turns

namespace SqlShell.Proofs
open Session (State Moment isYes)

/-- Acts that leave a question as it is, whether one waits or not. -/
def Act.isIdle : Act → Bool
  | .arrive _ | .keep _ | .interrupt | .close | .offer _ | .elapse _ => true
  | _ => false

theorem question_idle {a : Act} (s : Session σ) (st : State σ) (hi : a.isIdle = true) :
    (perform s st a).question = st.question := by
  cases a with
  | arrive | keep | offer | elapse => rfl
  | interrupt => exact (interrupt_keeps s st).2
  | close => exact congrArg Desk.question (desk_close st)
  | pass | hold | ask | refuse | run | decline | resume => contradiction

theorem running_idle {a : Act} (s : Session σ) (st : State σ) (hi : a.isIdle = true) :
    (perform s st a).running = st.running := by
  cases a with
  | arrive | keep | offer | elapse => rfl
  | interrupt => exact running_interrupt s st
  | close => exact running_close st
  | pass | hold | ask | refuse | run | decline | resume => contradiction

/-- The last thing that was done, idle acts aside, was to ask whether to run `sql`. -/
def Asked (past : List Act) (sql : Text) : Prop :=
  ∃ earlier line waiting, past = earlier ++ .ask line sql :: waiting ∧
    ∀ a ∈ waiting, Act.isIdle a = true

theorem Asked.idle {past : List Act} {a : Act} (h : Asked past sql) (hi : a.isIdle = true) :
    Asked (past ++ [a]) sql := by
  obtain ⟨earlier, line, waiting, rfl, hw⟩ := h
  refine ⟨earlier, line, waiting ++ [a], by simp, ?_⟩
  intro b hb
  rcases List.mem_append.mp hb with hb | hb
  · exact hw b hb
  · obtain rfl := List.mem_singleton.mp hb
    exact hi

/-- A question waits only where the user has been asked and nothing has been done since. No run
waits beside it. -/
def Accounted (past : List Act) (st : State σ) : Prop :=
  ∀ sql, st.question = some sql → Asked past sql ∧ st.running = none

theorem accounted_of_none {past : List Act} {st : State σ} (hq : st.question = none) :
    Accounted past st := by
  intro sql h
  rw [hq] at h
  contradiction

theorem Accounted.step {s : Session σ} {past : List Act} {st : State σ} {a : Act}
    (h : Accounted past st) (ha : Allows s st a) : Accounted (past ++ [a]) (perform s st a) := by
  have hidle (hi : a.isIdle = true) : Accounted (past ++ [a]) (perform s st a) := by
    intro sql hq
    rw [question_idle s st hi] at hq
    obtain ⟨hasked, hr⟩ := h sql hq
    exact ⟨hasked.idle hi, (running_idle s st hi).trans hr⟩
  cases ha with
  | arrive | keep | interrupt | close | offer | elapse => exact hidle rfl
  | pass hf | hold hf | refuse hf => exact accounted_of_none hf.question
  | command hf | unasked hf =>
    exact accounted_of_none ((congrArg Desk.question (desk_execute s _ _)).trans hf.question)
  | @ask line hf =>
    intro sql hq
    obtain rfl := Option.some.inj hq
    exact ⟨⟨past, line, [], rfl, by simp⟩, hf.running⟩
  | confirmed => exact accounted_of_none (congrArg Desk.question (desk_execute s _ _))
  | decline => exact accounted_of_none (congrArg Desk.question (desk_decline s _))
  | resume hr =>
    intro sql hq
    have hwaits : st.question = some sql :=
      (congrArg Desk.question (desk_goOn s st)).symm.trans hq
    rw [(h sql hwaits).2] at hr
    contradiction

theorem Accounted.run {s : Session σ} {past : List Act} {st : State σ} {acts : List Act}
    (h : Accounted past st) (hl : Lawful s st acts) :
    Accounted (past ++ acts) (afterActs s st acts) :=
  hl.keep Accounted.step h

theorem question_waiting {s : Session σ} {st : State σ} {waiting : List Act}
    (hw : ∀ a ∈ waiting, Act.isIdle a = true) :
    (afterActs s st waiting).question = st.question := by
  induction waiting generalizing st with
  | nil => rfl
  | cons a waiting ih =>
    obtain ⟨ha, hw⟩ := List.forall_mem_cons.mp hw
    rw [afterActs_cons, ih hw, question_idle s st ha]

theorem Asked.question {past : List Act} (h : Asked past sql) (s : Session σ) (st : State σ) :
    (afterActs s st past).question = some sql := by
  obtain ⟨earlier, line, waiting, rfl, hw⟩ := h
  rw [afterActs_append, afterActs_cons, question_waiting hw]
  rfl

theorem not_asked {s : Session σ} {st : State σ} {past : List Act}
    (hq : (afterActs s st past).question = none) : ¬ Asked past sql := by
  intro h
  rw [h.question s st] at hq
  contradiction

/-- The user has been asked whether to run `sql`, and this line says yes to it. -/
def Confirmed (past : List Act) (line sql : Text) : Prop :=
  Asked past sql ∧ isYes line = true

/-- The line is taken for a command of the client: nothing has been entered before it, no question
waits for it, and its first word calls one. -/
def CallsCommand (s : Session σ) (st : State σ) (line : Text) : Prop :=
  st.question = none ∧ st.buffer = [] ∧ s.commands.isCommand (Text.trim line) = true

/-- While these statements run from world `w`, statement `x` comes to the database in world `v`,
whatever others do when they go first. Commands of the client are not among such statements, and an
aborted run has no more of them. -/
inductive Prepares (s : Service σ) (sql : Text)
    (take : QueryResult → World σ → Except Failure (Option ρ) × World σ) :
    List Statement → World σ → Statement → World σ → Prop
  | here (ha : w.aborted = false) (hc : s.commandFor? (Text.trim x.text) = none) :
      Prepares s sql take (x :: rest) w x w
  | later (hp : (s.performTask sql y w).Ends (r, false) u) (ht : take r u = (.ok none, u'))
      (h : Prepares s sql take rest u' x v) : Prepares s sql take (y :: rest) w x v

theorem Prepares.mem {s : Service σ}
    {take : QueryResult → World σ → Except Failure (Option ρ) × World σ}
    (h : Prepares s sql take ss w x v) : x ∈ ss := by
  induction h with
  | here => exact List.mem_cons_self
  | later _ _ _ ih => exact List.mem_cons_of_mem _ ih

/-- While a session in this state executes `sql`, statement `x` comes to the database in world
`v`. -/
def Submits (s : Session σ) (st : State σ) (sql : Text) (x : Statement) (v : World σ) : Prop :=
  Prepares s.service sql s.showResult (executableStatements sql)
    { st.world with aborted := false } x v

theorem mustAsk_of_destructive {s : Session σ} {sql : Text}
    (hw : s.config.destructiveWarning = true) (hd : isDestructive sql = true) :
    s.mustAsk sql = true := by
  rw [Session.mustAsk, hw, hd]
  rfl

theorem printAll_prints {o : Output} (ho : o.failure = none) (lines : List Text) (w : World σ) :
    ∃ u, o.printAll lines w = (.ok (), u) ∧ u.aborted = w.aborted := by
  induction lines generalizing w with
  | nil => exact ⟨w, rfl, rfl⟩
  | cons line lines ih =>
    obtain ⟨u, hu, ha⟩ := ih (w.emit [o.line line])
    refine ⟨u, ?_, ha⟩
    rw [Output.printAll, Output.print, ho]
    exact hu

/-- A result without an error is shown, and the run goes on. -/
theorem showResult_continues {s : Session σ} {r : QueryResult} (ho : s.output.failure = none)
    (he : r.error = []) (hx : r.exit = false) (w : World σ) :
    ∃ u, s.showResult r w = (.ok none, u) ∧ u.aborted = w.aborted := by
  obtain ⟨u, hu, ha⟩ := printAll_prints ho (r.lines (!r.exit)) w
  refine ⟨u, ?_, ha⟩
  unfold Session.showResult
  rw [hu, he, hx]
  rfl

/-- A session on a database that holds nothing. -/
def plainSession : Session Unit :=
  { service :=
      { connection := Session.connection Database.blank {}
        commands := some Builtin.registry }
    commands := Builtin.registry
    databaseName := Client.memoryDatabase }

/-- Whether a line calls the command that refreshes the schema. -/
def callsRefresh (line : Text) : Bool :=
  Builtin.registry.isCommand line && match Builtin.registry.resolve line with
    | .ok ⟨_, .refresh⟩ => true
    | _ => false

/-- Without a schema to read, refreshing it changes nothing and always succeeds. -/
theorem performTask_refresh (sql : Text) {y : Statement} {w : World Unit}
    (hc : callsRefresh (Text.trim y.text) = true) (ha : w.aborted = false) :
    ∃ r, plainSession.service.performTask sql y w = .done (r, false) w ∧ r.error = [] ∧
      r.exit = false := by
  rw [callsRefresh, Bool.and_eq_true] at hc
  obtain ⟨hcommand, hrefresh⟩ := hc
  have hrun : plainSession.service.runCommand Builtin.registry (Text.trim y.text) w =
      (.ok ⟨[], [], "Auto-completion refreshed.", false⟩, w) := by
    unfold Service.runCommand
    split at hrefresh
    · rename_i hr
      rw [hr]
      rfl
    · exact Bool.noConfusion hrefresh
  let r : QueryResult :=
    { statement := Text.trim y.text, status := "Auto-completion refreshed."
      elapsed := w.clock - w.clock }
  have hcommandFor : plainSession.service.commandFor? (Text.trim y.text) =
      some Builtin.registry := by
    rw [commandFor_eq rfl, hcommand]
    rfl
  refine ⟨r, ?_, rfl, rfl⟩
  rw [performTask_command ha hcommandFor, Service.performCommand, hrun]
  rfl

/-- The tokens of `DROP TABLE t` from `start` on. -/
def dropTokens (start : Nat) : List Token :=
  placeFrom start
    [⟨.keyword .DROP, "DROP"⟩, ⟨.whitespace, " "⟩, ⟨.keyword .TABLE, "TABLE"⟩, ⟨.whitespace, " "⟩,
      ⟨.identifier, "t"⟩]

/-- A destructive statement runs confirmed, unless it stands behind a command in one line. -/
theorem destructive_confirmed_iff {s : Session σ} {moments : List Moment} {w v : World σ}
    {before after : List Act} {cause : Cause} {line sql : Text} {x : Statement}
    (hw : s.config.destructiveWarning = true)
    (ha : acts s moments (s.start w) = before ++ .run cause line sql :: after)
    (hp : Submits s (afterActs s (s.start w) before) sql x v)
    (hd : isDestructive x.text = true) :
    s.follow moments w = afterActs s (s.start w) (before ++ .run cause line sql :: after) ∧
    (Confirmed before line sql ↔ ¬ CallsCommand s (afterActs s (s.start w) before) line) := by
  have hfollow : s.follow moments w = afterActs s (s.start w) (acts s moments (s.start w)) :=
    (after_acts s moments (s.start w)).symm
  rw [ha] at hfollow
  refine ⟨hfollow, ?_, ?_⟩
  · rintro ⟨hasked, _⟩ ⟨hq, _, _⟩
    exact not_asked hq hasked
  · intro hn
    have hl := lawful_acts s moments (s.start w)
    rw [ha] at hl
    obtain ⟨hbefore, hrun, _⟩ := lawful_append.mp hl
    have hstart : Accounted [] (s.start w) := accounted_of_none rfl
    have haccounted : Accounted before (afterActs s (s.start w) before) := hstart.run hbefore
    cases hrun with
    | command hf hb hc => exact absurd ⟨hf.question, hb, hc⟩ hn
    | unasked hf hj hc hm =>
      rw [mustAsk_of_destructive hw (isDestructive_of_statement hp.mem hd)] at hm
      contradiction
    | confirmed hq hy => exact ⟨(haccounted _ hq).1, hy⟩

theorem drop_confirmed :
    let s := plainSession
    let sql : Text := "DROP TABLE t;"
    let x : Statement := ⟨0, dropTokens 0, true⟩
    let st := s.start { database := () }
    let before : List Act := [.arrive (.line sql), .ask sql sql, .keep [], .arrive (.line "y")]
    s.config.destructiveWarning = true ∧
    acts s [.input (.line sql), .input (.line "y")] st =
      before ++ .run .confirmed "y" sql :: [.keep []] ∧
    (∃ v, Submits s (afterActs s st before) sql x v) ∧
    isDestructive x.text = true ∧
    s.follow [.input (.line sql), .input (.line "y")] { database := () } =
      afterActs s st (before ++ .run .confirmed "y" sql :: [.keep []]) ∧
    (Confirmed before "y" sql ↔ ¬ CallsCommand s (afterActs s st before) "y") := by
  intro s sql x st before
  have hsplit : executableStatements sql = [x] := by decide +kernel
  have hm : x ∈ executableStatements sql := by
    rw [hsplit]
    exact List.mem_singleton_self x
  have hd : isDestructive x.text = true := by
    rw [isDestructive_alone hm]
    decide +kernel
  have hcommand : Builtin.registry.isCommand sql = false := by decide +kernel
  have htrim : Text.trim sql = sql := by decide +kernel
  have htext : Text.trim x.text = sql := by decide +kernel
  have hask : lineAct s (perform s st (.arrive (.line sql))) sql = .ask sql (Text.trim sql) := by
    apply lineAct_asked rfl
    · decide +kernel
    · exact htrim.symm ▸ hcommand
    · decide +kernel
    · rw [htrim]
      exact mustAsk_of_destructive rfl (isDestructive_of_statement hm hd)
    · rfl
  rw [htrim] at hask
  have ha : acts s [.input (.line sql), .input (.line "y")] st =
      before ++ .run .confirmed "y" sql :: [.keep []] :=
    acts_asked (attentive_start s _) hask (by decide +kernel)
  have hp : Submits s (afterActs s st before) sql x
      { (afterActs s st before).world with aborted := false } := by
    rw [Submits, hsplit]
    exact Prepares.here rfl (by rw [commandFor_eq rfl, htext, hcommand]; rfl)
  exact ⟨rfl, ha, ⟨_, hp⟩, hd, destructive_confirmed_iff rfl ha hp hd⟩

/-- Behind a command in one line a table is dropped and nobody is asked. -/
theorem drop_behind_command :
    let s := plainSession
    let line : Text := ".refresh; DROP TABLE t"
    let x : Statement := ⟨9, ⟨⟨.whitespace, " "⟩, 9⟩ :: dropTokens 10, false⟩
    let st := s.start { database := () }
    let before : List Act := [.arrive (.line line)]
    s.config.destructiveWarning = true ∧
    acts s [.input (.line line)] st = before ++ .run .command line line :: [.keep []] ∧
    (∃ v, Submits s (afterActs s st before) line x v) ∧
    isDestructive x.text = true ∧ ¬ Confirmed before line line := by
  intro s line x st before
  let y : Statement := ⟨0, tokenize ".refresh", true⟩
  have hsplit : executableStatements line = [y, x] := by decide +kernel
  have hd : isDestructive x.text = true := by
    rw [isDestructive_alone (show x ∈ executableStatements line by simp [hsplit])]
    decide +kernel
  have hrefresh : callsRefresh (Text.trim y.text) = true := by decide +kernel
  have htrim : Text.trim line = line := by decide +kernel
  have hact : lineAct s (perform s st (.arrive (.line line))) line =
      .run .command line (Text.trim line) :=
    lineAct_command rfl (by decide +kernel) (by decide +kernel)
  rw [htrim] at hact
  refine ⟨rfl, ?_, ?_, hd, ?_⟩
  · rw [acts_line (attentive_start s _), hact]
    rfl
  · unfold Submits
    rw [hsplit]
    generalize hw : { (afterActs s st before).world with aborted := false } = w
    have ha : w.aborted = false := by
      rw [← hw]
    obtain ⟨r, hy, he, hx⟩ := performTask_refresh line hrefresh ha
    obtain ⟨u, hu, hua⟩ := showResult_continues (s := s) rfl he hx w
    have hsql : s.service.commandFor? (Text.trim x.text) = none := by
      have hx : Builtin.registry.isCommand (Text.trim x.text) = false := by decide +kernel
      rw [commandFor_eq rfl, hx]
      rfl
    have hends : (s.service.performTask line y w).Ends (r, false) w := by
      rw [hy]
      exact .done
    exact ⟨u, Prepares.later hends hu (Prepares.here (hua.trans ha) hsql)⟩
  · rintro ⟨hasked, _⟩
    have hq : (afterActs s st before).question = none := rfl
    exact not_asked hq hasked

end SqlShell.Proofs
