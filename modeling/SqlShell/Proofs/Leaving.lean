import SqlShell.Proofs.Failing
import SqlShell.Proofs.Ledger

namespace SqlShell.Proofs
open Session (State Moment)

/-- What is done with a statement when its turn comes. -/
def beginning (s : Service σ) (x : Statement) (w : World σ) : Deed :=
  if w.aborted then .skip
  else match s.commandFor? (Text.trim x.text) with
    | some commands => .call commands (Text.trim x.text)
    | none => .prepare x.text

/-- What is done once a statement has been begun: its result is handed out if it is there, and the
run goes on or not. -/
def progressDeeds (take : QueryResult → World σ → Except Failure (Option ρ) × World σ)
    (goOn : World σ → List Deed) : Task σ (QueryResult × Bool) → List Deed
  | .paused _ _ => []
  | .done (r, ends) w => .yield r :: Service.handOut take (fun _ _ => []) goOn r ends w

/-- What is done while statements run, until others go first. -/
def advanceDeeds (s : Service σ) (sql : Text)
    (take : QueryResult → World σ → Except Failure (Option ρ) × World σ) :
    List Statement → World σ → List Deed
  | [], _ => []
  | x :: rest, w =>
    beginning s x w ::
      progressDeeds take (fun w => advanceDeeds s sql take rest w) (s.performTask sql x w)

/-- What the service does in the course of an act. -/
def actDeeds (s : Session σ) (st : State σ) : Act → List Deed
  | .run cause _ sql =>
    advanceDeeds s.service sql s.showResult (executableStatements sql)
      { (ready s st cause).world with aborted := false }
  | .resume =>
    match st.running with
    | none => []
    | some call =>
      progressDeeds s.showResult (advanceDeeds s.service call.sql s.showResult call.rest)
        (call.statement st.world)
  | _ => []

/-- What the service does in the course of some acts. -/
def sessionDeeds (s : Session σ) : State σ → List Act → List Deed
  | _, [] => []
  | st, a :: acts => actDeeds s st a ++ sessionDeeds s (perform s st a) acts

/-- Whatever comes of the task, only a result without an error asks to leave. -/
def Proper (t : Task σ (QueryResult × Bool)) : Prop :=
  ∀ r ends u, t.Ends (r, ends) u → r.exit = true → r.error = []

/-- Only a command of the client asks to leave. -/
theorem sqlTask_stays {s : Service σ} (h : (s.sqlTask sql x text w).Ends (r, ends) u) :
    r.exit = false := by
  obtain ⟨outcome, v, hrun, hend⟩ := Task.ends_andThen.mp h
  have hr : r = (s.conclude sql x text w.clock outcome v).1 := by
    cases hend
    rfl
  subst hr
  unfold Service.conclude
  cases outcome with
  | ok q => exact (statementTask_succeeds hrun).2.2.2
  | error f =>
    dsimp only
    split
    · rfl
    · rfl

theorem proper_perform (s : Service σ) (sql : Text) (x : Statement) (w : World σ) :
    Proper (s.performTask sql x w) := by
  intro r ends u h hx
  unfold Service.performTask at h
  dsimp only at h
  split at h
  · cases h
    contradiction
  · split at h
    · rename_i commands _
      cases h
      unfold Service.performCommand at hx ⊢
      cases hc : s.runCommand commands (Text.trim x.text) w with
      | mk outcome v =>
        cases outcome with
        | ok o => rfl
        | error f =>
          rw [hc] at hx
          contradiction
    · rw [sqlTask_stays h] at hx
      contradiction

theorem Proper.resumed {w : World σ} {statement : World σ → Task σ (QueryResult × Bool)}
    (h : Proper (.paused w statement)) (v : World σ) : Proper (statement v) :=
  fun r ends u he => h r ends u (.paused v he)

/-- However the run that waits goes on, its statement comes to a proper end. -/
def WaitsProperly (st : State σ) : Prop :=
  ∀ call, st.running = some call → ∀ v, Proper (call.statement v)

section
variable {s : Session σ} {st : State σ}

theorem Begun.proper {s : Service σ} {call : Service.Call σ} (h : Begun s sql call) (v : World σ) :
    Proper (call.statement v) := by
  obtain ⟨_, x, w, u, htask⟩ := h
  have hproper := proper_perform s sql x w
  rw [htask] at hproper
  exact hproper.resumed v

theorem WaitsProperly.step {u v : State σ} {a : Act} (h : WaitsProperly u) (hs : Serves s u a v) :
    WaitsProperly v := by
  intro call hr
  cases a with
  | run cause line sql =>
    obtain ⟨w, hw⟩ := hs.2.waiting hr
    exact (advance_begun hw).proper
  | resume =>
    obtain ⟨c, hc, hcarries⟩ := hs
    obtain ⟨w, hw⟩ := hcarries.waiting hr
    rcases resume_waiting hw with ⟨htask, _⟩ | hbegun
    · have hproper := h c hc u.world
      rw [htask] at hproper
      exact hproper.resumed
    · exact hbegun.proper
  | arrive | pass | hold | ask | refuse | decline | keep | interrupt | close | offer | elapse =>
    exact h call (hs.1.symm.trans hr)

theorem waitsProperly_acts {acts : List Act} {w : World σ} (hl : Lawful s (s.start w) acts) :
    WaitsProperly (afterActs s (s.start w) acts) := by
  have hstep {past : List Act} {st : State σ} {a : Act}
      (h : Balanced s past st ∧ WaitsProperly st) (ha : Allows s st a) :
      Balanced s (past ++ [a]) (perform s st a) ∧ WaitsProperly (perform s st a) :=
    ⟨h.1.step ha, h.2.step (h.1.current.serves ha)⟩
  have hstart : WaitsProperly (s.start w) := fun _ hr => absurd hr.symm (Option.some_ne_none _)
  exact (@Lawful.keep _ s (fun past st => Balanced s past st ∧ WaitsProperly st) hstep [] acts _
    ⟨balanced_start s w, hstart⟩ hl).2

theorem showResult_leaves {r : QueryResult} (ho : s.output.failure = none) (he : r.error = [])
    (hx : r.exit = true) (w : World σ) : ∃ v, s.showResult r w = (.ok (some ()), v) := by
  obtain ⟨u, hu, _⟩ := printAll_prints ho (r.lines (!r.exit)) w
  refine ⟨u, ?_⟩
  unfold Session.showResult
  rw [hu, he, hx]
  rfl

/-- More is done behind a result only where it leaves the run free to go on. -/
theorem handOut_goes {take : QueryResult → World σ → Except Failure (Option ρ) × World σ}
    {goOn : World σ → List Deed} {d : Deed}
    (h : d ∈ Service.handOut take (fun _ _ => []) goOn q ends w) :
    ∃ u, Service.handOut take (fun _ _ => []) goOn q ends w = goOn u ∧
      ∀ (goOn : World σ → Service.Progress σ ρ),
        Service.handOut take .ended goOn q ends w = goOn u := by
  unfold Service.handOut at h ⊢
  split at h
  · split at h
    · contradiction
    · rename_i hends
      exact ⟨_, if_neg hends, fun _ => if_neg hends⟩
  · contradiction

/-- A result that asks to leave is the last thing that is done, and the run is over. -/
def Leaves (r : QueryResult) (deeds : List Deed) (p : Service.Progress σ Unit) : Prop :=
  ∀ earlier later, deeds = earlier ++ .yield r :: later →
    later = [] ∧ ∃ w, p = .ended (.ok (some ())) w

theorem progress_leaves {r : QueryResult} {task : Task σ (QueryResult × Bool)}
    {goOn : World σ → Service.Progress σ Unit} {goOnDeeds : World σ → List Deed}
    (ho : s.output.failure = none) (hx : r.exit = true) (hproper : Proper task)
    (hgo : ∀ w, Leaves r (goOnDeeds w) (goOn w)) :
    Leaves r (progressDeeds s.showResult goOnDeeds task)
      (Service.progress s.showResult sql rest goOn task) := by
  intro earlier later h
  cases task with
  | paused w statement => simp [progressDeeds] at h
  | done outcome w =>
    obtain ⟨q, ends⟩ := outcome
    cases earlier with
    | nil =>
      obtain ⟨hq, hlater⟩ := List.cons.inj h
      obtain rfl := Deed.yield.inj hq
      obtain ⟨v, hv⟩ := showResult_leaves ho (hproper q ends w .done hx) hx w
      rw [Service.handOut, hv] at hlater
      refine ⟨hlater.symm, v, ?_⟩
      rw [Service.progress, Service.handOut, hv]
    | cons d earlier =>
      obtain ⟨-, hrest⟩ := List.cons.inj h
      have hyield : .yield r ∈ Service.handOut s.showResult (fun _ _ => []) goOnDeeds q ends w := by
        rw [hrest]
        exact List.mem_append_cons_self
      obtain ⟨u, hdeeds, hrun⟩ := handOut_goes hyield
      obtain ⟨hlast, v, hv⟩ := hgo u earlier later (hdeeds.symm.trans hrest)
      exact ⟨hlast, v, (hrun goOn).trans hv⟩

theorem beginning_yields (s : Service σ) (x : Statement) (w : World σ) (r : QueryResult) :
    beginning s x w ≠ .yield r := by
  unfold beginning
  split
  · exact Deed.noConfusion
  · split
    · exact Deed.noConfusion
    · exact Deed.noConfusion

theorem advance_leaves {r : QueryResult} (ho : s.output.failure = none) (hx : r.exit = true)
    (ss : List Statement) (w : World σ) :
    Leaves r (advanceDeeds s.service sql s.showResult ss w)
      (s.service.advance sql s.showResult ss w) := by
  induction ss generalizing w with
  | nil =>
    intro earlier later h
    simp [advanceDeeds] at h
  | cons x rest ih =>
    intro earlier later h
    cases earlier with
    | nil =>
      obtain ⟨hfirst, -⟩ := List.cons.inj h
      exact absurd hfirst (beginning_yields s.service x w r)
    | cons d earlier =>
      obtain ⟨-, hrest⟩ := List.cons.inj h
      exact progress_leaves ho hx (proper_perform s.service sql x w) ih earlier later hrest

theorem attend_leaves (w : World σ) :
    (s.attend (.ended (.ok (some ())) w) st).closed = true ∧
      (s.attend (.ended (.ok (some ())) w) st).running = none :=
  ⟨closed_close _, running_close _⟩

/-- A result that asks to leave ends its run and closes the session. -/
theorem act_leaves {a : Act} {earlier later : List Deed} {r : QueryResult}
    (ho : s.output.failure = none) (hw : WaitsProperly st)
    (hd : actDeeds s st a = earlier ++ .yield r :: later) (hx : r.exit = true) :
    later = [] ∧ (perform s st a).closed = true ∧ (perform s st a).running = none := by
  cases a with
  | run cause line sql =>
    obtain ⟨hlast, w, hended⟩ := advance_leaves ho hx _ _ earlier later hd
    refine ⟨hlast, ?_⟩
    rw [perform, Session.execute, Service.start, hended]
    exact attend_leaves w
  | resume =>
    cases hr : st.running with
    | none => simp [actDeeds, hr] at hd
    | some call =>
      rw [actDeeds, hr] at hd
      have hresumed : Leaves r _ (s.service.resume s.showResult call st.world) :=
        progress_leaves ho hx (hw call hr st.world) (advance_leaves ho hx call.rest)
      obtain ⟨hlast, w, hended⟩ := hresumed earlier later hd
      refine ⟨hlast, ?_⟩
      rw [perform, Session.goOn, hr]
      dsimp only
      rw [hended]
      exact attend_leaves w
  | arrive | pass | hold | ask | refuse | decline | keep | interrupt | close | offer | elapse =>
    simp [actDeeds] at hd

theorem isCall_of_deed {a : Act} {d : Deed} (h : d ∈ actDeeds s st a) : a.isCall = true := by
  cases a with
  | run | resume => rfl
  | arrive | pass | hold | ask | refuse | decline | keep | interrupt | close | offer | elapse =>
    simp [actDeeds] at h

/-- If the act runs a text, it is one without a statement. -/
def RunsNothing (a : Act) : Prop :=
  ∀ cause line sql, a = .run cause line sql → executableStatements sql = []

/-- Where a text with a statement is run, the first of its statements is carried out. -/
theorem runsNothing_of_quiet {a : Act} (h : ∀ d ∈ actDeeds s st a, d.carriesOut = false) :
    RunsNothing a := by
  rintro cause line sql rfl
  cases hsplit : executableStatements sql with
  | nil => rfl
  | cons x rest =>
    rw [actDeeds, hsplit, advanceDeeds] at h
    have hfirst := h _ List.mem_cons_self
    unfold beginning at hfirst
    split at hfirst
    · contradiction
    · split at hfirst
      · contradiction
      · contradiction

theorem quiet_runsNothing {acts : List Act}
    (h : ∀ d ∈ sessionDeeds s st acts, d.carriesOut = false) : ∀ a ∈ acts, RunsNothing a := by
  induction acts generalizing st with
  | nil => simp
  | cons a acts ih =>
    rw [sessionDeeds, List.forall_mem_append] at h
    rw [List.forall_mem_cons]
    exact ⟨runsNothing_of_quiet h.1, ih h.2⟩

/-- An act that runs nothing while no run waits brings nothing to the database. -/
theorem RunsNothing.idle {u : State σ} {a : Act} (h : RunsNothing a) (hr : u.running = none)
    (hs : Serves s u a (perform s u a)) :
    actDeeds s u a = [] ∧ (perform s u a).running = none ∧
      (perform s u a).world.database = u.world.database := by
  cases a with
  | run cause line sql =>
    have hsplit := h cause line sql rfl
    have hcarries := hs.2
    rw [Service.start, hsplit] at hcarries
    obtain ⟨hnone, shown, hworld⟩ := hcarries
    refine ⟨?_, hnone, ?_⟩
    · rw [actDeeds, hsplit]
      rfl
    · rw [hworld]
      rfl
  | resume =>
    obtain ⟨call, hc, _⟩ := hs
    rw [hr] at hc
    contradiction
  | interrupt => exact ⟨rfl, hs.1.trans hr, hs.2 hr⟩
  | arrive | pass | hold | ask | refuse | decline | keep | close | offer | elapse =>
    exact ⟨rfl, hs.1.trans hr, hs.2⟩

theorem quiet_acts {l : Ledger} {acts : List Act} (h : l.Current s st) (hl : Lawful s st acts)
    (hr : st.running = none) (hn : ∀ a ∈ acts, RunsNothing a) :
    sessionDeeds s st acts = [] ∧ (afterActs s st acts).running = none ∧
      (afterActs s st acts).world.database = st.world.database := by
  induction acts generalizing l st with
  | nil => exact ⟨rfl, hr, rfl⟩
  | cons a acts ih =>
    obtain ⟨ha, hl⟩ := hl
    obtain ⟨hfirst, hn⟩ := List.forall_mem_cons.mp hn
    obtain ⟨hdeeds, hnone, hdatabase⟩ := hfirst.idle hr (h.serves ha)
    obtain ⟨hrest, hend, hsame⟩ := ih (h.step ha) hl hnone hn
    refine ⟨?_, hend, hsame.trans hdatabase⟩
    rw [sessionDeeds, hdeeds, hrest]
    rfl

/-- A closed session without a run that waits does nothing any more. -/
theorem acts_done {moments : List Moment} (hc : st.closed = true) (hr : st.running = none) :
    acts s moments st = [] := by
  have hstays (m : Moment) : momentActs s st m = [] := by
    cases m with
    | input i => rw [momentActs, if_pos hc]
    | resume => simp [momentActs, hr]
  induction moments with
  | nil => rfl
  | cons m rest ih =>
    have hmove : s.move st m = st := by
      rw [← after_momentActs, hstays]
      rfl
    rw [acts, hstays, hmove, ih]
    rfl

end

/-- What the user types to leave. -/
def exitLine : Text := ".exit"

def exitStatement : Statement := ⟨0, tokenize exitLine, false⟩

theorem executable_exit : executableStatements exitLine = [exitStatement] := by decide +kernel

theorem trim_exit : Text.trim exitLine = exitLine := by decide +kernel

/-- The session takes such a line for a command. -/
theorem lineAct_exit {st : State Unit} (hb : st.buffer = []) :
    lineAct plainSession st exitLine = .run .command exitLine exitLine := by
  have hact : lineAct plainSession st exitLine = .run .command exitLine (Text.trim exitLine) :=
    lineAct_command hb (by decide +kernel) (by decide +kernel)
  rwa [trim_exit] at hact

/-- What is done on account of it: the session is told to leave. -/
theorem deeds_exit (st : State Unit) :
    ∃ d r, actDeeds plainSession st (.run .command exitLine exitLine) = [d] ++ .yield r :: [] ∧
      r.exit = true := by
  let w : World Unit := { (ready plainSession st .command).world with aborted := false }
  have hcalls : callsBuiltin .exit (Text.trim exitStatement.text) = true := by decide +kernel
  have hcommand : plainSession.service.commandFor? (Text.trim exitStatement.text) =
      some Builtin.registry := by
    rw [commandFor_eq rfl, if_pos (by decide +kernel)]
  obtain ⟨r, v, htask, he, hx⟩ : ∃ r v,
      plainSession.service.performTask exitLine exitStatement w = .done (r, true) v ∧
        r.error = [] ∧ r.exit = true := by
    rw [performTask_command rfl hcommand, Service.performCommand, runCommand_builtin hcalls]
    exact ⟨_, _, rfl, rfl, rfl⟩
  obtain ⟨u, hu⟩ := showResult_leaves (s := plainSession) rfl he hx v
  refine ⟨beginning plainSession.service exitStatement w, r, ?_, hx⟩
  rw [actDeeds, executable_exit, advanceDeeds, htask, progressDeeds, Service.handOut, hu]
  rfl

def queryLine : Text := "SELECT 1;"

def queryStatement : Statement := ⟨0, tokenize "SELECT 1", true⟩

theorem executable_query : executableStatements queryLine = [queryStatement] := by decide +kernel

theorem trim_query : Text.trim queryLine = queryLine := by decide +kernel

theorem query_undestructive : isDestructive queryLine = false := by decide +kernel

theorem lineAct_query {st : State Unit} (hb : st.buffer = []) :
    lineAct plainSession st queryLine = .run .unasked queryLine queryLine := by
  have hm : plainSession.mustAsk (Text.trim queryLine) = false := by
    rw [trim_query, Session.mustAsk, query_undestructive, Bool.and_false]
  have hact : lineAct plainSession st queryLine = .run .unasked queryLine (Text.trim queryLine) :=
    lineAct_unasked hb (by decide +kernel) (by decide +kernel) (by decide +kernel) hm
  rwa [trim_query] at hact

theorem prepares_query (st : State Unit) :
    .prepare queryLine ∈ sessionDeeds plainSession st
      [.run .unasked queryLine queryLine, .keep []] := by
  have hsql : plainSession.service.commandFor? (Text.trim queryStatement.text) = none := by
    rw [commandFor_eq rfl, if_neg (by decide +kernel)]
  have htext : queryStatement.text = queryLine := by decide +kernel
  have hbegins (w : World Unit) (ha : w.aborted = false) :
      beginning plainSession.service queryStatement w = .prepare queryLine := by
    rw [beginning, hsql, ha, htext]
    rfl
  rw [sessionDeeds, actDeeds, executable_query, advanceDeeds, hbegins _ rfl]
  exact List.mem_cons_self

/-- Once a result asks to leave, it is the last of its run, the session is closed, and only lines
that have already arrived are still taken. Nothing more is carried out exactly if none of them, as
they are taken, runs a statement; then the database stays as it is. -/
theorem leaving_is_last_iff {s : Session σ} {moments : List Moment} {w : World σ}
    {before after : List Act} {a : Act} {earlier later : List Deed} {r : QueryResult}
    (ho : s.output.failure = none) (ha : acts s moments (s.start w) = before ++ a :: after)
    (hd : actDeeds s (afterActs s (s.start w) before) a = earlier ++ .yield r :: later)
    (hx : r.exit = true) :
    let past := before ++ [a]
    let st := afterActs s (s.start w) past
    let final := s.follow moments w
    final = afterActs s st after ∧ later = [] ∧ st.closed = true ∧ st.running = none ∧
    ∃ waiting, arrivals s (s.start w) past = taken past ++ waiting ∧
      arrivals s st after = [] ∧ waiting = taken after ++ final.queue ∧
      takeActs s waiting st <+: after ∧
      ((∀ d ∈ sessionDeeds s st after, d.carriesOut = false) ↔
        ∀ a ∈ takeActs s waiting st, RunsNothing a) ∧
      ((∀ d ∈ sessionDeeds s st after, d.carriesOut = false) →
        final.world.database = st.world.database) := by
  intro past st final
  have hl := lawful_acts s moments (s.start w)
  rw [ha] at hl
  obtain ⟨hbefore, hallowed, hbehind⟩ := lawful_append.mp hl
  have hbalanced : Balanced s before (afterActs s (s.start w) before) :=
    hbefore.keep Balanced.step (balanced_start s w)
  have hwaits : WaitsProperly (afterActs s (s.start w) before) := waitsProperly_acts hbefore
  obtain ⟨hlast, hclosed, hnone⟩ := act_leaves ho hwaits hd hx
  have hst : st = perform s (afterActs s (s.start w) before) a := afterActs_append ..
  rw [← hst] at hclosed hnone
  have hfinal : final = afterActs s st after := by
    rw [← afterActs_append, List.append_assoc, List.singleton_append, ← ha]
    exact (after_acts s moments (s.start w)).symm
  have hyield : .yield r ∈ actDeeds s (afterActs s (s.start w) before) a := by
    rw [hd]
    exact List.mem_append_cons_self
  obtain ⟨waiting, now, more, ⟨hlines, hnow⟩, hafter⟩ := acts_resume (isCall_of_deed hyield) ha
  have harrive : arrivals s st after = [] := by
    rw [hafter, arrivals_append, hnow, arrivals_takeActs, ← hnow]
    exact arrivals_closed s more (closed_afterActs s now hclosed)
  have hcurrent : (ledger past).Current s st := by
    rw [hst]
    exact (hbalanced.step hallowed).current
  have hlawful : Lawful s st now := by
    rw [hnow]
    exact lawful_takeActs s waiting st
  have hquiet (hn : ∀ a ∈ now, RunsNothing a) : after = now ∧ sessionDeeds s st now = [] ∧
      (afterActs s st now).world.database = st.world.database := by
    obtain ⟨hdeeds, hend, hsame⟩ := quiet_acts hcurrent hlawful hnone hn
    have hdone : acts s more (afterActs s st now) = [] :=
      acts_done (closed_afterActs s now hclosed) hend
    exact ⟨by rw [hafter, hdone, List.append_nil], hdeeds, hsame⟩
  have hnothing (hq : ∀ d ∈ sessionDeeds s st after, d.carriesOut = false) :
      ∀ a ∈ now, RunsNothing a := by
    intro b hb
    apply quiet_runsNothing hq
    rw [hafter]
    exact List.mem_append_left _ hb
  refine ⟨hfinal, hlast, hclosed, hnone, waiting, hlines, harrive, ?_, ?_, ?_, ?_⟩
  · have hall : arrivals s (s.start w) (acts s moments (s.start w)) =
        taken (acts s moments (s.start w)) ++ final.queue := taken_acts s moments (s.start w)
    rw [ha, List.append_cons, arrivals_append, harrive, taken_append, List.append_nil,
      List.append_assoc] at hall
    replace hall := hlines.symm.trans hall
    exact List.append_cancel_left hall
  · rw [← hnow, hafter]
    exact List.prefix_append _ _
  · rw [← hnow]
    refine ⟨hnothing, fun hn => ?_⟩
    obtain ⟨hsame, hdeeds, _⟩ := hquiet hn
    rw [hsame, hdeeds]
    simp
  · intro hq
    obtain ⟨hsame, _, hdatabase⟩ := hquiet (hnothing hq)
    rw [hfinal, hsame]
    exact hdatabase

theorem exit_alone_is_last :
    let s := plainSession
    let st := s.start { database := () }
    let before : List Act := [.arrive (.line exitLine)]
    let left := afterActs s st (before ++ [.run .command exitLine exitLine])
    s.output.failure = none ∧
    acts s [.input (.line exitLine)] st =
      before ++ .run .command exitLine exitLine :: [.keep []] ∧
    (∃ d r, actDeeds s (afterActs s st before) (.run .command exitLine exitLine) =
        [d] ++ .yield r :: [] ∧ r.exit = true) ∧
    left.closed = true ∧ ∀ d ∈ sessionDeeds s left [.keep []], d.carriesOut = false := by
  intro s st before left
  have ha : acts s [.input (.line exitLine)] st =
      before ++ .run .command exitLine exitLine :: [.keep []] := by
    rw [acts_line (attentive_start s _), lineAct_exit rfl]
    rfl
  obtain ⟨d, r, hd, hx⟩ := deeds_exit (afterActs s st before)
  obtain ⟨_, _, hclosed, _, waiting, _, _, hwaiting, _, hquiet, _⟩ :=
    leaving_is_last_iff rfl ha hd hx
  refine ⟨rfl, ha, ⟨d, r, hd, hx⟩, hclosed, hquiet.mpr ?_⟩
  have hnone : waiting = [] := by
    rw [hwaiting, Session.follow, ← after_acts, ha]
    rfl
  rw [hnone]
  rintro a hm cause line sql rfl
  exact absurd hm (by simp [takeActs])

/-- A line that arrives together with the one that leaves is still run. -/
theorem select_after_exit :
    let s := plainSession
    let st := s.start { database := () }
    let before : List Act := [.arrive (.lines [exitLine, queryLine])]
    let left := afterActs s st (before ++ [.run .command exitLine exitLine])
    let after : List Act := [.run .unasked queryLine queryLine, .keep []]
    acts s [.input (.lines [exitLine, queryLine])] st =
      before ++ .run .command exitLine exitLine :: after ∧
    (∃ d r, actDeeds s (afterActs s st before) (.run .command exitLine exitLine) =
        [d] ++ .yield r :: [] ∧ r.exit = true) ∧
    .prepare queryLine ∈ sessionDeeds s left after := by
  intro s st before left after
  let noted := afterActs s st before
  obtain ⟨d, r, hd, hx⟩ := deeds_exit noted
  have hidle : WaitsProperly noted := fun _ hr => absurd hr.symm (Option.some_ne_none _)
  obtain ⟨_, _, hnone⟩ := act_leaves rfl hidle hd hx
  have hquestion : noted.question = none := rfl
  have hbuffer : noted.buffer = [] := rfl
  have hfree : Free (perform s noted (.run .command exitLine exitLine)) :=
    ⟨question_command _ _ hquestion, hnone⟩
  have ha : acts s [.input (.lines [exitLine, queryLine])] st =
      before ++ .run .command exitLine exitLine :: after :=
    acts_pair (attentive_start s _) (lineAct_exit hbuffer) hfree
      (lineAct_query (buffer_command _ _ hbuffer))
  exact ⟨ha, ⟨d, r, hd, hx⟩, prepares_query left⟩

end SqlShell.Proofs
