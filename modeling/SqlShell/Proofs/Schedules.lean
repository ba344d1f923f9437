import SqlShell.Proofs.Acts

namespace SqlShell.Proofs
open Session (State Moment)

/-- What comes of a run that has come so far, if nobody does anything any more. -/
def outcome (s : Service σ) (take : QueryResult → World σ → Except Failure (Option ρ) × World σ) :
    Service.Progress σ ρ → Except Failure (Option ρ) × World σ
  | .ended answer w => (answer, w)
  | .waiting call w => s.complete take call w

section
variable {s : Service σ} {sql : Text}
  {take : QueryResult → World σ → Except Failure (Option ρ) × World σ}

theorem outcome_handOut {goOn : World σ → Service.Progress σ ρ}
    {finish : World σ → Except Failure (Option ρ) × World σ}
    (h : ∀ w, outcome s take (goOn w) = finish w) (r : QueryResult) (ends : Bool) (w : World σ) :
    outcome s take (Service.handOut take .ended goOn r ends w) =
      Service.handOut take Prod.mk finish r ends w := by
  unfold Service.handOut
  split
  · split
    · rfl
    · exact h _
  · rfl

theorem outcome_progress {rest : List Statement}
    (h : ∀ w, outcome s take (s.advance sql take rest w) = s.each sql take rest w)
    (task : Task σ (QueryResult × Bool)) :
    outcome s take (Service.progress take sql rest (s.advance sql take rest) task) =
      Service.handOut take Prod.mk (s.each sql take rest) task.finish.1.1 task.finish.1.2
        task.finish.2 := by
  cases task with
  | done result w => exact outcome_handOut h _ _ w
  | paused w statement => rfl

/-- A run that is not disturbed comes to the same as one that nobody can disturb. -/
theorem outcome_advance (ss : List Statement) (w : World σ) :
    outcome s take (s.advance sql take ss w) = s.each sql take ss w := by
  induction ss generalizing w with
  | nil => rfl
  | cons x rest ih => exact outcome_progress ih (s.performTask sql x w)

theorem outcome_resume (call : Service.Call σ) (w : World σ) :
    outcome s take (s.resume take call w) = s.complete take call w :=
  outcome_progress (outcome_advance call.rest) (call.statement w)

end

section
variable {s : Session σ}

/-- The state with these lines in the queue. -/
def queued (st : State σ) (lines : List Text) : State σ := { st with queue := lines }

theorem attend_queued (p : Service.Progress σ Unit) (st : State σ) (lines : List Text) :
    s.attend p (queued st lines) = queued (s.attend p st) lines := by
  rcases p with ⟨f | _ | _, w⟩ | ⟨call, w⟩
  · rfl
  · rfl
  · unfold Session.attend State.close queued
    dsimp only
    split
    · rfl
    · rfl
  · rfl

theorem handleLine_queued (line : Text) (st : State σ) (lines : List Text) :
    s.handleLine line (queued st lines) = queued (s.handleLine line st) lines := by
  have hact : lineAct s (queued st lines) line = lineAct s st line := rfl
  rw [← perform_lineAct, ← perform_lineAct, hact]
  unfold lineAct
  split
  · rfl
  · split
    · exact attend_queued _ st lines
    · split
      · split
        · split
          · rfl
          · rfl
        · exact attend_queued _ (ready s st .unasked) lines
      · rfl

/-- Taking lines does not look at those that have waited. -/
theorem takeLines_queued (lines waiting : List Text) (st : State σ) :
    s.takeLines lines (queued st waiting) = s.takeLines lines st := by
  induction lines generalizing st with
  | nil => rfl
  | cons line rest ih =>
    rw [Session.takeLines, Session.takeLines, handleLine_queued, ih]
    rfl

theorem takeLines_busy {st : State σ} (h : st.isBusy = true) (lines : List Text) :
    s.takeLines lines st = queued st lines := by
  cases lines with
  | nil => rfl
  | cons line rest =>
    rw [Session.takeLines, if_pos h]
    rfl

/-- Nothing but going on with it is needed to bring a run that has come so far to its end. -/
def Finishes (s : Session σ) (p : Service.Progress σ Unit) : Prop :=
  ∀ st : State σ, ∃ n,
    (List.replicate n Moment.resume).foldl s.move (s.takeLines st.queue (s.attend p st)) =
      s.takeLines st.queue
        (s.attend (.ended (outcome s.service s.showResult p).1 (outcome s.service s.showResult p).2)
          st)

theorem finishes_ended (answer : Except Failure (Option Unit)) (w : World σ) :
    Finishes s (.ended answer w) := fun _ => ⟨0, rfl⟩

theorem move_resume {st : State σ} {call : Service.Call σ} (hr : st.running = some call) :
    s.move st .resume =
      s.takeLines st.queue (s.attend (s.service.resume s.showResult call st.world) st) := by
  rw [Session.move, hr, ← queue_goOn s st, Session.goOn, hr]
  rfl

/-- What a run leaves behind when it waits does not matter for what comes next. -/
theorem attend_again (p : Service.Progress σ Unit) (call : Service.Call σ) (w : World σ)
    (st : State σ) : s.attend p (s.attend (.waiting call w) st) = s.attend p st := by
  rcases p with ⟨f | _ | _, v⟩ | ⟨c, v⟩
  · rfl
  · rfl
  · rfl
  · rfl

theorem finishes_waiting {call : Service.Call σ} {w : World σ}
    (h : Finishes s (s.service.resume s.showResult call w)) : Finishes s (.waiting call w) := by
  intro st
  obtain ⟨n, hn⟩ := h st
  refine ⟨n + 1, ?_⟩
  have hwaits : (s.attend (.waiting call w) st).running = some call := rfl
  have hstays : s.takeLines st.queue (s.attend (.waiting call w) st) =
      s.attend (.waiting call w) st := takeLines_busy (busy_running hwaits) st.queue
  have hmove : s.move (s.attend (.waiting call w) st) .resume =
      s.takeLines st.queue (s.attend (s.service.resume s.showResult call w) st) := by
    rw [move_resume hwaits, attend_again]
    rfl
  rw [hstays, List.replicate_succ, List.foldl_cons, hmove, hn, outcome_resume]
  rfl

theorem finishes_progress {sql : Text} {rest : List Statement}
    (h : ∀ w, Finishes s (s.service.advance sql s.showResult rest w))
    (task : Task σ (QueryResult × Bool)) :
    Finishes s (Service.progress s.showResult sql rest (s.service.advance sql s.showResult rest)
      task) := by
  induction task with
  | done result w =>
    unfold Service.progress Service.handOut
    dsimp only
    split
    · split
      · exact finishes_ended _ _
      · exact h _
    · exact finishes_ended _ _
  | paused w statement ih => exact finishes_waiting (ih w)

theorem finishes_advance (sql : Text) (ss : List Statement) (w : World σ) :
    Finishes s (s.service.advance sql s.showResult ss w) := by
  induction ss generalizing w with
  | nil => exact finishes_ended _ w
  | cons x rest ih => exact finishes_progress ih (s.service.performTask sql x w)

/-- A run that waits is over after it has gone on some times, and then the lines that wait are
taken. -/
theorem run_finishes {st : State σ} {call : Service.Call σ} (hr : st.running = some call) :
    ∃ n, (List.replicate n Moment.resume).foldl s.move st =
      s.takeLines st.queue (s.finishRun st) := by
  have hfinishes : Finishes s (s.service.resume s.showResult call st.world) :=
    finishes_progress (finishes_advance call.sql call.rest) (call.statement st.world)
  obtain ⟨n, hn⟩ := hfinishes st
  refine ⟨n + 1, ?_⟩
  rw [List.replicate_succ, List.foldl_cons, move_resume hr, hn, outcome_resume,
    Session.finishRun, hr]

theorem running_finishRun (st : State σ) : (s.finishRun st).running = none := by
  unfold Session.finishRun
  split
  · assumption
  · rename_i call _
    rcases s.service.complete s.showResult call st.world with ⟨f | _ | _, w⟩
    · rfl
    · rfl
    · exact running_close _

theorem finishRun_idle {st : State σ} (hr : st.running = none) : s.finishRun st = st := by
  unfold Session.finishRun
  rw [hr]

theorem finishRun_queued (st : State σ) (lines : List Text) :
    s.finishRun (queued st lines) = queued (s.finishRun st) lines := by
  have hsame : (queued st lines).running = st.running := rfl
  unfold Session.finishRun
  rw [hsame]
  cases st.running with
  | none => rfl
  | some call => exact attend_queued _ st lines

theorem settle_finished (lines : List Text) (st : State σ) :
    s.settle lines (s.finishRun st) = s.settle lines st := by
  cases lines with
  | nil => rw [Session.settle, Session.settle, finishRun_idle (running_finishRun st)]
  | cons line rest => rw [Session.settle, Session.settle, finishRun_idle (running_finishRun st)]

/-- To bring every run to its end while these lines are taken is to take lines, and to go on with
the run that waits as often as there is one. -/
def Schedulable (s : Session σ) (lines : List Text) (st : State σ) : Prop :=
  ∃ n, s.settle lines st =
    (List.replicate n Moment.resume).foldl s.move (s.takeLines lines st)

theorem schedulable_of_idle {lines : List Text}
    (h : ∀ st : State σ, st.running = none → Schedulable s lines st) (st : State σ) :
    Schedulable s lines st := by
  cases hr : st.running with
  | none => exact h st hr
  | some call =>
    have hwaits : (queued st lines).running = some call := hr
    obtain ⟨n, hn⟩ := run_finishes (s := s) hwaits
    obtain ⟨m, hm⟩ := h (s.finishRun st) (running_finishRun st)
    refine ⟨n + m, ?_⟩
    change _ = s.takeLines lines _ at hn
    rw [finishRun_queued, takeLines_queued] at hn
    rw [← settle_finished, hm, takeLines_busy (busy_running hr),
      ← List.replicate_append_replicate, List.foldl_append, hn]

/-- No run waits once all of them are brought to their end. -/
theorem running_settle (lines : List Text) (st : State σ) : (s.settle lines st).running = none := by
  induction lines generalizing st with
  | nil => exact running_finishRun st
  | cons line rest ih =>
    rw [Session.settle]
    split
    · exact running_finishRun st
    · exact ih _

theorem schedulable (lines : List Text) (st : State σ) : Schedulable s lines st := by
  induction lines generalizing st with
  | nil =>
    apply schedulable_of_idle
    intro st hr
    refine ⟨0, ?_⟩
    rw [Session.settle, finishRun_idle hr]
    rfl
  | cons line rest ih =>
    apply schedulable_of_idle
    intro st hr
    unfold Schedulable
    rw [Session.settle, Session.takeLines, finishRun_idle hr, State.isBusy, hr]
    cases st.question with
    | some sql => exact ⟨0, rfl⟩
    | none => exact ih (s.handleLine line st)

/-- Lines wait only behind one that is still being handled. -/
def Patient (st : State σ) : Prop := Free st → st.queue = []

theorem Patient.takes {st : State σ} (h : Patient st) : s.takeLines st.queue st = st := by
  cases hb : st.isBusy with
  | true => exact takeLines_busy hb st.queue
  | false =>
    have hq : st.queue = [] := h (free_iff.mpr hb)
    rw [hq, Session.takeLines, ← hq]

theorem patient_takeLines (lines : List Text) (st : State σ) :
    Patient (s.takeLines lines st) := by
  induction lines generalizing st with
  | nil => exact fun _ => rfl
  | cons line rest ih =>
    rw [Session.takeLines]
    split
    · rename_i hb
      intro hf
      have hfree : Free st := ⟨hf.question, hf.running⟩
      rw [free_iff.mp hfree] at hb
      contradiction
    · exact ih _

theorem patient_receive (lines : List Text) (st : State σ) : Patient (s.receive lines st) := by
  unfold Session.receive
  split
  · exact patient_takeLines _ _
  · exact patient_takeLines _ _

theorem Patient.respond {st : State σ} (h : Patient st) (i : UserInput) :
    Patient (s.respond i st) := by
  cases i with
  | line text => exact patient_receive [text] st
  | lines texts => exact patient_receive texts st
  | interrupt =>
    obtain ⟨hqueue, hquestion⟩ := interrupt_keeps s st
    rintro ⟨hq, hr⟩
    exact hqueue.trans (h ⟨hquestion.symm.trans hq, (running_interrupt s st).symm.trans hr⟩)
  | endOfInput =>
    have hdesk := desk_close st
    rintro ⟨hq, hr⟩
    exact (congrArg Desk.queue hdesk).trans
      (h ⟨(congrArg Desk.question hdesk).symm.trans hq, (running_close st).symm.trans hr⟩)
  | tab line => exact fun hf => h ⟨hf.question, hf.running⟩
  | wait elapsed => exact fun hf => h ⟨hf.question, hf.running⟩

theorem Patient.move {st : State σ} (h : Patient st) (m : Moment) : Patient (s.move st m) := by
  cases m with
  | input i =>
    rw [Session.move]
    split
    · exact h
    · have hnoted : Patient (st.emit [.input i]) := fun hf => h ⟨hf.question, hf.running⟩
      exact hnoted.respond i
  | resume =>
    rw [Session.move]
    split
    · exact h
    · exact patient_takeLines _ _

theorem Patient.moves {st : State σ} (h : Patient st) (moments : List Moment) :
    Patient (moments.foldl s.move st) := by
  induction moments generalizing st with
  | nil => exact h
  | cons m rest ih => exact ih (h.move m)

/-- What comes of an input if nothing else happens is what comes of it and of going on with the run
that waits as often as there is one. -/
theorem step_moves {st : State σ} (h : Patient st) (i : UserInput) :
    (s.step st i).running = none ∧
      ∃ n, s.step st i = (.input i :: List.replicate n .resume).foldl s.move st := by
  refine ⟨running_settle _ _, ?_⟩
  obtain ⟨n, hn⟩ := schedulable (s := s) (s.move st (.input i)).queue (s.move st (.input i))
  rw [(h.move (.input i)).takes] at hn
  exact ⟨n, hn⟩

/-- What the user does at a moment. -/
def input? : Moment → Option UserInput
  | .input i => some i
  | .resume => none

theorem steps_move {st : State σ} (h : Patient st) (inputs : List UserInput) :
    ∃ moments : List Moment, moments.filterMap input? = inputs ∧
      inputs.foldl s.step st = moments.foldl s.move st := by
  induction inputs generalizing st with
  | nil => exact ⟨[], rfl, rfl⟩
  | cons i rest ih =>
    obtain ⟨_, n, hn⟩ := step_moves (s := s) h i
    have hpatient : Patient (s.step st i) := by
      rw [hn]
      exact h.moves _
    obtain ⟨moments, hinputs, hmoves⟩ := ih hpatient
    refine ⟨.input i :: List.replicate n .resume ++ moments, ?_, ?_⟩
    · simp [input?, hinputs]
    · rw [List.foldl_cons, hmoves, hn, List.foldl_append]

/-- A session in which the user waits for every run to end is one of those that can come of his
inputs. -/
theorem play_follows (s : Session σ) (inputs : List UserInput) (w : World σ) :
    ∃ moments, moments.filterMap input? = inputs ∧ s.play inputs w = s.follow moments w :=
  steps_move (fun _ => rfl) inputs

end

end SqlShell.Proofs
