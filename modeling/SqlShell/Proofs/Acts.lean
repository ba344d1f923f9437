import SqlShell.Session.Loop

namespace SqlShell.Proofs
open Session (State Moment isYes isComplete destructiveQuestion)

/-- Why a text is handed to the service. -/
inductive Cause where
  /-- The line that arrived calls a command. -/
  | command
  /-- The line completed a text that runs unasked. -/
  | unasked
  /-- The line said yes to the question. -/
  | confirmed
  deriving DecidableEq, Repr

/-- One thing that a session does; the first text is the line on account of which it does it. -/
inductive Act where
  /-- An input is taken note of. -/
  | arrive (i : UserInput)
  | pass (line : Text)
  /-- The line joins a text that is not complete yet. -/
  | hold (line : Text)
  | ask (line sql : Text)
  /-- The line editor does not put the question, and the text is given up. -/
  | refuse (line sql : Text) (f : Failure)
  | run (cause : Cause) (line sql : Text)
  /-- The question is answered, but not with yes. -/
  | decline (line sql : Text)
  /-- The run that has let others go first goes on. -/
  | resume
  /-- Lines wait until the line that is being handled is done with. -/
  | keep (lines : List Text)
  | interrupt
  | close
  | offer (line : Text)
  | elapse (time : Millis)

/-- The text entered so far, trimmed, when a line has joined it. -/
def entered (st : State σ) (line : Text) : Text :=
  Text.trim (Text.join [unit '\n'] (st.buffer ++ [line]))

/-- The state in which a text is handed to the service. -/
def ready (s : Session σ) (st : State σ) : Cause → State σ
  | .command => st
  | .unasked => { st with buffer := [], prompt := s.mainPrompt }
  | .confirmed => { st with question := none }

/-- Takes a no. -/
def decline (s : Session σ) (st : State σ) : State σ :=
  match s.output.print "Wise choice!" st.world with
  | (.ok (), w) => { st with world := w }.showPrompt
  | (.error f, w) => s.recover f { st with world := w }

def perform (s : Session σ) (st : State σ) : Act → State σ
  | .arrive i => st.emit [.input i]
  | .pass _ => st.showPrompt
  | .hold line =>
    { st with buffer := st.buffer ++ [line], prompt := Prompt.continuation }.showPrompt
  | .ask _ sql =>
    { (ready s st .unasked).emit [.asked destructiveQuestion] with question := some sql }
  | .refuse _ _ f => s.recover f (ready s st .unasked)
  | .run cause _ sql => s.execute sql (ready s st cause)
  | .decline _ _ => decline s { st with question := none }
  | .resume => s.goOn st
  | .keep lines => { st with queue := lines }
  | .interrupt => s.interrupt st
  | .close => st.close
  | .offer line => s.complete line st
  | .elapse time => { st with world := { st.world with clock := st.world.clock + time } }

/-- What a state holds of lines and of the question. -/
structure Desk where
  buffer : List Text
  prompt : Text
  queue : List Text
  question : Option Text

def desk (st : State σ) : Desk := ⟨st.buffer, st.prompt, st.queue, st.question⟩

theorem desk_close (st : State σ) : desk st.close = desk st := by
  unfold State.close
  split
  · rfl
  · rfl

theorem running_close (st : State σ) : st.close.running = st.running := by
  unfold State.close
  split
  · rfl
  · rfl

/-- How far a run has come changes nothing of what has been entered or asked. -/
theorem desk_attend (s : Session σ) (p : Service.Progress σ Unit) (st : State σ) :
    desk (s.attend p st) = desk st := by
  unfold Session.attend
  split
  · rfl
  · exact desk_close _
  · rfl
  · rfl

theorem desk_execute (s : Session σ) (sql : Text) (st : State σ) :
    desk (s.execute sql st) = desk st := desk_attend s _ st

theorem desk_goOn (s : Session σ) (st : State σ) : desk (s.goOn st) = desk st := by
  unfold Session.goOn
  split
  · rfl
  · exact desk_attend s _ st

theorem desk_decline (s : Session σ) (st : State σ) : desk (decline s st) = desk st := by
  unfold decline
  split
  · rfl
  · rfl

/-- An interruption leaves the lines that wait, and the question. -/
theorem interrupt_keeps (s : Session σ) (st : State σ) :
    (s.interrupt st).queue = st.queue ∧ (s.interrupt st).question = st.question := by
  unfold Session.interrupt
  split
  · exact ⟨rfl, rfl⟩
  · split
    · exact ⟨congrArg Desk.queue (desk_close st), congrArg Desk.question (desk_close st)⟩
    · dsimp only
      split
      · exact ⟨rfl, rfl⟩
      · exact ⟨rfl, rfl⟩

theorem running_interrupt (s : Session σ) (st : State σ) :
    (s.interrupt st).running = st.running := by
  unfold Session.interrupt
  split
  · rfl
  · split
    · exact running_close st
    · dsimp only
      split
      · rfl
      · rfl

theorem question_command {s : Session σ} {st : State σ} (line sql : Text)
    (hq : st.question = none) : (perform s st (.run .command line sql)).question = none :=
  (congrArg Desk.question (desk_execute s sql st)).trans hq

theorem buffer_command {s : Session σ} {st : State σ} (line sql : Text) (hb : st.buffer = []) :
    (perform s st (.run .command line sql)).buffer = [] :=
  (congrArg Desk.buffer (desk_execute s sql st)).trans hb

/-- The state after some acts. -/
def afterActs (s : Session σ) (st : State σ) (acts : List Act) : State σ :=
  acts.foldl (perform s) st

@[simp] theorem afterActs_nil (s : Session σ) (st : State σ) : afterActs s st [] = st := rfl

@[simp] theorem afterActs_cons (s : Session σ) (st : State σ) (a : Act) (acts : List Act) :
    afterActs s st (a :: acts) = afterActs s (perform s st a) acts := rfl

@[simp] theorem afterActs_append (s : Session σ) (st : State σ) (xs ys : List Act) :
    afterActs s st (xs ++ ys) = afterActs s (afterActs s st xs) ys :=
  List.foldl_append

/-- Only a closed line editor refuses a question. -/
theorem refusal_some {s : Session σ} {st : State σ} {f : Failure} (h : s.refusal? st = some f) :
    st.closed = true ∧ s.editor.refusal = some f := by
  unfold Session.refusal? at h
  split at h
  · exact ⟨by assumption, h⟩
  · contradiction

/-- What a session does with a line. -/
def lineAct (s : Session σ) (st : State σ) (line : Text) : Act :=
  if st.buffer.isEmpty && (Text.trim line).isEmpty then .pass line
  else if st.buffer.isEmpty && s.commands.isCommand (Text.trim line) then
    .run .command line (Text.trim line)
  else if isComplete (entered st line) then
    if s.mustAsk (entered st line) then
      match s.refusal? st with
      | some f => .refuse line (entered st line) f
      | none => .ask line (entered st line)
    else .run .unasked line (entered st line)
  else .hold line

theorem entered_first {st : State σ} (line : Text) (hb : st.buffer = []) :
    entered st line = Text.trim line := by
  rw [entered, hb]
  simp [Text.join]

theorem lineAct_command {s : Session σ} {st : State σ} {line : Text} (hb : st.buffer = [])
    (hn : Text.trim line ≠ []) (hc : s.commands.isCommand (Text.trim line) = true) :
    lineAct s st line = .run .command line (Text.trim line) := by
  simp [lineAct, hb, hn, hc]

theorem lineAct_asked {s : Session σ} {st : State σ} {line : Text} (hb : st.buffer = [])
    (hn : Text.trim line ≠ []) (hc : s.commands.isCommand (Text.trim line) = false)
    (hcomplete : isComplete (Text.trim line) = true) (hm : s.mustAsk (Text.trim line) = true)
    (hput : s.refusal? st = none) : lineAct s st line = .ask line (Text.trim line) := by
  simp [lineAct, entered_first line hb, hb, hn, hc, hcomplete, hm, hput]

theorem lineAct_unasked {s : Session σ} {st : State σ} {line : Text} (hb : st.buffer = [])
    (hn : Text.trim line ≠ []) (hc : s.commands.isCommand (Text.trim line) = false)
    (hcomplete : isComplete (Text.trim line) = true) (hm : s.mustAsk (Text.trim line) = false) :
    lineAct s st line = .run .unasked line (Text.trim line) := by
  simp [lineAct, entered_first line hb, hb, hn, hc, hcomplete, hm]

/-- What it does with an answer. -/
def answerAct (sql line : Text) : Act :=
  if isYes line then .run .confirmed line sql else .decline line sql

def takeActs (s : Session σ) : List Text → State σ → List Act
  | [], _ => [.keep []]
  | line :: rest, st =>
    if st.isBusy then [.keep (line :: rest)]
    else lineAct s st line :: takeActs s rest (perform s st (lineAct s st line))

def receiveActs (s : Session σ) (lines : List Text) (st : State σ) : List Act :=
  match st.question, lines with
  | some sql, line :: rest =>
    answerAct sql line :: takeActs s (st.queue ++ rest) (perform s st (answerAct sql line))
  | _, lines => takeActs s (st.queue ++ lines) st

def respondActs (s : Session σ) (i : UserInput) (st : State σ) : List Act :=
  match i with
  | .line text => receiveActs s [text] st
  | .lines texts => receiveActs s texts st
  | .interrupt => [.interrupt]
  | .endOfInput => [.close]
  | .tab line => [.offer line]
  | .wait elapsed => [.elapse elapsed]

def momentActs (s : Session σ) (st : State σ) : Moment → List Act
  | .input i =>
    if st.closed then [] else .arrive i :: respondActs s i (perform s st (.arrive i))
  | .resume =>
    if st.running.isNone then [] else .resume :: takeActs s st.queue (perform s st .resume)

/-- All that a session does in the course of some moments. -/
def acts (s : Session σ) : List Moment → State σ → List Act
  | [], _ => []
  | m :: rest, st => momentActs s st m ++ acts s rest (s.move st m)

theorem perform_lineAct (s : Session σ) (st : State σ) (line : Text) :
    perform s st (lineAct s st line) = s.handleLine line st := by
  unfold lineAct Session.handleLine Session.submit
  dsimp only
  split
  · rfl
  · split
    · rfl
    · change perform s st (if isComplete (entered st line) then _ else _) =
        if isComplete (entered st line) then _ else _
      split
      · change perform s st (if s.mustAsk (entered st line) then _ else _) =
          if s.mustAsk (entered st line) then s.ask (entered st line) (ready s st .unasked) else _
        split
        · rw [Session.ask]
          change perform s st (match s.refusal? st with | some f => _ | none => _) =
            match s.refusal? st with | some f => _ | none => _
          split
          · rfl
          · rfl
        · rfl
      · rfl

theorem perform_answerAct (s : Session σ) (st : State σ) (sql line : Text) :
    perform s st (answerAct sql line) = s.answer sql line st := by
  rw [answerAct, Session.answer]
  split
  · rfl
  · rfl

theorem after_takeActs (s : Session σ) (lines : List Text) (st : State σ) :
    afterActs s st (takeActs s lines st) = s.takeLines lines st := by
  induction lines generalizing st with
  | nil => rfl
  | cons line rest ih =>
    rw [takeActs, Session.takeLines]
    split
    · rfl
    · rw [afterActs_cons, ih, perform_lineAct]

theorem after_receiveActs (s : Session σ) (lines : List Text) (st : State σ) :
    afterActs s st (receiveActs s lines st) = s.receive lines st := by
  unfold receiveActs Session.receive
  cases st.question with
  | none => exact after_takeActs s _ st
  | some sql =>
    cases lines with
    | nil => exact after_takeActs s _ st
    | cons line rest =>
      dsimp only
      rw [afterActs_cons, after_takeActs, perform_answerAct]

theorem after_respondActs (s : Session σ) (i : UserInput) (st : State σ) :
    afterActs s st (respondActs s i st) = s.respond i st := by
  cases i with
  | line text => exact after_receiveActs s [text] st
  | lines texts => exact after_receiveActs s texts st
  | interrupt => rfl
  | endOfInput => rfl
  | tab line => rfl
  | wait elapsed => rfl

theorem queue_goOn (s : Session σ) (st : State σ) : (s.goOn st).queue = st.queue :=
  congrArg Desk.queue (desk_goOn s st)

theorem after_momentActs (s : Session σ) (st : State σ) (m : Moment) :
    afterActs s st (momentActs s st m) = s.move st m := by
  cases m with
  | input i =>
    rw [momentActs, Session.move]
    split
    · rfl
    · rw [afterActs_cons, after_respondActs]
      rfl
  | resume =>
    rw [momentActs, Session.move]
    split
    · rfl
    · rw [afterActs_cons, after_takeActs, ← queue_goOn s st]
      rfl

/-- The acts of a session are all that happens in it. -/
theorem after_acts (s : Session σ) (moments : List Moment) (st : State σ) :
    afterActs s st (acts s moments st) = moments.foldl s.move st := by
  induction moments generalizing st with
  | nil => rfl
  | cons m rest ih => rw [acts, afterActs_append, after_momentActs, ih, List.foldl_cons]

/-- Nothing is being handled. -/
structure Free (st : State σ) : Prop where
  question : st.question = none
  running : st.running = none

theorem free_iff {st : State σ} : Free st ↔ st.isBusy = false := by
  unfold State.isBusy
  rw [Bool.or_eq_false_iff, Option.isSome_eq_false_iff, Option.isSome_eq_false_iff,
    Option.isNone_iff_eq_none, Option.isNone_iff_eq_none]
  exact ⟨fun h => ⟨h.question, h.running⟩, fun h => ⟨h.1, h.2⟩⟩

theorem busy_running {st : State σ} {call : Service.Call σ} (hr : st.running = some call) :
    st.isBusy = true := by
  rw [State.isBusy, hr, Option.isSome_some, Bool.or_true]

/-- A session that is free to attend to a line at once. -/
structure Attentive (st : State σ) : Prop extends Free st where
  isOpen : st.closed = false
  queue : st.queue = []

theorem attentive_start (s : Session σ) (w : World σ) : Attentive (s.start w) :=
  ⟨⟨rfl, rfl⟩, rfl, rfl⟩

theorem takeActs_free {s : Session σ} {st : State σ} (hf : Free st) (line : Text)
    (rest : List Text) : takeActs s (line :: rest) st =
      lineAct s st line :: takeActs s rest (perform s st (lineAct s st line)) := by
  rw [takeActs, free_iff.mp hf]
  rfl

theorem receiveActs_free {s : Session σ} {st : State σ} (h : Attentive st) (lines : List Text) :
    receiveActs s lines st = takeActs s lines st := by
  unfold receiveActs
  rw [h.question, h.queue]
  rfl

/-- A line to which the session is free to attend at once. -/
theorem momentActs_line {s : Session σ} {st : State σ} (h : Attentive st) (line : Text) :
    momentActs s st (.input (.line line)) =
      .arrive (.line line) :: takeActs s [line] (perform s st (.arrive (.line line))) := by
  have hnoted : Attentive (perform s st (.arrive (.line line))) :=
    ⟨⟨h.question, h.running⟩, h.isOpen, h.queue⟩
  rw [momentActs, h.isOpen, respondActs, receiveActs_free hnoted]
  rfl

/-- A line that leaves nothing to wait for. -/
theorem takeActs_single {s : Session σ} {st : State σ} (h : Free st) (line : Text) :
    takeActs s [line] st = [lineAct s st line, .keep []] := takeActs_free h line []

theorem acts_line {s : Session σ} {st : State σ} (h : Attentive st) (line : Text) :
    acts s [.input (.line line)] st =
      [.arrive (.line line), lineAct s (perform s st (.arrive (.line line))) line, .keep []] := by
  have hfree : Free (perform s st (.arrive (.line line))) := ⟨h.question, h.running⟩
  rw [acts, momentActs_line h, takeActs_single hfree]
  rfl

/-- Two lines that arrive together, where the first leaves nothing to wait for. -/
theorem acts_pair {s : Session σ} {st : State σ} (h : Attentive st) {first second : Text}
    {a b : Act} (ha : lineAct s (perform s st (.arrive (.lines [first, second]))) first = a)
    (hfree : Free (perform s (perform s st (.arrive (.lines [first, second]))) a))
    (hb : lineAct s (perform s (perform s st (.arrive (.lines [first, second]))) a) second = b) :
    acts s [.input (.lines [first, second])] st =
      [.arrive (.lines [first, second]), a, b, .keep []] := by
  have hnoted : Attentive (perform s st (.arrive (.lines [first, second]))) :=
    ⟨⟨h.question, h.running⟩, h.isOpen, h.queue⟩
  rw [acts, momentActs, h.isOpen, respondActs, receiveActs_free hnoted,
    takeActs_free hnoted.toFree, ha, takeActs_single hfree, hb]
  rfl

/-- A line that makes the session ask, and an answer of yes. -/
theorem acts_asked {s : Session σ} {st : State σ} (h : Attentive st) {sql answer : Text}
    (hask : lineAct s (perform s st (.arrive (.line sql))) sql = .ask sql sql)
    (hy : isYes answer = true) :
    acts s [.input (.line sql), .input (.line answer)] st =
      [.arrive (.line sql), .ask sql sql, .keep [], .arrive (.line answer),
        .run .confirmed answer sql, .keep []] := by
  have hfree : Free (perform s st (.arrive (.line sql))) := ⟨h.question, h.running⟩
  have hfirst := momentActs_line (s := s) h sql
  rw [takeActs_single hfree, hask] at hfirst
  have hsecond : acts s [.input (.line answer)] (s.move st (.input (.line sql))) =
      [.arrive (.line answer), .run .confirmed answer sql, .keep []] := by
    rw [← after_momentActs, hfirst]
    simp [acts, momentActs, respondActs, receiveActs, perform, ready, takeActs, answerAct, hy,
      h.isOpen, State.emit]
  rw [acts, hfirst, hsecond]
  rfl

/-- The line joins the text that is being entered; it is not blank and calls no command. -/
def Joins (s : Session σ) (st : State σ) (line : Text) : Prop :=
  st.buffer = [] → Text.trim line ≠ [] ∧ s.commands.isCommand (Text.trim line) = false

/-- What a session does in which state. -/
inductive Allows (s : Session σ) (st : State σ) : Act → Prop
  | arrive (ho : st.closed = false) : Allows s st (.arrive i)
  | pass (hf : Free st) (hb : st.buffer = []) (hl : Text.trim line = []) :
      Allows s st (.pass line)
  | hold (hf : Free st) (hj : Joins s st line) (hc : isComplete (entered st line) = false) :
      Allows s st (.hold line)
  | ask (hf : Free st) (hj : Joins s st line) (hc : isComplete (entered st line) = true)
      (hm : s.mustAsk (entered st line) = true) (hput : s.refusal? st = none) :
      Allows s st (.ask line (entered st line))
  | refuse (hf : Free st) (hj : Joins s st line) (hc : isComplete (entered st line) = true)
      (hm : s.mustAsk (entered st line) = true) (hput : s.refusal? st = some f) :
      Allows s st (.refuse line (entered st line) f)
  | command (hf : Free st) (hb : st.buffer = [])
      (hc : s.commands.isCommand (Text.trim line) = true) :
      Allows s st (.run .command line (Text.trim line))
  | unasked (hf : Free st) (hj : Joins s st line) (hc : isComplete (entered st line) = true)
      (hm : s.mustAsk (entered st line) = false) :
      Allows s st (.run .unasked line (entered st line))
  | confirmed (hq : st.question = some sql) (hy : isYes line = true) :
      Allows s st (.run .confirmed line sql)
  | decline (hq : st.question = some sql) (hn : isYes line = false) :
      Allows s st (.decline line sql)
  | resume (hr : st.running = some call) : Allows s st .resume
  | keep : Allows s st (.keep lines)
  | interrupt : Allows s st .interrupt
  | close : Allows s st .close
  | offer : Allows s st (.offer line)
  | elapse : Allows s st (.elapse time)

/-- Each of the acts comes in a state that allows it. -/
def Lawful (s : Session σ) : State σ → List Act → Prop
  | _, [] => True
  | st, a :: acts => Allows s st a ∧ Lawful s (perform s st a) acts

theorem lawful_append {s : Session σ} {st : State σ} {xs ys : List Act} :
    Lawful s st (xs ++ ys) ↔ Lawful s st xs ∧ Lawful s (afterActs s st xs) ys := by
  induction xs generalizing st with
  | nil => simp [Lawful]
  | cons a xs ih => simp [Lawful, ih, and_assoc]

/-- What every allowed act keeps up, lawful acts keep up. -/
theorem Lawful.keep {s : Session σ} {kept : List Act → State σ → Prop}
    (hstep : ∀ {past st a}, kept past st → Allows s st a → kept (past ++ [a]) (perform s st a))
    {past acts : List Act} {st : State σ} (h : kept past st) (hl : Lawful s st acts) :
    kept (past ++ acts) (afterActs s st acts) := by
  induction acts generalizing past st with
  | nil => simpa using h
  | cons a acts ih =>
    have hn := ih (hstep h hl.1) hl.2
    rwa [List.append_assoc] at hn

theorem lineAct_allowed {s : Session σ} {st : State σ} (line : Text) (hf : Free st) :
    Allows s st (lineAct s st line) := by
  rw [lineAct]
  split
  · rename_i h
    simp only [Bool.and_eq_true, List.isEmpty_iff] at h
    exact Allows.pass hf h.1 h.2
  · rename_i hblank
    split
    · rename_i h
      simp only [Bool.and_eq_true, List.isEmpty_iff] at h
      exact Allows.command hf h.1 h.2
    · rename_i hcommand
      have hj : Joins s st line := by
        intro hb
        simp only [hb, List.isEmpty_nil, Bool.true_and, List.isEmpty_iff] at hblank
        simp only [hb, List.isEmpty_nil, Bool.true_and, Bool.not_eq_true] at hcommand
        exact ⟨hblank, hcommand⟩
      split
      · rename_i hc
        split
        · rename_i hm
          split
          · exact Allows.refuse hf hj hc hm (by assumption)
          · exact Allows.ask hf hj hc hm (by assumption)
        · exact Allows.unasked hf hj hc (eq_false_of_ne_true ‹_›)
      · exact Allows.hold hf hj (eq_false_of_ne_true ‹_›)

theorem answerAct_allowed {s : Session σ} {st : State σ} {sql : Text} (line : Text)
    (hq : st.question = some sql) : Allows s st (answerAct sql line) := by
  rw [answerAct]
  split
  · exact Allows.confirmed hq (by assumption)
  · exact Allows.decline hq (eq_false_of_ne_true ‹_›)

theorem lawful_takeActs (s : Session σ) (lines : List Text) (st : State σ) :
    Lawful s st (takeActs s lines st) := by
  induction lines generalizing st with
  | nil => exact ⟨Allows.keep, trivial⟩
  | cons line rest ih =>
    rw [takeActs]
    split
    · exact ⟨Allows.keep, trivial⟩
    · rename_i h
      exact ⟨lineAct_allowed line (free_iff.mpr (eq_false_of_ne_true h)), ih _⟩

theorem lawful_receiveActs (s : Session σ) (lines : List Text) (st : State σ) :
    Lawful s st (receiveActs s lines st) := by
  unfold receiveActs
  split
  · rename_i hq
    exact ⟨answerAct_allowed _ hq, lawful_takeActs s _ _⟩
  · exact lawful_takeActs s _ st

theorem lawful_respondActs (s : Session σ) (i : UserInput) (st : State σ) :
    Lawful s st (respondActs s i st) := by
  cases i with
  | line text => exact lawful_receiveActs s [text] st
  | lines texts => exact lawful_receiveActs s texts st
  | interrupt => exact ⟨Allows.interrupt, trivial⟩
  | endOfInput => exact ⟨Allows.close, trivial⟩
  | tab line => exact ⟨Allows.offer, trivial⟩
  | wait elapsed => exact ⟨Allows.elapse, trivial⟩

theorem lawful_momentActs (s : Session σ) (st : State σ) (m : Moment) :
    Lawful s st (momentActs s st m) := by
  cases m with
  | input i =>
    rw [momentActs]
    split
    · trivial
    · exact ⟨Allows.arrive (eq_false_of_ne_true ‹_›), lawful_respondActs s i _⟩
  | resume =>
    cases hr : st.running with
    | none => simp [momentActs, hr, Lawful]
    | some call =>
      simp only [momentActs, hr, Option.isNone_some, Bool.false_eq_true, if_false]
      exact ⟨Allows.resume hr, lawful_takeActs s _ _⟩

theorem lawful_acts (s : Session σ) (moments : List Moment) (st : State σ) :
    Lawful s st (acts s moments st) := by
  induction moments generalizing st with
  | nil => trivial
  | cons m rest ih =>
    refine lawful_append.mpr ⟨lawful_momentActs s st m, ?_⟩
    rw [after_momentActs]
    exact ih _

end SqlShell.Proofs
