import SqlShell.Proofs.Confirmation
import SqlShell.Proofs.Lines

namespace SqlShell.Proofs
open Session (State Moment isComplete)

inductive Fate where
  /-- A line without a text, where none is being entered. -/
  | blank
  | command
  | executed
  /-- The user did not say yes to the text. -/
  | declined
  /-- An interruption dropped the lines. -/
  | cleared
  /-- The line editor did not put the question about the text. -/
  | refused
  deriving DecidableEq, Repr

/-- The text that lines make up. -/
def textOf (lines : List Text) : Text := Text.trim (Text.join [unit '\n'] lines)

/-- Lines that were taken one after the other and have come to the same end. -/
structure Part where
  lines : List Text
  fate : Fate
  deriving DecidableEq, Repr

namespace Part

/-- The text that is handed to the service on account of these lines. -/
def call? (p : Part) : Option Text :=
  match p.fate with
  | .command | .executed => some (textOf p.lines)
  | .blank | .declined | .cleared | .refused => none

/-- The lines are such as can come to this end. -/
def Sound (s : Session σ) (p : Part) : Prop :=
  match p.fate with
  | .blank => ∃ line, p.lines = [line] ∧ Text.trim line = []
  | .command => ∃ line, p.lines = [line] ∧ s.commands.isCommand (Text.trim line) = true
  | .executed | .declined => p.lines ≠ [] ∧ isComplete (textOf p.lines) = true
  | .cleared => p.lines ≠ []
  | .refused =>
    p.lines ≠ [] ∧ isComplete (textOf p.lines) = true ∧ s.mustAsk (textOf p.lines) = true ∧
      s.editor.refusal.isSome = true

end Part

structure Ledger where
  settled : List Part := []
  /-- The lines of the text that the user has been asked about. -/
  asked : List Text := []
  /-- The lines of the text that is being entered. -/
  held : List Text := []

namespace Ledger

def settle (l : Ledger) (lines : List Text) (fate : Fate) : Ledger :=
  { l with settled := l.settled ++ [⟨lines, fate⟩] }

/-- Keeps account of an act. -/
def record (l : Ledger) : Act → Ledger
  | .pass line => l.settle [line] .blank
  | .hold line => { l with held := l.held ++ [line] }
  | .ask line _ => { l with asked := l.held ++ [line], held := [] }
  | .refuse line _ _ => { l.settle (l.held ++ [line]) .refused with held := [] }
  | .run .command line _ => l.settle [line] .command
  | .run .unasked line _ => { l.settle (l.held ++ [line]) .executed with held := [] }
  | .run .confirmed _ _ => { l.settle l.asked .executed with asked := [] }
  | .decline _ _ => { l.settle l.asked .declined with asked := [] }
  | .interrupt => if l.held.isEmpty then l else { l.settle l.held .cleared with held := [] }
  | .arrive _ | .resume | .keep _ | .close | .offer _ | .elapse _ => l

/-- All lines on the ledger, in their order. -/
def lines (l : Ledger) : List Text := l.settled.flatMap Part.lines ++ l.asked ++ l.held

end Ledger

def ledger (acts : List Act) : Ledger := acts.foldl Ledger.record {}

/-- The text that an act hands to the service. -/
def Act.call? : Act → Option Text
  | .run _ _ sql => some sql
  | _ => none

/-- The ledger tells where a session stands. -/
structure Ledger.Current (s : Session σ) (l : Ledger) (st : State σ) : Prop where
  held : l.held = st.buffer
  /-- A question is about the lines of a complete text, and no other text is being entered. -/
  asked : ∀ sql, st.question = some sql →
    sql = textOf l.asked ∧ l.asked ≠ [] ∧ isComplete sql = true ∧ st.buffer = []
  free : st.question = none → l.asked = []
  /-- Beside a run that waits there is neither a question nor a text that is being entered. -/
  alone : ∀ call, st.running = some call → st.question = none ∧ st.buffer = []
  sound : ∀ p ∈ l.settled, p.Sound s
  prompt : st.prompt = if st.buffer.isEmpty then s.mainPrompt else Prompt.continuation

section
variable {s : Session σ} {l : Ledger} {st : State σ} {a : Act}

theorem current_start (s : Session σ) (w : World σ) : Ledger.Current s {} (s.start w) where
  held := rfl
  asked := by simp [Session.start, State.showPrompt, State.emit]
  free := fun _ => rfl
  alone := by simp [Session.start, State.showPrompt, State.emit]
  sound := by simp
  prompt := rfl

theorem textOf_single (line : Text) : textOf [line] = Text.trim line := by
  simp [textOf, Text.join]

namespace Ledger.Current

/-- Lines that are being entered are not those of a question. -/
theorem free_of_held (h : l.Current s st) (hne : l.held ≠ []) : l.asked = [] := by
  cases hq : st.question with
  | none => exact h.free hq
  | some sql =>
    have hb := (h.asked sql hq).2.2.2
    rw [← h.held] at hb
    exact absurd hb hne

theorem lines_record (h : l.Current s st) (ha : Allows s st a) :
    (l.record a).lines = l.lines ++ a.taken?.toList := by
  cases ha with
  | arrive | resume | keep | close | offer | elapse => simp [record, Act.taken?]
  | pass hf hb | command hf hb =>
    simp [record, settle, lines, Act.taken?, h.free hf.question, h.held, hb]
  | hold => simp [record, lines, Act.taken?]
  | ask hf | refuse hf | unasked hf =>
    simp [record, settle, lines, Act.taken?, h.free hf.question]
  | confirmed hq | decline hq =>
    simp [record, settle, lines, Act.taken?, h.held, (h.asked _ hq).2.2.2]
  | interrupt =>
    rw [record]
    split
    · simp [Act.taken?]
    · rename_i hne
      rw [List.isEmpty_iff] at hne
      simp [settle, lines, Act.taken?, h.free_of_held hne]

theorem calls_record (h : l.Current s st) (ha : Allows s st a) :
    (l.record a).settled.filterMap Part.call? =
      l.settled.filterMap Part.call? ++ a.call?.toList := by
  cases ha with
  | arrive | hold | ask | resume | keep | close | offer | elapse => simp [record, Act.call?]
  | pass | refuse | decline => simp [record, settle, Part.call?, Act.call?]
  | command => simp [record, settle, Part.call?, Act.call?, textOf_single]
  | unasked => simp [record, settle, Part.call?, Act.call?, textOf, entered, h.held]
  | confirmed hq => simp [record, settle, Part.call?, Act.call?, (h.asked _ hq).1]
  | interrupt =>
    rw [record]
    split
    · simp [Act.call?]
    · simp [settle, Part.call?, Act.call?]

theorem sound_settle {fate : Fate} {lines : List Text} (h : l.Current s st)
    (hp : Part.Sound s ⟨lines, fate⟩) : ∀ p ∈ (l.settle lines fate).settled, p.Sound s := by
  intro p hm
  rcases List.mem_append.mp hm with hm | hm
  · exact h.sound p hm
  · obtain rfl := List.mem_singleton.mp hm
    exact hp

/-- What leaves the text that is being entered and the question as they are leaves the ledger right,
if no run comes to wait beside them. -/
theorem unchanged {st' : State σ} (h : l.Current s st) (hd : desk st' = desk st)
    (ha : ∀ call, st'.running = some call → st.question = none ∧ st.buffer = []) :
    l.Current s st' := by
  have hb : st'.buffer = st.buffer := congrArg Desk.buffer hd
  have hq : st'.question = st.question := congrArg Desk.question hd
  have hp : st'.prompt = st.prompt := congrArg Desk.prompt hd
  refine ⟨h.held.trans hb.symm, ?_, ?_, ?_, h.sound, ?_⟩
  · rw [hq, hb]
    exact h.asked
  · rw [hq]
    exact h.free
  · rw [hq, hb]
    exact ha
  · rw [hp, hb]
    exact h.prompt

theorem answered {fate : Fate} (h : l.Current s st) (hp : Part.Sound s ⟨l.asked, fate⟩)
    (hb : st.buffer = []) :
    Ledger.Current s { l.settle l.asked fate with asked := [] } { st with question := none } where
  held := h.held
  asked := fun _ hs => absurd hs.symm (Option.some_ne_none _)
  free := fun _ => rfl
  alone := fun _ _ => ⟨rfl, hb⟩
  sound := h.sound_settle hp
  prompt := h.prompt

/-- The text with the lines that are held and one more comes to an end without a question. -/
theorem submitted {fate : Fate} {line : Text} (h : l.Current s st) (hf : Free st)
    (hp : Part.Sound s ⟨l.held ++ [line], fate⟩) :
    Ledger.Current s { l.settle (l.held ++ [line]) fate with held := [] }
      (ready s st .unasked) where
  held := rfl
  asked := fun _ hs => absurd (hs.symm.trans hf.question) (Option.some_ne_none _)
  free := fun _ => h.free hf.question
  alone := fun _ _ => ⟨hf.question, rfl⟩
  sound := h.sound_settle hp
  prompt := rfl

theorem closes (h : l.Current s st) : l.Current s st.close := by
  refine h.unchanged (desk_close st) (fun call hr => h.alone call ?_)
  exact (running_close st).symm.trans hr

theorem step_interrupt (h : l.Current s st) : (l.record .interrupt).Current s (s.interrupt st) := by
  rw [record, h.held, Session.interrupt]
  split
  · split
    · exact h.unchanged rfl h.alone
    · exact h.closes
  · rename_i hne
    rw [List.isEmpty_iff] at hne
    split
    · rename_i hr
      obtain ⟨call, hr⟩ := Option.isSome_iff_exists.mp hr
      exact absurd (h.alone call hr).2 hne
    · rename_i hr
      have hnone : l.asked = [] := h.free_of_held (by rwa [h.held])
      have hcleared : Ledger.Current s { l.settle st.buffer .cleared with held := [] }
          { st with buffer := [], prompt := s.mainPrompt } :=
        { held := rfl
          asked := by
            intro sql hq
            exact absurd (h.asked sql hq).2.2.2 hne
          free := fun _ => hnone
          alone := fun call hw => ⟨(h.alone call hw).1, rfl⟩
          sound := h.sound_settle hne
          prompt := rfl }
      dsimp only
      split
      · exact hcleared.unchanged rfl hcleared.alone
      · exact hcleared.unchanged rfl hcleared.alone

/-- The ledger stays right with every act. -/
theorem step (h : l.Current s st) (ha : Allows s st a) :
    (l.record a).Current s (perform s st a) := by
  cases ha with
  | arrive | offer | elapse => exact h.unchanged rfl h.alone
  | keep => exact ⟨h.held, h.asked, h.free, h.alone, h.sound, h.prompt⟩
  | close => exact h.closes
  | resume hr => exact h.unchanged (desk_goOn s st) (fun _ _ => h.alone _ hr)
  | @pass line hf hb hl =>
    exact { h.unchanged rfl h.alone with sound := h.sound_settle ⟨line, rfl, hl⟩ }
  | @command line hf hb hc =>
    exact { h.unchanged (desk_execute s _ _) (fun _ _ => ⟨hf.question, hb⟩) with
      sound := h.sound_settle ⟨line, rfl, hc⟩ }
  | @hold line hf hj hc =>
    exact
      { held := congrArg (· ++ [line]) h.held
        asked := fun _ hs => absurd (hs.symm.trans hf.question) (Option.some_ne_none _)
        free := h.free
        alone := fun _ hw => absurd (hw.symm.trans hf.running) (Option.some_ne_none _)
        sound := h.sound
        prompt := by simp [perform, State.showPrompt, State.emit] }
  | @ask line hf hj hc hm hput =>
    have hsql : entered st line = textOf (l.held ++ [line]) := by rw [h.held]; rfl
    exact
      { held := rfl
        asked := by
          intro sql hs
          obtain rfl := Option.some.inj hs
          exact ⟨hsql, by simp [record], hc, rfl⟩
        free := fun hs => absurd hs (Option.some_ne_none _)
        alone := fun _ hw => absurd (hw.symm.trans hf.running) (Option.some_ne_none _)
        sound := h.sound
        prompt := rfl }
  | @refuse line f hf hj hc hm hput =>
    have hsql : entered st line = textOf (l.held ++ [line]) := by rw [h.held]; rfl
    have heditor : s.editor.refusal.isSome = true := by
      rw [(refusal_some hput).2]
      rfl
    have hp : Part.Sound s ⟨l.held ++ [line], .refused⟩ :=
      ⟨by simp, hsql ▸ hc, hsql ▸ hm, heditor⟩
    have hsubmitted := h.submitted hf hp
    exact hsubmitted.unchanged rfl hsubmitted.alone
  | @unasked line hf hj hc hm =>
    have hsql : entered st line = textOf (l.held ++ [line]) := by rw [h.held]; rfl
    -- the lines are settled before the text is run, and the run leaves the desk as it is
    have hp : Part.Sound s ⟨l.held ++ [line], .executed⟩ := ⟨by simp, hsql ▸ hc⟩
    have hsubmitted := h.submitted hf hp
    exact hsubmitted.unchanged (desk_execute s _ _) (fun _ _ => ⟨hf.question, rfl⟩)
  | @confirmed sql line hq hy =>
    obtain ⟨rfl, hne, hc, hb⟩ := h.asked sql hq
    have hp : Part.Sound s ⟨l.asked, .executed⟩ := ⟨hne, hc⟩
    exact (h.answered hp hb).unchanged (desk_execute s _ _) (fun _ _ => ⟨rfl, hb⟩)
  | @decline sql line hq hn =>
    obtain ⟨rfl, hne, hc, hb⟩ := h.asked sql hq
    have hp : Part.Sound s ⟨l.asked, .declined⟩ := ⟨hne, hc⟩
    exact (h.answered hp hb).unchanged (desk_decline s _) (fun _ _ => ⟨rfl, hb⟩)
  | interrupt => exact h.step_interrupt

end Ledger.Current

end

theorem handOut_waiting {take : QueryResult → World σ → Except Failure (Option ρ) × World σ}
    {goOn : World σ → Service.Progress σ ρ} {call : Service.Call σ}
    (h : Service.handOut take .ended goOn r ends w = .waiting call v) :
    ∃ u, goOn u = .waiting call v := by
  unfold Service.handOut at h
  split at h
  · split at h
    · contradiction
    · exact ⟨_, h⟩
  · contradiction

/-- A run waits in the midst of the statement that it has come to, or of one behind it. -/
theorem progress_waiting {take : QueryResult → World σ → Except Failure (Option ρ) × World σ}
    {goOn : World σ → Service.Progress σ ρ} {task : Task σ (QueryResult × Bool)}
    {call : Service.Call σ} (h : Service.progress take sql rest goOn task = .waiting call v) :
    (∃ statement, task = .paused v statement ∧ call = ⟨sql, statement, rest⟩) ∨
      ∃ u, goOn u = .waiting call v := by
  cases task with
  | done outcome w => exact .inr (handOut_waiting h)
  | paused w statement =>
    obtain ⟨rfl, rfl⟩ := Service.Progress.waiting.inj h
    exact .inl ⟨statement, rfl, rfl⟩

/-- The run is of `sql`, and it waits in the midst of a statement that it has begun. -/
def Begun (s : Service σ) (sql : Text) (call : Service.Call σ) : Prop :=
  call.sql = sql ∧ ∃ x w v, s.performTask sql x w = .paused v call.statement

theorem advance_begun {s : Service σ}
    {take : QueryResult → World σ → Except Failure (Option ρ) × World σ} {call : Service.Call σ}
    (h : s.advance sql take ss w = .waiting call v) : Begun s sql call := by
  induction ss generalizing w with
  | nil => contradiction
  | cons x rest ih =>
    rcases progress_waiting h with ⟨statement, htask, rfl⟩ | ⟨u, hu⟩
    · exact ⟨rfl, x, w, v, htask⟩
    · exact ih hu

theorem resume_waiting {s : Service σ}
    {take : QueryResult → World σ → Except Failure (Option ρ) × World σ} {c call : Service.Call σ}
    (h : s.resume take c w = .waiting call v) :
    (c.statement w = .paused v call.statement ∧ call.sql = c.sql) ∨ Begun s c.sql call := by
  rcases progress_waiting h with ⟨statement, htask, rfl⟩ | ⟨u, hu⟩
  · exact .inl ⟨htask, rfl⟩
  · exact .inr (advance_begun hu)

theorem resume_sql {s : Service σ}
    {take : QueryResult → World σ → Except Failure (Option ρ) × World σ} {c call : Service.Call σ}
    (h : s.resume take c w = .waiting call v) : call.sql = c.sql :=
  (resume_waiting h).elim And.right And.left

/-- The session has all that a run has come to, and goes on with showing something at most. -/
def Carries (p : Service.Progress σ Unit) (st : State σ) : Prop :=
  match p with
  | .waiting call w => st.running = some call ∧ st.world = w
  | .ended _ w => st.running = none ∧ ∃ shown, st.world = w.emit shown

theorem world_close (st : State σ) : ∃ shown, st.close.world = st.world.emit shown := by
  unfold State.close
  split
  · exact ⟨[], by simp [World.emit]⟩
  · exact ⟨[.closed], rfl⟩

theorem attend_carries (s : Session σ) (p : Service.Progress σ Unit) (st : State σ) :
    Carries p (s.attend p st) := by
  rcases p with ⟨f | _ | _, w⟩ | ⟨call, w⟩
  · refine ⟨rfl, [s.output.errorLine (.concat ["Error: ", f.message]), .prompted st.prompt], ?_⟩
    simp [Session.attend, Session.recover, Output.printError, State.showPrompt, State.emit,
      World.emit]
  · exact ⟨rfl, [.prompted st.prompt], rfl⟩
  · exact ⟨running_close _, world_close _⟩
  · exact ⟨rfl, rfl⟩

/-- What an act has to do with the service. A run begins where none waits and is what the service
makes of its text; what goes on is the run that waits. Nothing else brings anything to the
database, except for what an interruption does to a run that waits. -/
def Serves (s : Session σ) (u : State σ) (a : Act) (v : State σ) : Prop :=
  match a with
  | .run _ _ sql =>
    u.running = none ∧
      Carries (s.service.start sql s.showResult { u.world with aborted := false }) v
  | .resume =>
    ∃ call, u.running = some call ∧ Carries (s.service.resume s.showResult call u.world) v
  | .interrupt =>
    v.running = u.running ∧ (u.running = none → v.world.database = u.world.database)
  | _ => v.running = u.running ∧ v.world.database = u.world.database

theorem database_print {o : Output} {line : Text} {w v : World σ} {outcome : Except Failure Unit}
    (h : o.print line w = (outcome, v)) : v.database = w.database := by
  unfold Output.print at h
  split at h
  · rw [← (Prod.mk.inj h).2]
  · rw [← (Prod.mk.inj h).2]
    rfl

theorem database_close (st : State σ) : st.close.world.database = st.world.database := by
  obtain ⟨shown, h⟩ := world_close st
  rw [h]
  rfl

theorem serves_interrupt (s : Session σ) (st : State σ) :
    Serves s st .interrupt (s.interrupt st) := by
  refine ⟨running_interrupt s st, fun hr => ?_⟩
  unfold Session.interrupt
  rw [hr]
  simp only [Option.isSome_none, Bool.false_eq_true, if_false]
  split
  · exact database_close st
  · cases hp : s.output.print [] st.world with
    | mk outcome w =>
      have hd : w.database = st.world.database := database_print hp
      cases outcome with
      | ok | error => exact hd

theorem serves_decline (s : Session σ) (st : State σ) :
    (decline s st).running = st.running ∧
      (decline s st).world.database = st.world.database := by
  unfold decline
  cases hp : s.output.print "Wise choice!" st.world with
  | mk outcome w =>
    have hd : w.database = st.world.database := database_print hp
    cases outcome with
    | ok | error => exact ⟨rfl, hd⟩

theorem Ledger.Current.serves {s : Session σ} {l : Ledger} {st : State σ} {a : Act}
    (h : l.Current s st) (ha : Allows s st a) : Serves s st a (perform s st a) := by
  have hruns (cause : Cause) (line : Text) {sql : Text} (hr : st.running = none) :
      Serves s st (.run cause line sql) (perform s st (.run cause line sql)) := by
    refine ⟨hr, ?_⟩
    cases cause with
    | command | unasked | confirmed => exact attend_carries s _ _
  cases ha with
  | arrive | pass | hold | ask | refuse | keep | offer | elapse => exact ⟨rfl, rfl⟩
  | command hf | unasked hf => exact hruns _ _ hf.running
  | confirmed hq =>
    cases hr : st.running with
    | none => exact hruns _ _ hr
    | some call =>
      rw [(h.alone call hr).1] at hq
      contradiction
  | decline => exact serves_decline s _
  | resume hr =>
    refine ⟨_, hr, ?_⟩
    rw [perform, Session.goOn, hr]
    exact attend_carries s _ st
  | interrupt => exact serves_interrupt s st
  | close => exact ⟨running_close st, database_close st⟩

/-- The ledger of the past is right: it tells where the session stands, it has the lines that were
taken, in their order and each of them once, and the texts of its parts are those that were handed
to the service. A run that waits is of the last of these texts. -/
structure Balanced (s : Session σ) (past : List Act) (st : State σ) : Prop where
  current : (ledger past).Current s st
  lines : taken past = (ledger past).lines
  calls : past.filterMap Act.call? = (ledger past).settled.filterMap Part.call?
  running : ∀ call, st.running = some call → (past.filterMap Act.call?).getLast? = some call.sql

theorem balanced_start (s : Session σ) (w : World σ) : Balanced s [] (s.start w) :=
  ⟨current_start s w, rfl, rfl, fun _ hr => absurd hr.symm (Option.some_ne_none _)⟩

theorem filterMap_snoc (f : α → Option β) (xs : List α) (x : α) :
    (xs ++ [x]).filterMap f = xs.filterMap f ++ (f x).toList := by
  rw [List.filterMap_append]
  cases h : f x with
  | none => simp [h]
  | some y => simp [h]

theorem Carries.waiting {p : Service.Progress σ Unit} {st : State σ} {call : Service.Call σ}
    (h : Carries p st) (hr : st.running = some call) : ∃ w, p = .waiting call w := by
  cases p with
  | ended answer w =>
    rw [h.1] at hr
    contradiction
  | waiting c w =>
    obtain rfl : c = call := Option.some.inj (h.1.symm.trans hr)
    exact ⟨w, rfl⟩

/-- A run that waits after an act is of the text that the act hands over, or it has waited
before. -/
theorem Serves.running {s : Session σ} {u v : State σ} {a : Act} {call : Service.Call σ}
    (h : Serves s u a v) (hr : v.running = some call) :
    a.call? = some call.sql ∨
      a.call? = none ∧ ∃ c, u.running = some c ∧ c.sql = call.sql := by
  cases a with
  | run cause line sql =>
    obtain ⟨w, hw⟩ := h.2.waiting hr
    exact .inl (congrArg some (advance_begun hw).1.symm)
  | resume =>
    obtain ⟨c, hc, hcarries⟩ := h
    obtain ⟨w, hw⟩ := hcarries.waiting hr
    exact .inr ⟨rfl, c, hc, (resume_sql hw).symm⟩
  | arrive | pass | hold | ask | refuse | decline | keep | interrupt | close | offer | elapse =>
    exact .inr ⟨rfl, call, h.1.symm.trans hr, rfl⟩

theorem Balanced.step {s : Session σ} {past : List Act} {st : State σ} {a : Act}
    (h : Balanced s past st) (ha : Allows s st a) :
    Balanced s (past ++ [a]) (perform s st a) := by
  have hledger : ledger (past ++ [a]) = (ledger past).record a := List.foldl_append
  refine ⟨?_, ?_, ?_, ?_⟩
  · rw [hledger]
    exact h.current.step ha
  · rw [hledger, h.current.lines_record ha, ← h.lines]
    exact filterMap_snoc _ _ _
  · rw [hledger, h.current.calls_record ha, ← h.calls]
    exact filterMap_snoc _ _ _
  · intro call hr
    rw [filterMap_snoc]
    rcases (h.current.serves ha).running hr with hcall | ⟨hcall, c, hc, hsql⟩
    · rw [hcall]
      exact List.getLast?_concat
    · rw [hcall, Option.toList_none, List.append_nil, ← hsql]
      exact h.running c hc

/-- The line completes a text about which a closed line editor does not put the question. -/
def AsksInVain (s : Session σ) (st : State σ) (line : Text) : Prop :=
  Joins s st line ∧ isComplete (entered st line) = true ∧ s.mustAsk (entered st line) = true ∧
    ∃ f, s.refusal? st = some f

theorem asksInVain_iff {s : Session σ} {st : State σ} {a : Act} {line : Text}
    (ha : Allows s st a) (ht : a.taken? = some line) :
    AsksInVain s st line ↔ ∃ sql f, a = .refuse line sql f := by
  constructor
  · rintro ⟨hj, hc, hm, f, hf⟩
    cases ha with
    | arrive | confirmed | decline | resume | keep | interrupt | close | offer | elapse =>
      contradiction
    | pass hfree hb hl =>
      obtain rfl := Option.some.inj ht
      exact absurd hl (hj hb).1
    | command hfree hb hcommand =>
      obtain rfl := Option.some.inj ht
      rw [(hj hb).2] at hcommand
      contradiction
    | hold hfree _ hopen =>
      obtain rfl := Option.some.inj ht
      rw [hc] at hopen
      contradiction
    | ask hfree _ _ _ hput =>
      obtain rfl := Option.some.inj ht
      rw [hf] at hput
      contradiction
    | unasked hfree _ _ hnot =>
      obtain rfl := Option.some.inj ht
      rw [hm] at hnot
      contradiction
    | refuse =>
      obtain rfl := Option.some.inj ht
      exact ⟨_, _, rfl⟩
  · rintro ⟨sql, f, rfl⟩
    cases ha with
    | refuse hfree hj hc hm hput => exact ⟨hj, hc, hm, f, hput⟩

theorem refused_record {l : Ledger} {a : Act} :
    (∃ p ∈ (l.record a).settled, p.fate = .refused) ↔
      (∃ p ∈ l.settled, p.fate = .refused) ∨ ∃ line sql f, a = .refuse line sql f := by
  have hsettle {lines : List Text} {fate : Fate} (hfate : fate ≠ .refused) :
      (∃ p ∈ (l.settle lines fate).settled, p.fate = .refused) ↔
        ∃ p ∈ l.settled, p.fate = .refused := by
    simp [Ledger.settle, or_and_right, exists_or, hfate]
  cases a with
  | arrive | hold | ask | resume | keep | close | offer | elapse => simp [Ledger.record]
  | pass | decline => simpa [Ledger.record] using hsettle (by decide)
  | run cause line sql =>
    cases cause with
    | command | unasked | confirmed => simpa [Ledger.record] using hsettle (by decide)
  | refuse => simp [Ledger.record, Ledger.settle, or_and_right, exists_or]
  | interrupt =>
    rw [Ledger.record]
    split
    · simp
    · simpa using hsettle (by decide)

theorem refused_records (l : Ledger) (acts : List Act) :
    (∃ p ∈ (acts.foldl Ledger.record l).settled, p.fate = .refused) ↔
      (∃ p ∈ l.settled, p.fate = .refused) ∨ ∃ line sql f, .refuse line sql f ∈ acts := by
  induction acts generalizing l with
  | nil => simp
  | cons a acts ih =>
    rw [List.foldl_cons, ih, refused_record]
    simp only [List.mem_cons, exists_or, or_assoc, eq_comm]

/-- Lines are lost to a refused question exactly where a question was refused. -/
theorem refused_ledger (past : List Act) :
    (∃ p ∈ (ledger past).settled, p.fate = .refused) ↔
      ∃ line sql f, .refuse line sql f ∈ past := by
  rw [ledger, refused_records]
  simp

end SqlShell.Proofs
