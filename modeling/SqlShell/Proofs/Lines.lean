import SqlShell.Proofs.Acts

namespace SqlShell.Proofs
open Session (State Moment)

/-- The lines of an input. -/
def linesOf : UserInput → List Text
  | .line text => [text]
  | .lines texts => texts
  | _ => []

/-- The lines that arrive with an act to be taken in their turn. The first of them is none of
these if it answers a question. -/
def entering (st : State σ) : Act → List Text
  | .arrive i => if st.question.isSome then (linesOf i).drop 1 else linesOf i
  | _ => []

/-- The lines that arrive in the course of some acts. -/
def arrivals (s : Session σ) : State σ → List Act → List Text
  | _, [] => []
  | st, a :: acts => entering st a ++ arrivals s (perform s st a) acts

/-- The line that is taken from those that wait. -/
def Act.taken? : Act → Option Text
  | .pass line | .hold line | .ask line _ | .refuse line _ _ => some line
  | .run .command line _ | .run .unasked line _ => some line
  | _ => none

/-- The service is at work in the course of this act. -/
def Act.isCall : Act → Bool
  | .run _ _ _ | .resume => true
  | _ => false

def taken (acts : List Act) : List Text := acts.filterMap Act.taken?

theorem arrivals_append (s : Session σ) (st : State σ) (xs ys : List Act) :
    arrivals s st (xs ++ ys) = arrivals s st xs ++ arrivals s (afterActs s st xs) ys := by
  induction xs generalizing st with
  | nil => rfl
  | cons a xs ih => rw [List.cons_append, arrivals, arrivals, ih, afterActs_cons, List.append_assoc]

theorem taken_append (xs ys : List Act) : taken (xs ++ ys) = taken xs ++ taken ys :=
  List.filterMap_append

theorem taken_lineAct (s : Session σ) (st : State σ) (line : Text) :
    (lineAct s st line).taken? = some line := by
  unfold lineAct
  split
  · rfl
  · split
    · rfl
    · split
      · split
        · split
          · rfl
          · rfl
        · rfl
      · rfl

theorem entering_lineAct (s : Session σ) (st st' : State σ) (line : Text) :
    entering st' (lineAct s st line) = [] := by
  cases h : lineAct s st line with
  | arrive =>
    have ht := taken_lineAct s st line
    rw [h] at ht
    contradiction
  | _ => rfl

theorem arrivals_takeActs (s : Session σ) (lines : List Text) (st : State σ) :
    arrivals s st (takeActs s lines st) = [] := by
  induction lines generalizing st with
  | nil => rfl
  | cons line rest ih =>
    rw [takeActs]
    split
    · rfl
    · rw [arrivals, entering_lineAct, ih]
      rfl

theorem taken_answerAct (sql line : Text) : (answerAct sql line).taken? = none := by
  unfold answerAct
  split
  · rfl
  · rfl

theorem entering_answerAct (st : State σ) (sql line : Text) :
    entering st (answerAct sql line) = [] := by
  unfold answerAct
  split
  · rfl
  · rfl

/-- The lines that are not taken stay in the queue. -/
theorem taken_takeActs (s : Session σ) (lines : List Text) (st : State σ) :
    lines = taken (takeActs s lines st) ++ (s.takeLines lines st).queue := by
  induction lines generalizing st with
  | nil => rfl
  | cons line rest ih =>
    rw [takeActs, Session.takeLines]
    split
    · rfl
    · rw [taken, List.filterMap_cons, taken_lineAct, perform_lineAct]
      exact congrArg (line :: ·) (ih _)

/-- Lines that have arrived are taken, after the first of them if it answers a question. -/
theorem receiveActs_eq (s : Session σ) (i : UserInput) (st : State σ) :
    ∃ answered : Option Act, receiveActs s (linesOf i) st = answered.toList ++
        takeActs s (st.queue ++ entering st (.arrive i)) (afterActs s st answered.toList) ∧
      arrivals s st answered.toList = [] ∧ taken answered.toList = [] := by
  have he : entering st (.arrive i) =
      if st.question.isSome then (linesOf i).drop 1 else linesOf i := rfl
  rw [he]
  generalize linesOf i = lines
  unfold receiveActs
  cases hq : st.question with
  | none => exact ⟨none, rfl, rfl, rfl⟩
  | some sql =>
    cases lines with
    | nil => exact ⟨none, rfl, rfl, rfl⟩
    | cons line rest =>
      refine ⟨some (answerAct sql line), rfl, ?_, ?_⟩
      · rw [Option.toList_some, arrivals, entering_answerAct]
        rfl
      · rw [Option.toList_some, taken, List.filterMap_cons, taken_answerAct]
        rfl

/-- What the session does with an input once it is noted: it attends to lines, or no line is
concerned. -/
theorem respondActs_eq (s : Session σ) (i : UserInput) (st : State σ) :
    respondActs s i st = receiveActs s (linesOf i) st ∨
      (linesOf i = [] ∧ (s.respond i st).queue = st.queue ∧
        arrivals s st (respondActs s i st) = [] ∧ taken (respondActs s i st) = [] ∧
        ∀ a ∈ respondActs s i st, a.isCall = false) := by
  cases i with
  | line | lines => exact .inl rfl
  | interrupt =>
    exact .inr ⟨rfl, (interrupt_keeps s st).1, rfl, rfl, by simp [respondActs, Act.isCall]⟩
  | endOfInput =>
    exact .inr ⟨rfl, congrArg Desk.queue (desk_close st), rfl, rfl,
      by simp [respondActs, Act.isCall]⟩
  | tab | wait => exact .inr ⟨rfl, rfl, rfl, rfl, by simp [respondActs, Act.isCall]⟩

theorem taken_respondActs (s : Session σ) (i : UserInput) (st : State σ) :
    arrivals s st (respondActs s i st) = [] ∧
      st.queue ++ entering st (.arrive i) =
        taken (respondActs s i st) ++ (s.respond i st).queue := by
  rcases respondActs_eq s i st with h | ⟨hl, hq, ha, ht, _⟩
  · obtain ⟨answered, hacts, ha, ht⟩ := receiveActs_eq s i st
    have hafter : s.respond i st = s.takeLines (st.queue ++ entering st (.arrive i))
        (afterActs s st answered.toList) := by
      rw [← after_respondActs, h, hacts, afterActs_append, after_takeActs]
    rw [h, hacts, arrivals_append, ha, arrivals_takeActs, taken_append, ht, hafter]
    exact ⟨rfl, taken_takeActs s _ _⟩
  · refine ⟨ha, ?_⟩
    rw [ht, hq]
    simp [entering, hl]

theorem taken_momentActs (s : Session σ) (st : State σ) (m : Moment) :
    st.queue ++ arrivals s st (momentActs s st m) =
      taken (momentActs s st m) ++ (s.move st m).queue := by
  cases m with
  | input i =>
    rw [momentActs, Session.move]
    split
    · simp [arrivals, taken]
    · obtain ⟨ha, ht⟩ := taken_respondActs s i (perform s st (.arrive i))
      rw [arrivals, ha, List.append_nil]
      exact ht
  | resume =>
    rw [momentActs, Session.move]
    split
    · simp [arrivals, taken]
    · dsimp only
      rw [arrivals, arrivals_takeActs, queue_goOn, List.append_nil]
      change st.queue ++ [] = taken (takeActs s st.queue (s.goOn st)) ++ _
      rw [List.append_nil]
      exact taken_takeActs s st.queue (s.goOn st)

/-- Of the lines that wait or arrive, the first are taken and the others wait in the end. -/
theorem taken_acts (s : Session σ) (moments : List Moment) (st : State σ) :
    st.queue ++ arrivals s st (acts s moments st) =
      taken (acts s moments st) ++ (moments.foldl s.move st).queue := by
  induction moments generalizing st with
  | nil => simp [acts, arrivals, taken]
  | cons m rest ih =>
    rw [acts, arrivals_append, taken_append, after_momentActs, ← List.append_assoc,
      taken_momentActs, List.append_assoc, ih, List.append_assoc, List.foldl_cons]

theorem closed_close (st : State σ) : st.close.closed = true := by
  unfold State.close
  split
  · assumption
  · rfl

theorem closed_attend (s : Session σ) (p : Service.Progress σ Unit) {st : State σ}
    (hc : st.closed = true) : (s.attend p st).closed = true := by
  unfold Session.attend
  split
  · exact hc
  · exact closed_close _
  · exact hc
  · exact hc

/-- A session that is closed stays so, whatever it still does. -/
theorem closed_perform {st : State σ} (s : Session σ) (a : Act) (hc : st.closed = true) :
    (perform s st a).closed = true := by
  cases a with
  | arrive | pass | hold | ask | refuse | keep | offer | elapse => exact hc
  | run cause line sql =>
    cases cause with
    | command | unasked | confirmed => exact closed_attend s _ hc
  | decline line sql =>
    rw [perform, decline]
    split
    · exact hc
    · exact hc
  | resume =>
    rw [perform, Session.goOn]
    split
    · exact hc
    · exact closed_attend s _ hc
  | interrupt =>
    rw [perform, Session.interrupt]
    split
    · exact hc
    · split
      · exact closed_close st
      · dsimp only
        split
        · exact hc
        · exact hc
  | close => exact closed_close st

theorem closed_afterActs {st : State σ} (s : Session σ) (acts : List Act)
    (hc : st.closed = true) : (afterActs s st acts).closed = true := by
  induction acts generalizing st with
  | nil => exact hc
  | cons a acts ih => exact ih (closed_perform s a hc)

/-- No line arrives any more once a session is closed. -/
theorem arrivals_closed (s : Session σ) (moments : List Moment) {st : State σ}
    (hc : st.closed = true) : arrivals s st (acts s moments st) = [] := by
  induction moments generalizing st with
  | nil => rfl
  | cons m rest ih =>
    have hfirst : arrivals s st (momentActs s st m) = [] := by
      cases m with
      | input i => rw [momentActs, if_pos hc, arrivals]
      | resume =>
        rw [momentActs]
        split
        · rfl
        · rw [arrivals, arrivals_takeActs]
          rfl
    have hstill := closed_afterActs s (momentActs s st m) hc
    rw [after_momentActs] at hstill
    rw [acts, arrivals_append, hfirst, after_momentActs, ih hstill]
    rfl

/-- After an act that keeps no lines back, the session goes on to take the lines that wait. -/
theorem takeActs_resumes {s : Session σ} {lines : List Text} {st : State σ}
    {before after : List Act} {a : Act} (h : takeActs s lines st = before ++ a :: after)
    (ha : ∀ kept, a ≠ .keep kept) :
    ∃ waiting, lines = taken (before ++ [a]) ++ waiting ∧
      after = takeActs s waiting (afterActs s st (before ++ [a])) := by
  have honly {kept : List Text} {before : List Act}
      (h : [.keep kept] = before ++ a :: after) : False :=
    ha kept (List.mem_singleton.mp (by simp [h]))
  induction lines generalizing st before with
  | nil => exact (honly h).elim
  | cons line rest ih =>
    rw [takeActs] at h
    split at h
    · exact (honly h).elim
    · cases before with
      | nil =>
        obtain ⟨rfl, rfl⟩ := List.cons.inj h
        refine ⟨rest, ?_, rfl⟩
        rw [List.nil_append, taken, List.filterMap_cons, taken_lineAct]
        rfl
      | cons b before =>
        obtain ⟨hb, hrest⟩ := List.cons.inj h
        subst hb
        obtain ⟨waiting, hlines, hafter⟩ := ih hrest
        refine ⟨waiting, ?_, hafter⟩
        rw [List.cons_append, taken, List.filterMap_cons, taken_lineAct]
        exact congrArg (line :: ·) hlines

/-- The service has been at work at the end of `past`. What the session does then is to take the
lines that have arrived and wait. -/
def Resumes (s : Session σ) (st : State σ) (past now : List Act) (waiting : List Text) : Prop :=
  st.queue ++ arrivals s st past = taken past ++ waiting ∧
    now = takeActs s waiting (afterActs s st past)

theorem not_keep {a : Act} (ha : a.isCall = true) (kept : List Text) : a ≠ .keep kept := by
  rintro rfl
  contradiction

theorem receiveActs_resumes {s : Session σ} {st : State σ} {i : UserInput}
    {before after : List Act} {a : Act} (ha : a.isCall = true)
    (h : receiveActs s (linesOf i) st = before ++ a :: after) :
    ∃ waiting, st.queue ++ entering st (.arrive i) = taken (before ++ [a]) ++ waiting ∧
      after = takeActs s waiting (afterActs s st (before ++ [a])) := by
  obtain ⟨answered, hacts, _, hout⟩ := receiveActs_eq s i st
  rw [hacts] at h
  cases answered with
  | none => exact takeActs_resumes h (not_keep ha)
  | some b =>
    cases before with
    | nil =>
      obtain ⟨hb, hafter⟩ := List.cons.inj h
      subst hb
      refine ⟨_, ?_, hafter.symm⟩
      exact (congrArg (· ++ _) hout).symm
    | cons c before =>
      obtain ⟨hb, hrest⟩ := List.cons.inj h
      subst hb
      obtain ⟨waiting, hlines, hafter⟩ := takeActs_resumes hrest (not_keep ha)
      refine ⟨waiting, ?_, hafter⟩
      have hnone : taken [b] = [] := hout
      rw [List.cons_append, ← List.singleton_append, taken_append, hnone]
      exact hlines

theorem inputActs_resumes {s : Session σ} {st : State σ} {i : UserInput} {before after : List Act}
    {a : Act} (ha : a.isCall = true)
    (h : momentActs s st (.input i) = before ++ a :: after) :
    ∃ waiting, Resumes s st (before ++ [a]) after waiting := by
  rw [momentActs] at h
  split at h
  · simp at h
  · cases before with
    | nil =>
      obtain ⟨rfl, -⟩ := List.cons.inj h
      contradiction
    | cons b before =>
      obtain ⟨hb, hrest⟩ := List.cons.inj h
      subst hb
      change respondActs s i _ = before ++ a :: after at hrest
      -- no line arrives while the session responds, so none does before the act
      have hin := (taken_respondActs s i (perform s st (.arrive i))).1
      rcases respondActs_eq s i (perform s st (.arrive i)) with hr | ⟨_, _, _, _, hnone⟩
      · rw [hrest, List.append_cons, arrivals_append] at hin
        rw [hr] at hrest
        obtain ⟨waiting, hlines, hafter⟩ := receiveActs_resumes ha hrest
        refine ⟨waiting, ?_, hafter⟩
        rw [List.cons_append, arrivals, (List.append_eq_nil_iff.mp hin).1, List.append_nil]
        exact hlines
      · rw [hnone a (by simp [hrest])] at ha
        contradiction

theorem resumeActs_resumes {s : Session σ} {st : State σ} {before after : List Act} {a : Act}
    (ha : a.isCall = true) (h : momentActs s st .resume = before ++ a :: after) :
    ∃ waiting, Resumes s st (before ++ [a]) after waiting := by
  rw [momentActs] at h
  split at h
  · simp at h
  · cases before with
    | nil =>
      obtain ⟨hfirst, hafter⟩ := List.cons.inj h
      subst hfirst
      refine ⟨st.queue, ?_, hafter.symm⟩
      simp [arrivals, entering, taken, Act.taken?]
    | cons b before =>
      obtain ⟨hb, hrest⟩ := List.cons.inj h
      subst hb
      change takeActs s st.queue _ = before ++ a :: after at hrest
      obtain ⟨waiting, hlines, hafter⟩ := takeActs_resumes hrest (not_keep ha)
      refine ⟨waiting, ?_, hafter⟩
      have hin := arrivals_takeActs s st.queue (perform s st .resume)
      rw [hrest, List.append_cons, arrivals_append] at hin
      rw [List.cons_append, arrivals, (List.append_eq_nil_iff.mp hin).1]
      exact (List.append_nil _).trans hlines

theorem momentActs_resumes {s : Session σ} {st : State σ} {m : Moment} {before after : List Act}
    {a : Act} (ha : a.isCall = true) (h : momentActs s st m = before ++ a :: after) :
    ∃ waiting, Resumes s st (before ++ [a]) after waiting := by
  cases m with
  | input i => exact inputActs_resumes ha h
  | resume => exact resumeActs_resumes ha h

theorem Resumes.before {s : Session σ} {st : State σ} {past now : List Act} {waiting : List Text}
    (m : Moment) (h : Resumes s (s.move st m) past now waiting) :
    Resumes s st (momentActs s st m ++ past) now waiting := by
  obtain ⟨hlines, hnow⟩ := h
  refine ⟨?_, ?_⟩
  · rw [arrivals_append, taken_append, after_momentActs, ← List.append_assoc, taken_momentActs,
      List.append_assoc, hlines, List.append_assoc]
  · rw [afterActs_append, after_momentActs]
    exact hnow

/-- After the service has been at work the lines that wait are taken first, and only then the
session attends to what comes next. -/
theorem acts_resume {s : Session σ} {moments : List Moment} {st : State σ}
    {before after : List Act} {a : Act} (ha : a.isCall = true)
    (h : acts s moments st = before ++ a :: after) :
    ∃ waiting now more, Resumes s st (before ++ [a]) now waiting ∧
      after = now ++ acts s more (afterActs s (afterActs s st (before ++ [a])) now) := by
  induction moments generalizing st before with
  | nil => simp [acts] at h
  | cons m rest ih =>
    have hlater {between : List Act} (hbefore : before = momentActs s st m ++ between)
        (hrest : acts s rest (s.move st m) = between ++ a :: after) :
        ∃ waiting now more, Resumes s st (before ++ [a]) now waiting ∧
          after = now ++ acts s more (afterActs s (afterActs s st (before ++ [a])) now) := by
      obtain ⟨waiting, now, more, hr, hafter⟩ := ih hrest
      refine ⟨waiting, now, more, ?_, ?_⟩
      · rw [hbefore, List.append_assoc]
        exact hr.before m
      · rw [hbefore, List.append_assoc, afterActs_append, after_momentActs]
        exact hafter
    rw [acts] at h
    -- the act belongs to a later moment, or to this one
    rcases List.append_eq_append_iff.mp h with ⟨between, hbefore, hrest⟩ | ⟨between, hnow, hrest⟩
    · exact hlater hbefore hrest
    · cases between with
      | nil =>
        have hall : before = momentActs s st m ++ [] := by simp [hnow]
        exact hlater hall hrest.symm
      | cons b between =>
        obtain ⟨hb, hafter⟩ := List.cons.inj hrest
        subst hb
        obtain ⟨waiting, hr⟩ := momentActs_resumes ha hnow
        refine ⟨waiting, between, rest, hr, ?_⟩
        rw [← afterActs_append, ← List.append_cons, ← hnow, after_momentActs]
        exact hafter

end SqlShell.Proofs
