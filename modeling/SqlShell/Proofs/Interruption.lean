import Mathlib.Data.List.Basic
import Mathlib.Order.Bounds.Defs
import SqlShell.Proofs.Results

namespace SqlShell.Proofs

/-- The world after a step of reading, with what others do behind it. -/
def afterStep (s : Service σ) (count : Nat) (step : RowStep) (w : World σ) : World σ :=
  let w := s.connection.interruptIf step.interrupted w
  if (count + 1) % s.stride = 0 then s.connection.interruptIf step.interruptedBehind w else w

/-- The world after some steps of reading that begin when `count` rows are there. -/
def afterSteps (s : Service σ) : Nat → List RowStep → World σ → World σ
  | _, [], w => w
  | count, step :: rest, w => afterSteps s (count + 1) rest (afterStep s count step w)

/-- The run has not been told to stop at any look that is due while these steps are taken. -/
def GoesOn (s : Service σ) (count : Nat) (steps : List RowStep) (w : World σ) : Prop :=
  ∀ k, 0 < k → k ≤ steps.length → (count + k) % s.stride = 0 →
    (afterSteps s count (steps.take k) w).aborted = false

/-- The outcome of reading on, with the rows that have been read before in front. -/
def readBefore (rows : List Row) (r : Except Failure (List (List Text)) × World σ) :
    Except Failure (List (List Text)) × World σ :=
  (r.1.map (rows.map (List.map Datum.display) ++ ·), r.2)

section
variable {s : Service σ} {w : World σ} {count : Nat} {step : RowStep} {front : List RowStep}
  {row : Row} {rows : List Row}

theorem afterSteps_append (xs ys : List RowStep) :
    afterSteps s count (xs ++ ys) w =
      afterSteps s (count + xs.length) ys (afterSteps s count xs w) := by
  induction xs generalizing count w with
  | nil => rfl
  | cons step xs ih =>
    have hcount : count + (step :: xs).length = count + 1 + xs.length := by
      simp only [List.length_cons]
      omega
    rw [List.cons_append, afterSteps, afterSteps, ih, hcount]

theorem readBefore_nil (r : Except Failure (List (List Text)) × World σ) :
    readBefore [] r = r := by
  obtain ⟨outcome, v⟩ := r
  cases outcome with
  | error f => rfl
  | ok rows => rfl

theorem readBefore_cons (row : Row) (rows : List Row)
    (r : Except Failure (List (List Text)) × World σ) :
    readBefore [row] (readBefore rows r) = readBefore (row :: rows) r := by
  obtain ⟨outcome, v⟩ := r
  cases outcome with
  | error f => rfl
  | ok rows => rfl

/-- A row is read, and unless a look behind it finds that the query is to stop, reading goes on. -/
theorem readRows_cons (hrow : step.outcome = .ok row) (others : List RowStep) :
    s.readRows count (step :: others) w =
      if (count + 1) % s.stride = 0 ∧ (afterStep s count step w).aborted = true then
        (.error .cancelled, afterStep s count step w)
      else readBefore [row] (s.readRows (count + 1) others (afterStep s count step w)) := by
  rw [Service.readRows, Service.rowsTask, hrow, afterStep]
  dsimp only
  by_cases hlook : (count + 1) % s.stride = 0
  · simp only [hlook, if_true, true_and, Task.finish]
    split
    · rfl
    · rw [Task.finish_map]
      rfl
  · simp only [hlook, if_false, false_and]
    rw [Task.finish_map]
    rfl

theorem readRows_row (hrow : step.outcome = .ok row)
    (hlook : (count + 1) % s.stride = 0 → (afterStep s count step w).aborted = false)
    (others : List RowStep) :
    s.readRows count (step :: others) w =
      readBefore [row] (s.readRows (count + 1) others (afterStep s count step w)) := by
  rw [readRows_cons hrow]
  apply if_neg
  rintro ⟨hdue, ha⟩
  rw [hlook hdue] at ha
  exact Bool.false_ne_true ha

theorem readRows_halt (hrow : step.outcome = .ok row) (hlook : (count + 1) % s.stride = 0)
    (ha : (afterStep s count step w).aborted = true) (others : List RowStep) :
    s.readRows count (step :: others) w = (.error .cancelled, afterStep s count step w) := by
  rw [readRows_cons hrow]
  exact if_pos ⟨hlook, ha⟩

/-- As long as no look finds anything, rows are read one after the other. -/
theorem readRows_front (hrows : front.map RowStep.outcome = rows.map .ok)
    (hlooks : GoesOn s count front w) (others : List RowStep) :
    s.readRows count (front ++ others) w = readBefore rows
      (s.readRows (count + front.length) others (afterSteps s count front w)) := by
  induction front generalizing rows count w with
  | nil =>
    obtain rfl : rows = [] := by simpa using hrows.symm
    exact (readBefore_nil _).symm
  | cons step front ih =>
    cases rows with
    | nil => simp at hrows
    | cons row rows =>
      obtain ⟨hrow, hrest⟩ := List.cons.inj hrows
      have hlook : (count + 1) % s.stride = 0 → (afterStep s count step w).aborted = false :=
        hlooks 1 (Nat.le_refl _) (by simp)
      have hlater : GoesOn s (count + 1) front (afterStep s count step w) := by
        intro k hpos hk hmod
        apply hlooks (k + 1) (Nat.succ_pos k) (Nat.succ_le_succ hk)
        rwa [Nat.add_comm k, ← Nat.add_assoc]
      have hcount : count + (step :: front).length = count + 1 + front.length := by
        simp only [List.length_cons]
        omega
      rw [List.cons_append, readRows_row hrow hlook, ih hrest hlater, readBefore_cons, hcount]
      rfl

end

/-- When the user interrupts a query for the first time. -/
inductive Gap where
  /-- While the database makes the statement ready. -/
  | preparing
  /-- While row `i` is asked for. -/
  | asking (i : Nat)
  /-- While others go first behind the first `i` rows. -/
  | behind (i : Nat)
  deriving DecidableEq

/-- The user interrupts before it is looked behind `k` rows whether the query is to stop. -/
def Gap.Precedes : Gap → Nat → Prop
  | preparing, k => 0 < k
  | asking i, k => i < k
  | behind i, k => i ≤ k

/-- The user does not interrupt while these steps are taken, with `count` rows before them. -/
def Quiet (s : Service σ) : Nat → List RowStep → Prop
  | _, [] => True
  | count, step :: rest =>
    step.interrupted = false ∧ ((count + 1) % s.stride = 0 → step.interruptedBehind = false) ∧
      Quiet s (count + 1) rest

/-- The user interrupts at this point of the reading that begins in world `v`, and not before. -/
inductive InterruptedAt (s : Service σ) (steps : List RowStep) (v : World σ) : Gap → Prop
  | preparing (ha : v.aborted = true) : InterruptedAt s steps v .preparing
  | asking (ha : v.aborted = false) (hq : Quiet s 0 (steps.take i)) (hs : steps[i]? = some step)
      (hi : step.interrupted = true) : InterruptedAt s steps v (.asking i)
  | behind (ha : v.aborted = false) (hq : Quiet s 0 (steps.take i)) (hs : steps[i]? = some step)
      (hn : step.interrupted = false) (hd : s.stride ∣ i + 1)
      (hi : step.interruptedBehind = true) : InterruptedAt s steps v (.behind (i + 1))

/-- An interruption tells the run to stop. -/
def Interrupts (c : Connection σ) : Prop := ∀ w, (c.interrupt w).aborted = true

/-- The count of rows at the first look behind the interruption. -/
def Gap.nextLook (s : Service σ) : Gap → Nat
  | preparing => s.stride
  | asking i => s.stride * (i / s.stride + 1)
  | behind i => i

/-- The look behind `m` rows is the first that can find that the query is to stop. -/
structure FoundAt (s : Service σ) (steps : List RowStep) (v : World σ) (m : Nat) : Prop where
  due : s.stride ∣ m
  positive : 0 < m
  goesOn (j : Nat) (hj : j < m) : GoesOn s 0 (steps.take j) v
  aborted (j : Nat) (hj : m ≤ j) : (afterSteps s 0 (steps.take j) v).aborted = true

/-- What comes of reading is settled by the first `m` steps, and each of them is come to: a failure
in its place is what comes out. -/
structure ReadsExactly (s : Service σ) (steps : List RowStep) (w : World σ) (m : Nat) : Prop where
  enough (others : List RowStep) : s.readRows 0 (steps.take m ++ others) w = s.readRows 0 steps w
  needed (k : Nat) (hk : k < m) (f : Failure) (others : List RowStep) :
    (s.readRows 0 (steps.take k ++ { interrupted := false, outcome := .error f } :: others) w).1 =
      .error f

theorem stride_pos (s : Service σ) : 0 < s.stride :=
  Nat.lt_of_lt_of_le Nat.one_pos (Nat.le_max_left ..)

section
variable {s : Service σ} {w : World σ} {steps : List RowStep} {rows : List Row} {gap : Gap}
  {i j m count : Nat}

theorem interruptIf_aborted {c : Connection σ} (hc : Interrupts c) (interrupted : Bool)
    (ha : w.aborted = true) : (c.interruptIf interrupted w).aborted = true := by
  cases interrupted with
  | true => exact hc w
  | false => exact ha

theorem interruptIf_true {c : Connection σ} (hc : Interrupts c) {interrupted : Bool}
    (hi : interrupted = true) : (c.interruptIf interrupted w).aborted = true := by
  rw [hi]
  exact hc w

theorem afterStep_aborted (hc : Interrupts s.connection) (step : RowStep)
    (ha : w.aborted = true) : (afterStep s count step w).aborted = true := by
  have hasked := interruptIf_aborted hc step.interrupted ha
  rw [afterStep]
  split
  · exact interruptIf_aborted hc _ hasked
  · exact hasked

theorem afterStep_interrupted (hc : Interrupts s.connection) {step : RowStep}
    (hi : step.interrupted = true) : (afterStep s count step w).aborted = true := by
  have hasked : (s.connection.interruptIf step.interrupted w).aborted = true :=
    interruptIf_true hc hi
  rw [afterStep]
  split
  · exact interruptIf_aborted hc _ hasked
  · exact hasked

theorem afterStep_interruptedBehind (hc : Interrupts s.connection) {step : RowStep}
    (hd : s.stride ∣ count + 1) (hi : step.interruptedBehind = true) :
    (afterStep s count step w).aborted = true := by
  rw [afterStep, if_pos (Nat.mod_eq_zero_of_dvd hd)]
  exact interruptIf_true hc hi

theorem afterSteps_aborted (hc : Interrupts s.connection) (ha : w.aborted = true) :
    (afterSteps s count steps w).aborted = true := by
  induction steps generalizing count w with
  | nil => exact ha
  | cons step steps ih => exact ih (afterStep_aborted hc step ha)

theorem afterSteps_quiet (h : Quiet s count steps) : afterSteps s count steps w = w := by
  induction steps generalizing count with
  | nil => rfl
  | cons step steps ih =>
    obtain ⟨hasked, hbehind, hrest⟩ := h
    have hstep : afterStep s count step w = w := by
      rw [afterStep, hasked]
      split
      · rename_i hdue
        rw [hbehind hdue]
        rfl
      · rfl
    rw [afterSteps, hstep]
    exact ih hrest

theorem Quiet.take (h : Quiet s count steps) (k : Nat) : Quiet s count (steps.take k) := by
  induction steps generalizing count k with
  | nil => rwa [List.take_nil]
  | cons step steps ih =>
    cases k with
    | zero => trivial
    | succ k =>
      obtain ⟨hasked, hbehind, hrest⟩ := h
      exact ⟨hasked, hbehind, ih hrest k⟩

/-- After a step that ends with the run told to stop, it stays told. -/
theorem aborted_from (hc : Interrupts s.connection) {step : RowStep} (hs : steps[i]? = some step)
    (hj : i < j) (h : ∀ w : World σ, (afterStep s i step w).aborted = true) :
    (afterSteps s 0 (steps.take j) w).aborted = true := by
  obtain ⟨hi, rfl⟩ := List.getElem?_eq_some_iff.mp hs
  have htake : steps.take j =
      steps.take i ++ (steps[i] :: (steps.drop (i + 1)).take (j - i - 1)) := by
    have hsplit : j = i + (1 + (j - i - 1)) := by omega
    conv_lhs => rw [hsplit, List.take_add, List.drop_eq_getElem_cons hi, Nat.add_comm 1]
    rfl
  have hlength : 0 + (steps.take i).length = i := by
    rw [List.length_take]
    omega
  rw [htake, afterSteps_append, hlength, afterSteps]
  exact afterSteps_aborted hc (h _)

/-- Looks that come while the user has not interrupted find nothing. -/
theorem goesOn_quiet (ha : w.aborted = false) (hq : Quiet s 0 (steps.take i))
    (hlast : ∀ k, 0 < k → k ≤ j → s.stride ∣ k → k ≤ i) : GoesOn s 0 (steps.take j) w := by
  intro k hpos hk hmod
  rw [Nat.zero_add] at hmod
  rw [List.length_take] at hk
  have hearly : k ≤ i := hlast k hpos (by omega) (Nat.dvd_of_mod_eq_zero hmod)
  have hquiet : Quiet s 0 (steps.take k) := by
    have h := hq.take k
    rwa [List.take_take, Nat.min_eq_left hearly] at h
  rw [List.take_take, Nat.min_eq_left (by omega), afterSteps_quiet hquiet]
  exact ha

/-- The first look behind an interruption is the first that finds it. -/
theorem InterruptedAt.foundAt (h : InterruptedAt s steps w gap) (hc : Interrupts s.connection) :
    FoundAt s steps w (gap.nextLook s) := by
  cases h with
  | preparing ha =>
    refine ⟨Nat.dvd_refl _, stride_pos s, ?_, fun j _ => afterSteps_aborted hc ha⟩
    -- no look is due before the first
    intro j hj k hpos hk hmod
    rw [Nat.zero_add] at hmod
    rw [List.length_take] at hk
    have hle := Nat.le_of_dvd hpos (Nat.dvd_of_mod_eq_zero hmod)
    have hlook : j < s.stride := hj
    omega
  | @asking i step ha hq hs hi =>
    have hlate : i < (Gap.asking i).nextLook s := Nat.lt_mul_div_succ i (stride_pos s)
    refine ⟨Nat.dvd_mul_right _ _, Nat.lt_of_le_of_lt (Nat.zero_le i) hlate, ?_, ?_⟩
    · intro j hj
      apply goesOn_quiet ha hq
      rintro k hpos hk ⟨q, rfl⟩
      apply Nat.le_of_lt_succ
      by_contra hover
      have hnext : i / s.stride + 1 ≤ q := Nat.div_lt_of_lt_mul (by omega)
      have hle : s.stride * (i / s.stride + 1) ≤ s.stride * q := Nat.mul_le_mul_left _ hnext
      have hlook : j < s.stride * (i / s.stride + 1) := hj
      omega
    · intro j hj
      exact aborted_from hc hs (Nat.lt_of_lt_of_le hlate hj)
        (fun w => afterStep_interrupted hc hi)
  | @behind i step ha hq hs hn hd hi =>
    refine ⟨hd, Nat.succ_pos i, ?_, ?_⟩
    · intro j hj
      apply goesOn_quiet ha hq
      intro k _ hk _
      have hlook : j < i + 1 := hj
      omega
    · intro j hj
      exact aborted_from hc hs hj (fun w => afterStep_interruptedBehind hc hd hi)

/-- The first look behind an interruption, as a count of rows. -/
theorem nextLook_isLeast (h : InterruptedAt s steps w gap) :
    IsLeast {k | s.stride ∣ k ∧ gap.Precedes k} (gap.nextLook s) := by
  cases h with
  | preparing =>
    refine ⟨⟨Nat.dvd_refl _, stride_pos s⟩, ?_⟩
    rintro k ⟨hd, hpos⟩
    exact Nat.le_of_dvd hpos hd
  | @asking i =>
    refine ⟨⟨Nat.dvd_mul_right _ _, Nat.lt_mul_div_succ i (stride_pos s)⟩, ?_⟩
    rintro k ⟨⟨j, rfl⟩, hi⟩
    apply Nat.mul_le_mul_left
    exact Nat.div_lt_of_lt_mul hi
  | @behind i step _ _ _ _ hd =>
    refine ⟨⟨hd, Nat.le_refl _⟩, ?_⟩
    rintro k ⟨-, hk⟩
    exact hk

/-- There is such a look if the interruption comes before the last of all looks. -/
theorem nextLook_le_iff (h : InterruptedAt s steps w gap) (n : Nat) :
    gap.nextLook s ≤ n ↔ gap.Precedes (s.stride * (n / s.stride)) := by
  have hleast := nextLook_isLeast h
  constructor
  · intro hn
    obtain ⟨⟨q, hq⟩, hp⟩ := hleast.1
    have hle : gap.nextLook s ≤ s.stride * (n / s.stride) := by
      rw [hq] at hn ⊢
      apply Nat.mul_le_mul_left
      rwa [Nat.le_div_iff_mul_le (stride_pos s), Nat.mul_comm]
    cases gap with
    | preparing => exact Nat.lt_of_lt_of_le hp hle
    | asking i => exact Nat.lt_of_lt_of_le hp hle
    | behind i => exact Nat.le_trans hp hle
  · intro hp
    exact Nat.le_trans (hleast.2 ⟨Nat.dvd_mul_right _ _, hp⟩) (Nat.mul_div_le n s.stride)

theorem length_of_outcomes (hrows : steps.map RowStep.outcome = rows.map .ok) :
    steps.length = rows.length := by
  simpa using congrArg List.length hrows

section
variable (h : FoundAt s steps w m) (hrows : steps.map RowStep.outcome = rows.map .ok)
include h hrows

theorem readRows_passes (hj : j < m) (hn : j ≤ rows.length) (others : List RowStep) :
    s.readRows 0 (steps.take j ++ others) w = readBefore (rows.take j)
      (s.readRows j others (afterSteps s 0 (steps.take j) w)) := by
  have hfront : (steps.take j).map RowStep.outcome = (rows.take j).map .ok := by
    simp only [List.map_take, hrows]
  have hlength := length_of_outcomes hrows
  have hcount : 0 + (steps.take j).length = j := by
    simp only [List.length_take]
    omega
  rw [readRows_front hfront (h.goesOn j hj), hcount]

/-- A look that comes before the rows end stops the query. -/
theorem readRows_stopped (hn : m ≤ rows.length) (others : List RowStep) :
    s.readRows 0 (steps.take m ++ others) w =
      (.error .cancelled, afterSteps s 0 (steps.take m) w) := by
  obtain ⟨j, rfl⟩ : ∃ j, m = j + 1 := Nat.exists_eq_add_one.mpr h.positive
  have hlength := length_of_outcomes hrows
  have hlast : j < steps.length := by omega
  have htake : steps.take (j + 1) = steps.take j ++ [steps[j]] :=
    (List.take_append_getElem hlast).symm
  have hcount : 0 + (steps.take j).length = j := by
    simp only [List.length_take]
    omega
  have hafter : afterSteps s 0 (steps.take (j + 1)) w =
      afterStep s j steps[j] (afterSteps s 0 (steps.take j) w) := by
    rw [htake, afterSteps_append, hcount]
    rfl
  have haborted := h.aborted (j + 1) (Nat.le_refl _)
  obtain ⟨row, hrow⟩ : ∃ row, steps[j].outcome = .ok row := by
    have hm : steps[j].outcome ∈ rows.map .ok :=
      hrows ▸ List.mem_map_of_mem (List.getElem_mem hlast)
    obtain ⟨row, -, hrow⟩ := List.mem_map.mp hm
    exact ⟨row, hrow.symm⟩
  rw [hafter] at haborted ⊢
  rw [htake, List.append_assoc, readRows_passes h hrows (by omega) (by omega),
    List.singleton_append, readRows_halt hrow (Nat.mod_eq_zero_of_dvd h.due) haborted]
  rfl

/-- Without such a look all rows are read. -/
theorem readRows_finished (hn : rows.length < m) :
    s.readRows 0 steps w =
      (.ok (rows.map (List.map Datum.display)), afterSteps s 0 steps w) := by
  have hlength := length_of_outcomes hrows
  have hall := readRows_passes h hrows hn (Nat.le_refl _) []
  rw [← hlength, List.take_length, List.append_nil] at hall
  rw [hall, hlength, List.take_length]
  simp [Service.readRows_nil, readBefore, Except.map]

theorem readsExactly (hn : m ≤ rows.length) : ReadsExactly s steps w m where
  enough others := by
    have hwhole := readRows_stopped h hrows hn (steps.drop m)
    rw [List.take_append_drop] at hwhole
    rw [readRows_stopped h hrows hn, hwhole]
  needed k hk f others := by
    rw [readRows_passes h hrows hk (by omega), Service.readRows_error rfl]
    simp [readBefore, Except.map]

end

end

/-- The world in which the database is asked for a statement. -/
def announced (s : Service σ) (x : Statement) (w : World σ) : World σ :=
  w.emit (s.logger.debug (.concat ["Executing: ", Text.trim x.text]))

/-- A statement of a run comes to the database as a query `p` for `rows`, which are asked for from
world `v` on, and all goes well but that the user interrupts. -/
structure InterruptedQuery (s : Service σ) (t : Turn σ) (p : Prepared) (v : World σ)
    (columns : List Text) (rows : List Row) (gap : Gap) : Prop where
  started : t.before.aborted = false
  isSql : s.commandFor? (Text.trim t.statement.text) = none
  prepared : s.connection.prepare t.statement.text (announced s t.statement t.before) = (.ok p, v)
  runs : p.failure = none
  columns : p.columns = some columns
  rows : p.steps.map RowStep.outcome = rows.map .ok
  interrupted : InterruptedAt s p.steps v gap

/-- The result of a query that has not been stopped. -/
def wholeResult (text : Text) (columns : List Text) (rows : List Row) (elapsed : Millis) :
    QueryResult where
  statement := text
  columns := columns
  rows := rows.map (List.map Datum.display)
  rowCount := rows.length
  status := rowsInSet rows.length
  elapsed := elapsed

/-- An interruption tells the run to stop, and nothing takes that back. -/
structure Irrevocable (s : Service σ) (watch : QueryResult → World σ → World σ) : Prop where
  interrupts : Interrupts s.connection
  refresh : ∀ change ∈ s.onSchemaChange, ∀ w : World σ, w.aborted = true →
    (change w).2.aborted = true
  watch (r : QueryResult) (w : World σ) : w.aborted = true → (watch r w).aborted = true

/-- What becomes of a query that is interrupted, and of the statements behind it. -/
structure Settled (s : Service σ) (t : Turn σ) (behind : List Statement) (after : List (Turn σ))
    (p : Prepared) (v : World σ) (columns : List Text) (rows : List Row) (gap : Gap) : Prop where
  cancelled_iff : t.result.cancelled = true ↔
    gap.Precedes (s.yieldEvery * (rows.length / s.yieldEvery))
  stopped : t.result.cancelled = true →
    t.result = .stopped (Text.trim t.statement.text) t.result.elapsed ∧ after = [] ∧
      ∃ m, IsLeast {k | s.yieldEvery ∣ k ∧ gap.Precedes k} m ∧ ReadsExactly s p.steps v m
  finished : t.result.cancelled = false →
    t.result =
        wholeResult (Text.trim t.statement.text) columns rows t.result.elapsed ∧
      after.map Turn.statement = behind.take 1 ∧
      ∀ u ∈ after, u.result = .stopped (Text.trim u.statement.text) 0 ∧
        u.deeds s = [.skip, .yield u.result]
  notified : .notify ∈ t.deeds s ↔
    t.result.cancelled = false ∧ t.statement.altersSchema = true

section
variable {s : Service σ} {sql : Text} {watch : QueryResult → World σ → World σ} {t : Turn σ}
  {p : Prepared} {v w : World σ} {columns : List Text} {rows : List Row} {gap : Gap}

theorem stride_eq (hy : 0 < s.yieldEvery) : s.stride = s.yieldEvery := Nat.max_eq_right hy

theorem notify_aborted (hs : Irrevocable s watch) (ha : w.aborted = true) :
    (s.notifySchemaChange w).aborted = true := by
  rw [Service.notifySchemaChange]
  cases hchange : s.onSchemaChange with
  | none => exact ha
  | some change =>
    have hkept := hs.refresh change hchange w ha
    dsimp only
    cases hout : change w with
    | mk outcome u =>
      rw [hout] at hkept
      cases outcome with
      | ok _ => exact hkept
      | error f => exact hkept

theorem InterruptedQuery.foundAt (hq : InterruptedQuery s t p v columns rows gap)
    (hc : Interrupts s.connection) : FoundAt s p.steps v (gap.nextLook s) :=
  hq.interrupted.foundAt hc

theorem InterruptedQuery.statement_eq (hq : InterruptedQuery s t p v columns rows gap) :
    s.runStatement t.statement (Text.trim t.statement.text) t.before =
      ((s.readRows 0 p.steps v).1.map (fun shown =>
        { statement := Text.trim t.statement.text, columns, rows := shown
          rowCount := shown.length, status := rowsInSet shown.length }),
        (s.readRows 0 p.steps v).2) := by
  have hexecute : p.execute [] v = (.ok p, v) := by simp [Prepared.execute, hq.runs]
  have hprepared := hq.prepared
  rw [announced] at hprepared
  simp only [Service.runStatement_eq, hprepared, Service.runPrepared_eq, hexecute, hq.columns]

theorem InterruptedQuery.stopped (hq : InterruptedQuery s t p v columns rows gap)
    (hc : Interrupts s.connection) (hn : gap.nextLook s ≤ rows.length) :
    ∃ u, s.runStatement t.statement (Text.trim t.statement.text) t.before =
      (.error .cancelled, u) := by
  have hread := readRows_stopped (hq.foundAt hc) hq.rows hn (p.steps.drop (gap.nextLook s))
  rw [List.take_append_drop] at hread
  rw [hq.statement_eq, hread]
  exact ⟨_, rfl⟩

theorem InterruptedQuery.finished (hq : InterruptedQuery s t p v columns rows gap)
    (hc : Interrupts s.connection) (hn : rows.length < gap.nextLook s) :
    ∃ u, u.aborted = true ∧
      s.runStatement t.statement (Text.trim t.statement.text) t.before =
        (.ok (wholeResult (Text.trim t.statement.text) columns rows 0), u) := by
  have hread := readRows_finished (hq.foundAt hc) hq.rows hn
  rw [hq.statement_eq, hread]
  refine ⟨afterSteps s 0 p.steps v, ?_, ?_⟩
  · have ha := (hq.foundAt hc).aborted (gap.nextLook s) (Nat.le_refl _)
    have hlength := length_of_outcomes hq.rows
    rwa [List.take_of_length_le (by omega)] at ha
  · simp [wholeResult, Except.map]

theorem notify_not_mem_attempt (x : Statement) (w : World σ) : .notify ∉ attemptDeeds s x w := by
  simp only [attemptDeeds, List.mem_cons, reduceCtorEq, false_or]
  split
  · simp
  · simp

theorem notify_mem_deeds_iff (hq : InterruptedQuery s t p v columns rows gap) :
    .notify ∈ t.deeds s ↔ .notify ∈ sequelDeeds s t.statement t.before := by
  rw [Turn.deeds, statementDeeds_sql hq.started hq.isSql]
  simp [notify_not_mem_attempt]

/-- The turn of a query that is stopped by a look. -/
theorem InterruptedQuery.turn_stopped (hq : InterruptedQuery s t p v columns rows gap)
    (ht : t = .of s sql t.statement t.before) (hc : Interrupts s.connection)
    (hn : gap.nextLook s ≤ rows.length) :
    t.result = .stopped (Text.trim t.statement.text) t.result.elapsed ∧ t.ends = true ∧
      .notify ∉ t.deeds s := by
  obtain ⟨u, hrun⟩ := hq.stopped hc hn
  have hperform : s.perform sql t.statement t.before = _ := perform_sql hq.started hq.isSql
  rw [performSql_cancelled hrun rfl] at hperform
  have hresult : t.result = _ := (congrArg Turn.result ht).trans (congrArg Prod.fst hperform)
  have hends : t.ends = _ := (congrArg Turn.ends ht).trans (congrArg (·.2.1) hperform)
  refine ⟨?_, hends, ?_⟩
  · rw [hresult]
    rfl
  · rw [notify_mem_deeds_iff hq, sequelDeeds_cancelled hrun rfl]
    simp

/-- The turn of a query that no look stops. -/
theorem InterruptedQuery.turn_finished (hq : InterruptedQuery s t p v columns rows gap)
    (ht : t = .of s sql t.statement t.before) (hs : Irrevocable s watch)
    (hn : rows.length < gap.nextLook s) :
    t.result = wholeResult (Text.trim t.statement.text) columns rows t.result.elapsed ∧
      t.ends = false ∧ t.after.aborted = true ∧
      (.notify ∈ t.deeds s ↔ t.statement.altersSchema = true) := by
  obtain ⟨u, ha, hrun⟩ := hq.finished hs.interrupts hn
  have hperform : s.perform sql t.statement t.before = _ := perform_sql hq.started hq.isSql
  rw [performSql_ok hrun] at hperform
  have hresult : t.result = _ := (congrArg Turn.result ht).trans (congrArg Prod.fst hperform)
  have hends : t.ends = _ := (congrArg Turn.ends ht).trans (congrArg (·.2.1) hperform)
  have hafter : t.after = _ := (congrArg Turn.after ht).trans (congrArg (·.2.2) hperform)
  refine ⟨?_, hends, ?_, ?_⟩
  · rw [hresult]
    rfl
  · rw [hafter]
    dsimp only
    split
    · exact notify_aborted hs ha
    · exact ha
  · rw [notify_mem_deeds_iff hq, sequelDeeds_ok hrun]
    cases t.statement.altersSchema with
    | true => simp
    | false => simp

/-- From any turn on, a run is a run of the statements that are left. -/
theorem turns_from {ss : List Statement} {before after : List (Turn σ)}
    (h : turns s sql (attend watch) ss w = before ++ t :: after) :
    t = .of s sql t.statement t.before ∧
      turns s sql (attend watch) (t.statement :: ss.drop (before.length + 1)) t.before =
        t :: after := by
  induction before generalizing ss w with
  | nil =>
    cases ss with
    | nil => simp [turns] at h
    | cons x rest =>
      have hfirst : t = .of s sql x w := (List.cons.inj h).1.symm
      subst hfirst
      exact ⟨rfl, h⟩
  | cons b before ih =>
    cases ss with
    | nil => simp [turns] at h
    | cons x rest =>
      obtain ⟨-, hrest⟩ := List.cons.inj h
      simp only [attend] at hrest
      split at hrest
      · simp at hrest
      · exact ih hrest

theorem turns_attended (x : Statement) (rest : List Statement) :
    turns s sql (attend watch) (x :: rest) w =
      let t := Turn.of s sql x w
      t :: if t.ends then [] else turns s sql (attend watch) rest (watch t.result t.after) := rfl

/-- Once the run has been told to stop, the next statement is passed over and is the last. -/
theorem turns_aborted (ha : w.aborted = true) (ss : List Statement) :
    (turns s sql (attend watch) ss w).map Turn.statement = ss.take 1 ∧
      ∀ u ∈ turns s sql (attend watch) ss w,
        u.result = .stopped (Text.trim u.statement.text) 0 ∧
          u.deeds s = [.skip, .yield u.result] := by
  cases ss with
  | nil => simp [turns]
  | cons x rest =>
    have hperform : s.perform sql x w = _ := perform_aborted x ha
    have hends : (Turn.of s sql x w).ends = true := congrArg (·.2.1) hperform
    have hone : turns s sql (attend watch) (x :: rest) w = [.of s sql x w] := by
      rw [turns_attended]
      simp [hends]
    rw [hone]
    refine ⟨rfl, ?_⟩
    intro u hu
    obtain rfl := List.mem_singleton.mp hu
    refine ⟨congrArg Prod.fst hperform, ?_⟩
    have hskip : statementDeeds s x w = [.skip] := by simp [statementDeeds, ha]
    exact congrArg (· ++ [_]) hskip

theorem InterruptedQuery.settled (hq : InterruptedQuery s t p v columns rows gap)
    (hs : Irrevocable s watch) (hy : 0 < s.yieldEvery) {ss : List Statement}
    {before after : List (Turn σ)}
    (h : turns s sql (attend watch) ss w = before ++ t :: after) :
    Settled s t (ss.drop (before.length + 1)) after p v columns rows gap := by
  obtain ⟨ht, hrest⟩ := turns_from h
  rw [turns_attended, ← ht] at hrest
  have hafter := (List.cons.inj hrest).2
  have hleast := nextLook_isLeast hq.interrupted
  have hlook := nextLook_le_iff hq.interrupted rows.length
  rw [stride_eq hy] at hleast hlook
  rcases Nat.lt_or_ge rows.length (gap.nextLook s) with hlate | hdue
  · obtain ⟨hresult, hends, habort, hnotify⟩ := hq.turn_finished ht hs hlate
    have hwhole : t.result.cancelled = false := by rw [hresult]; rfl
    rw [hends, if_neg Bool.false_ne_true] at hafter
    have hnext : after.map Turn.statement = (ss.drop (before.length + 1)).take 1 ∧
        ∀ u ∈ after, u.result = .stopped (Text.trim u.statement.text) 0 ∧
          u.deeds s = [.skip, .yield u.result] := by
      rw [← hafter]
      exact turns_aborted (hs.watch t.result t.after habort) _
    refine ⟨?_, ?_, fun _ => ⟨hresult, hnext⟩, ?_⟩
    · rw [hwhole, ← hlook]
      exact iff_of_false Bool.false_ne_true (Nat.not_le_of_lt hlate)
    · intro hcancelled
      rw [hwhole] at hcancelled
      contradiction
    · rw [hnotify, hwhole]
      simp
  · obtain ⟨hresult, hends, hnotify⟩ := hq.turn_stopped ht hs.interrupts hdue
    have hcancelled : t.result.cancelled = true := by rw [hresult]; rfl
    rw [hends, if_pos rfl] at hafter
    refine ⟨?_, ?_, ?_, ?_⟩
    · rw [hcancelled, ← hlook]
      exact iff_of_true rfl hdue
    · intro _
      exact ⟨hresult, hafter.symm, gap.nextLook s, hleast,
        readsExactly (hq.foundAt hs.interrupts) hq.rows hdue⟩
    · intro hwhole
      rw [hcancelled] at hwhole
      contradiction
    · rw [hcancelled]
      simp [hnotify]

end

/-- The same service, looking after another number of rows whether a query is to stop. -/
def looking (s : Service σ) (y : Nat) : Service σ := { s with yieldEvery := y }

/-- What the rows of a query come to if nobody interrupts. -/
def plainRows : List RowStep → Except Failure (List (List Text))
  | [] => .ok []
  | step :: rest =>
    match step.outcome with
    | .error f => .error f
    | .ok row => (plainRows rest).map (row.map Datum.display :: ·)

/-- What a statement that is ready to run comes to if nobody interrupts. -/
def plainResult (text : Text) (p : Prepared) (w : World σ) :
    Except Failure QueryResult × World σ :=
  match p.execute [] w with
  | (.error f, w) => (.error f, w)
  | (.ok p, w) =>
    match p.columns with
    | none =>
      (.ok { statement := text, rowCount := p.changes, status := rowsAffected p.changes }, w)
    | some columns =>
      ((plainRows p.steps).map (fun rows =>
        { statement := text, columns, rows, rowCount := rows.length
          status := rowsInSet rows.length }), w)

section
variable {s : Service σ} {sql : Text} {watch : QueryResult → World σ → World σ} {w : World σ}
  {y count : Nat}

/-- Where the run has not been told to stop, nobody has interrupted. -/
theorem interruptIf_goes {c : Connection σ} (hc : Interrupts c) {interrupted : Bool}
    (h : (c.interruptIf interrupted w).aborted = false) : c.interruptIf interrupted w = w := by
  cases interrupted with
  | true =>
    rw [interruptIf_true hc rfl] at h
    contradiction
  | false => rfl

theorem afterStep_goes (hc : Interrupts s.connection) {step : RowStep}
    (h : (afterStep s count step w).aborted = false) : afterStep s count step w = w := by
  rw [afterStep] at h ⊢
  split at h
  · rename_i hdue
    rw [if_pos hdue]
    have hbehind := interruptIf_goes hc h
    rw [hbehind] at h ⊢
    exact interruptIf_goes hc h
  · rename_i hdue
    rw [if_neg hdue]
    exact interruptIf_goes hc h

/-- If the run has not been told to stop by the end, no look has found anything. -/
theorem readRows_plain (hc : Interrupts s.connection) {steps : List RowStep}
    (h : (s.readRows count steps w).2.aborted = false) :
    s.readRows count steps w = (plainRows steps, w) := by
  induction steps generalizing count w with
  | nil => rfl
  | cons step rest ih =>
    cases hrow : step.outcome with
    | error f =>
      rw [Service.readRows_error hrow] at h ⊢
      rw [interruptIf_goes hc h, plainRows, hrow]
    | ok row =>
      rw [readRows_cons hrow] at h ⊢
      split at h
      · rename_i hstop
        rw [hstop.2] at h
        contradiction
      · rename_i hstop
        have hrest := ih h
        have hsame : afterStep s count step w = w := by
          apply afterStep_goes hc
          have hworld := congrArg (fun r => World.aborted r.2) hrest
          exact hworld.symm.trans h
        rw [if_neg hstop, hrest, hsame, readBefore, plainRows, hrow]
        rfl

theorem runPrepared_plain (hc : Interrupts s.connection) {p : Prepared} {text : Text}
    (h : (s.runPrepared text p w).2.aborted = false) :
    s.runPrepared text p w = plainResult text p w := by
  rw [Service.runPrepared_eq] at h ⊢
  unfold plainResult
  cases hx : p.execute [] w with
  | mk outcome v =>
    cases outcome with
    | error f => rfl
    | ok q =>
      rw [hx] at h
      cases hcolumns : q.columns with
      | none => simp only [hcolumns]
      | some columns =>
        simp only [hcolumns] at h ⊢
        rw [readRows_plain hc h]

theorem runStatement_looking (hc : Interrupts s.connection) {x : Statement} {text : Text}
    (h : (s.runStatement x text w).2.aborted = false)
    (hy : ((looking s y).runStatement x text w).2.aborted = false) :
    (looking s y).runStatement x text w = s.runStatement x text w := by
  rw [Service.runStatement_eq] at h hy ⊢
  rw [Service.runStatement_eq]
  cases hp : s.connection.prepare x.text
      (w.emit (s.logger.debug (.concat ["Executing: ", text]))) with
  | mk outcome v =>
    have hother : (looking s y).connection.prepare x.text
        (w.emit ((looking s y).logger.debug (.concat ["Executing: ", text]))) = (outcome, v) := hp
    simp only [hp, hother] at h hy ⊢
    cases outcome with
    | error f => rfl
    | ok p =>
      have hplain : (looking s y).runPrepared text p v = plainResult text p v :=
        runPrepared_plain (s := looking s y) hc hy
      exact hplain.trans (runPrepared_plain hc h).symm

theorem Irrevocable.looking (hs : Irrevocable s watch) (y : Nat) :
    Irrevocable (looking s y) watch := ⟨hs.interrupts, hs.refresh, hs.watch⟩

theorem performSql_aborted (hs : Irrevocable s watch) {x : Statement} {text : Text}
    (ha : (s.runStatement x text w).2.aborted = true) :
    (s.performSql sql x text w).2.2.aborted = true := by
  cases h : s.runStatement x text w with
  | mk outcome v =>
    rw [h] at ha
    cases outcome with
    | ok r =>
      rw [performSql_ok h]
      cases x.altersSchema with
      | true => exact notify_aborted hs ha
      | false => exact ha
    | error f =>
      cases hf : f.isCancellation with
      | true =>
        rw [performSql_cancelled h hf]
        exact ha
      | false =>
        rw [performSql_failed h hf]
        exact ha

theorem runStatement_goes (hs : Irrevocable s watch) {x : Statement} {text : Text}
    (h : (s.performSql sql x text w).2.2.aborted = false) :
    (s.runStatement x text w).2.aborted = false := by
  rw [← Bool.not_eq_true]
  intro ha
  rw [performSql_aborted hs ha] at h
  contradiction

theorem perform_looking (hs : Irrevocable s watch) {x : Statement}
    (h : (s.perform sql x w).2.2.aborted = false)
    (hy : ((looking s y).perform sql x w).2.2.aborted = false) :
    (looking s y).perform sql x w = s.perform sql x w := by
  cases ha : w.aborted with
  | true => rw [perform_aborted x ha, perform_aborted x ha]
  | false =>
    cases hc : s.commandFor? (Text.trim x.text) with
    | some commands =>
      have hother : (looking s y).commandFor? (Text.trim x.text) = some commands := hc
      rw [perform_command ha hc, perform_command ha hother]
      rfl
    | none =>
      have hother : (looking s y).commandFor? (Text.trim x.text) = none := hc
      rw [perform_sql ha hc] at h ⊢
      rw [perform_sql ha hother] at hy ⊢
      rw [Service.performSql_eq, Service.performSql_eq, runStatement_looking hs.interrupts
        (runStatement_goes hs h) (runStatement_goes (hs.looking y) hy)]
      rfl

/-- If no result is handed out in a world in which the run has been told to stop, then it makes no
difference how often that is looked at. -/
theorem turns_looking (hs : Irrevocable s watch) {ss : List Statement}
    (h : ∀ t ∈ turns s sql (attend watch) ss w, t.after.aborted = false)
    (hy : ∀ t ∈ turns (looking s y) sql (attend watch) ss w, t.after.aborted = false) :
    turns (looking s y) sql (attend watch) ss w = turns s sql (attend watch) ss w ∧
      (looking s y).each sql (attend watch) ss w = s.each sql (attend watch) ss w := by
  induction ss generalizing w with
  | nil => exact ⟨rfl, rfl⟩
  | cons x rest ih =>
    rw [turns_attended] at h hy
    obtain ⟨hfirst, hrest⟩ := List.forall_mem_cons.mp h
    obtain ⟨hyfirst, hyrest⟩ := List.forall_mem_cons.mp hy
    have hturn : Turn.of (looking s y) sql x w = Turn.of s sql x w := by
      rw [Turn.of, Turn.of, perform_looking hs hfirst hyfirst]
    rw [turns_attended, turns_attended, each_cons, each_cons, hturn]
    simp only [attend]
    cases hends : (Turn.of s sql x w).ends with
    | true => simp
    | false =>
      rw [hturn] at hyrest
      simp only [hends, Bool.false_eq_true, if_false] at hrest hyrest
      obtain ⟨hturns, heach⟩ := ih hrest hyrest
      simp [hturns, heach]

/-- A statement whose turn comes once the run has been told to stop. -/
theorem turn_skipped {ss : List Statement} {before after : List (Turn σ)} {t : Turn σ}
    (h : turns s sql (attend watch) ss w = before ++ t :: after) (ha : t.before.aborted = true) :
    t.result = .stopped (Text.trim t.statement.text) 0 ∧ t.deeds s = [.skip, .yield t.result] ∧
      after = [] := by
  obtain ⟨-, hfrom⟩ := turns_from h
  obtain ⟨hone, hskipped⟩ := turns_aborted ha (t.statement :: ss.drop (before.length + 1))
  rw [hfrom] at hone hskipped
  obtain ⟨hresult, hdeeds⟩ := hskipped t List.mem_cons_self
  refine ⟨hresult, hdeeds, ?_⟩
  simpa using congrArg List.length hone

end

/-- A query that the user interrupts is stopped exactly if the interruption comes before the last
look: the last count of its rows at which it is looked whether the query is to stop must lie beyond
the row that is being asked for, or be reached where others go first behind it. It is stopped at the
first such look, and the run ends with it. Otherwise its result is whole, word of a changed schema
is given if that is owed, and the statement behind it is passed over. A statement is also passed
over if the run has been told to stop before its turn comes. If nobody interrupts, it makes no
difference how often the service looks. -/
theorem interrupted_query_settled {s : Service σ} {watch : QueryResult → World σ → World σ}
    (hs : Irrevocable s watch) (hy : 0 < s.yieldEvery) (sql : Text) (w : World σ) :
    let ss := executableStatements sql
    let ts := turns s sql (attend watch) ss w
    (∀ before t after p v columns rows gap, ts = before ++ t :: after →
      InterruptedQuery s t p v columns rows gap →
        Settled s t (ss.drop (before.length + 1)) after p v columns rows gap) ∧
    (∀ before t after, ts = before ++ t :: after → t.before.aborted = true →
      t.result = .stopped (Text.trim t.statement.text) 0 ∧ t.deeds s = [.skip, .yield t.result] ∧
        after = []) ∧
    ∀ y, (∀ t ∈ ts, t.after.aborted = false) →
      (∀ t ∈ turns (looking s y) sql (attend watch) ss w, t.after.aborted = false) →
      turns (looking s y) sql (attend watch) ss w = ts ∧
        (looking s y).run sql (attend watch) w = s.run sql (attend watch) w := by
  intro ss ts
  refine ⟨?_, ?_, ?_⟩
  · intro before t after p v columns rows gap hts hq
    exact hq.settled hs hy hts
  · intro before t after hts ha
    exact turn_skipped hts ha
  · intro y hnone hynone
    exact turns_looking hs hnone hynone

/-- The answer to a query for the numbers below `n`, which the user interrupts. -/
def numbersBelow (n : Nat) (gap : Gap) : Prepared :=
  { columns := some ["x"], failure := none, changes := 0
    rows := (List.range n).map (fun k => [.integer (k : Int)])
    steps := (List.range n).map (fun k =>
      { interrupted := gap == .asking k, outcome := .ok [.integer (k : Int)]
        interruptedBehind := gap == .behind (k + 1) }) }

/-- A service that looks after every second row. Its database answers everything in one way. -/
def byTwos (n : Nat) (gap : Gap) : Service Unit :=
  { connection :=
      { database :=
          { prepare := fun _ _ => (⟨0, gap == .preparing, .ok (numbersBelow n gap)⟩, ())
            isReadOnly := fun _ => false
            inTransaction := fun _ => false }
        interrupt := fun w => { w with aborted := true } }
    yieldEvery := 2 }

/-- The turns of two statements whose results nobody looks at. -/
def twoTurns (s : Service Unit) (aborted : Bool) : List (Turn Unit) :=
  let sql : Text := "SELECT x FROM t; SELECT 1"
  turns s sql (attend fun _ w => w) (executableStatements sql) { database := (), aborted }

/-- The last look comes behind four of the five rows. An interruption before the fourth row stops
the query, and so does one behind it; one before the fifth row stops the statement behind the
query. -/
theorem last_row_outruns_look :
    (∀ gap, Irrevocable (byTwos 5 gap) (fun _ w => w) ∧ 0 < (byTwos 5 gap).yieldEvery) ∧
      (∃ t, twoTurns (byTwos 5 (.asking 3)) false = [t] ∧ t.result.cancelled = true ∧
        t.result.rows = []) ∧
      (∃ t v, twoTurns (byTwos 5 (.behind 4)) false = [t] ∧ t.result.cancelled = true ∧
        ReadsExactly (byTwos 5 (.behind 4)) (numbersBelow 5 (.behind 4)).steps v 4) ∧
      (∃ t u, twoTurns (byTwos 5 (.asking 4)) false = [t, u] ∧ t.result.cancelled = false ∧
        t.result.rows.length = 5 ∧ u.result.cancelled = true ∧
        u.deeds (byTwos 5 (.asking 4)) = [.skip, .yield u.result]) ∧
      twoTurns (looking (byTwos 5 (.asking 5)) 500) false =
        twoTurns (byTwos 5 (.asking 5)) false := by
  let sql : Text := "SELECT x FROM t; SELECT 1"
  let w : World Unit := { database := () }
  have hs (gap : Gap) : Irrevocable (byTwos 5 gap) (fun _ w => w) := by
    refine ⟨fun _ => rfl, ?_, fun _ _ h => h⟩
    intro change hchange
    contradiction
  have hy (gap : Gap) : 0 < (byTwos 5 gap).yieldEvery := Nat.zero_lt_two
  obtain ⟨x, z, hss⟩ : ∃ x z, executableStatements sql = [x, z] :=
    List.length_eq_two.mp (by decide +kernel)
  let first (gap : Gap) : Turn Unit := .of (byTwos 5 gap) sql x w
  have hturns (gap : Gap) : ∃ after, twoTurns (byTwos 5 gap) false = [] ++ first gap :: after := by
    have hrun : twoTurns (byTwos 5 gap) false =
        turns (byTwos 5 gap) sql (attend fun _ w => w) [x, z] w := by rw [← hss]; rfl
    rw [hrun]
    exact ⟨_, rfl⟩
  have hsettled {gap : Gap} {v : World Unit} {after : List (Turn Unit)}
      (hafter : twoTurns (byTwos 5 gap) false = [] ++ first gap :: after)
      (hq : InterruptedQuery (byTwos 5 gap) (first gap) (numbersBelow 5 gap) v ["x"]
        (numbersBelow 5 gap).rows gap) :
      Settled (byTwos 5 gap) (first gap) [z] after (numbersBelow 5 gap) v ["x"]
        (numbersBelow 5 gap).rows gap := by
    obtain ⟨hall, -⟩ := interrupted_query_settled (hs gap) (hy gap) sql w
    have h := hall _ _ _ _ _ _ _ _ hafter hq
    rwa [hss] at h
  refine ⟨fun gap => ⟨hs gap, hy gap⟩, ?_, ?_, ?_, ?_⟩
  · obtain ⟨after, hafter⟩ := hturns (.asking 3)
    have h := hsettled hafter ⟨rfl, rfl, rfl, rfl, rfl, rfl,
      .asking rfl (by simp [Quiet, numbersBelow, List.range, List.range.loop]) rfl rfl⟩
    have hcancelled : (first (.asking 3)).result.cancelled = true :=
      h.cancelled_iff.mpr (by change 3 < 4; decide)
    obtain ⟨hresult, rfl, -⟩ := h.stopped hcancelled
    refine ⟨first (.asking 3), hafter, hcancelled, ?_⟩
    rw [hresult]
    rfl
  · obtain ⟨after, hafter⟩ := hturns (.behind 4)
    have h := hsettled hafter ⟨rfl, rfl, rfl, rfl, rfl, rfl,
      .behind rfl (by simp [Quiet, numbersBelow, List.range, List.range.loop]) rfl rfl
        (by decide) rfl⟩
    have hcancelled : (first (.behind 4)).result.cancelled = true :=
      h.cancelled_iff.mpr (by change 4 ≤ 4; decide)
    obtain ⟨-, rfl, m, hm, hread⟩ := h.stopped hcancelled
    have hfour : m = 4 := Nat.le_antisymm (hm.2 ⟨by decide, Nat.le_refl 4⟩) hm.1.2
    rw [hfour] at hread
    exact ⟨first (.behind 4), _, hafter, hcancelled, hread⟩
  · obtain ⟨after, hafter⟩ := hturns (.asking 4)
    have h := hsettled hafter ⟨rfl, rfl, rfl, rfl, rfl, rfl,
      .asking rfl (by simp [Quiet, numbersBelow, List.range, List.range.loop]) rfl rfl⟩
    have hwhole : (first (.asking 4)).result.cancelled = false := by
      rw [← Bool.not_eq_true, h.cancelled_iff]
      change ¬ 4 < 4
      decide
    obtain ⟨hresult, hnext, hskipped⟩ := h.finished hwhole
    obtain ⟨u, rfl⟩ : ∃ u, after = [u] := by
      apply List.length_eq_one_iff.mp
      simpa using congrArg List.length hnext
    obtain ⟨hstopped, hdeeds⟩ := hskipped u List.mem_cons_self
    refine ⟨first (.asking 4), u, hafter, hwhole, ?_, ?_, hdeeds⟩
    · rw [hresult]
      rfl
    · rw [hstopped]
      rfl
  · obtain ⟨-, -, hsame⟩ := interrupted_query_settled (hs (.asking 5)) (hy (.asking 5)) sql w
    have hnone : ∀ t ∈ twoTurns (byTwos 5 (.asking 5)) false, t.after.aborted = false := by
      decide +kernel
    have hynone : ∀ t ∈ twoTurns (looking (byTwos 5 (.asking 5)) 500) false,
        t.after.aborted = false := by
      decide +kernel
    exact (hsame 500 hnone hynone).1

/-- Two of three rows are read when the user interrupts, and the last look lies behind these two
rows; none lies behind the one row of the other query, of which nothing is read when the run is told
to stop. Both queries are stopped all the same. -/
theorem stopped_without_later_look :
    ¬ 2 < (byTwos 3 (.behind 2)).yieldEvery * (3 / (byTwos 3 (.behind 2)).yieldEvery) ∧
      (twoTurns (byTwos 3 (.behind 2)) false).map
        (fun t => (t.result.cancelled, t.result.rows)) = [(true, [])] ∧
      ¬ 0 < (byTwos 1 (.asking 1)).yieldEvery * (1 / (byTwos 1 (.asking 1)).yieldEvery) ∧
      (twoTurns (byTwos 1 (.asking 1)) true).map
        (fun t => (t.result.cancelled, t.result.rows)) = [(true, [])] := by
  decide +kernel

end SqlShell.Proofs
