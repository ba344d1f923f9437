import Mathlib.Data.List.Forall2
import SqlShell.Proofs.Results
import SqlShell.Proofs.Splitting

namespace SqlShell.Proofs

/-- What is reported of a failure in this line. -/
def lineError (line : Nat) (message : Text) : Text :=
  .concat ["ERROR at Line ", .ofNat line, ": ", message]

def lineEnds (t : Text) : Nat := t.count (unit '\n')

/-- The result of the same statement `k` lines further on. Only a failed statement of SQL names its
line. -/
def Displaced (isSql : Bool) (k : Nat) (r r' : QueryResult) : Prop :=
  if isSql = true ∧ r.error ≠ [] then
    ∃ line message, r.error = lineError line message ∧
      r' = { r with error := lineError (line + k) message }
  else r' = r

/-- Turn `t'` is that of the same statement, in the same world, behind the text `a`. Whatever is
done before the result is handed out is the same. -/
structure Follows (s : Service σ) (a : Text) (t t' : Turn σ) : Prop where
  statement : t'.statement = shiftStatement a.length t.statement
  before : t'.before = t.before
  deeds : statementDeeds s t'.statement t'.before = statementDeeds s t.statement t.before
  after : t'.after = t.after
  ends : t'.ends = t.ends
  result : Displaced (t.isSql s) (lineEnds a) t.result t'.result

/-- Does more than hand out a result. -/
def Deed.isWork : Deed → Bool
  | .yield _ => false
  | _ => true

theorem lineOf_behind (a b : Text) (n : Nat) :
    Service.lineOf (a ++ b) (n + a.length) = Service.lineOf b n + lineEnds a := by
  have htake : (a ++ b).take (n + a.length) = a ++ b.take n := by
    rw [Nat.add_comm, List.take_length_add_append]
  rw [Service.lineOf, Service.lineOf, htake, List.count_append, lineEnds]
  omega

section
variable {s : Service σ} {a b : Text}

theorem altersSchema_shift (n : Nat) (x : Statement) :
    (shiftStatement n x).altersSchema = x.altersSchema := by
  rw [altersSchema_eq, altersSchema_eq, leading_shift]
  cases x.leading? with
  | none => rfl
  | some t => rfl

theorem errorText_behind (a b : Text) (x : Statement) (f : Failure) :
    ∃ line, Service.errorText b x f = lineError line f.message ∧
      Service.errorText (a ++ b) (shiftStatement a.length x) f =
        lineError (line + lineEnds a) f.message := by
  refine ⟨_, rfl, ?_⟩
  have hplace : (shiftStatement a.length x).leading?.elim (shiftStatement a.length x).start
      Token.start = x.leading?.elim x.start Token.start + a.length := by
    rw [leading_shift]
    cases x.leading? with
    | none => rfl
    | some t => rfl
  rw [Service.errorText, hplace, lineOf_behind]
  rfl

theorem runStatement_shift (n : Nat) (x : Statement) (text : Text) (w : World σ) :
    s.runStatement (shiftStatement n x) text w = s.runStatement x text w := by
  rw [Service.runStatement_eq, Service.runStatement_eq, text_shift]

theorem sequelDeeds_shift (n : Nat) (x : Statement) (w : World σ) :
    sequelDeeds s (shiftStatement n x) w = sequelDeeds s x w := by
  rw [sequelDeeds, sequelDeeds, text_shift, runStatement_shift, altersSchema_shift]

theorem statementDeeds_shift (n : Nat) (x : Statement) (w : World σ) :
    statementDeeds s (shiftStatement n x) w = statementDeeds s x w := by
  rw [statementDeeds, statementDeeds, text_shift, sequelDeeds_shift, attemptDeeds, attemptDeeds,
    text_shift]

theorem performSql_behind (x : Statement) (text : Text) (w : World σ) :
    Displaced true (lineEnds a) (s.performSql b x text w).1
        (s.performSql (a ++ b) (shiftStatement a.length x) text w).1 ∧
      (s.performSql (a ++ b) (shiftStatement a.length x) text w).2 =
        (s.performSql b x text w).2 := by
  cases h : s.runStatement x text w with
  | mk outcome v =>
    have hshift : s.runStatement (shiftStatement a.length x) text w = (outcome, v) := by
      rw [runStatement_shift, h]
    cases outcome with
    | ok r =>
      obtain ⟨_, he, _⟩ := runStatement_succeeds h
      rw [performSql_ok h, performSql_ok hshift, altersSchema_shift]
      simp [Displaced, he]
    | error f =>
      cases hf : f.isCancellation with
      | true =>
        rw [performSql_cancelled h hf, performSql_cancelled hshift hf]
        simp [Displaced, QueryResult.stopped]
      | false =>
        obtain ⟨line, hb, hab⟩ := errorText_behind a b x f
        rw [performSql_failed h hf, performSql_failed hshift hf]
        refine ⟨?_, rfl⟩
        rw [Displaced, if_pos ⟨rfl, errorText_nonempty b x f⟩]
        refine ⟨line, f.message, hb, ?_⟩
        rw [hab]
        rfl

/-- One statement behind another text. -/
theorem follows_of (x : Statement) (w : World σ) :
    Follows s a (.of s b x w) (.of s (a ++ b) (shiftStatement a.length x) w) := by
  have hperform : Displaced ((Turn.of s b x w).isSql s) (lineEnds a) (s.perform b x w).1
        (s.perform (a ++ b) (shiftStatement a.length x) w).1 ∧
      (s.perform (a ++ b) (shiftStatement a.length x) w).2 = (s.perform b x w).2 := by
    have htext : Text.trim (shiftStatement a.length x).text = Text.trim x.text := by
      rw [text_shift]
    cases ha : w.aborted with
    | true =>
      rw [perform_aborted x ha, perform_aborted _ ha, htext]
      simp [Displaced, QueryResult.stopped]
    | false =>
      cases hc : s.commandFor? (Text.trim x.text) with
      | some commands =>
        have hsql : (Turn.of s b x w).isSql s = false := by simp [Turn.isSql, Turn.of, hc]
        rw [perform_command ha hc, perform_command ha (htext ▸ hc), htext, hsql]
        simp [Displaced]
      | none =>
        rw [perform_sql ha hc, perform_sql ha (htext ▸ hc), htext, isSql_of.mpr ⟨ha, hc⟩]
        exact performSql_behind x (Text.trim x.text) w
  obtain ⟨hresult, hrest⟩ := hperform
  exact
    { statement := rfl
      before := rfl
      deeds := statementDeeds_shift a.length x w
      after := congrArg Prod.snd hrest
      ends := congrArg Prod.fst hrest
      result := hresult }

/-- A statement that does not stop the run has nothing to say of its line. -/
theorem perform_within {x : Statement} {w : World σ} (b : Text)
    (hn : ¬ Stops (s.perform a x w).1) : s.perform (a ++ b) x w = s.perform a x w := by
  cases ha : w.aborted with
  | true => rw [perform_aborted x ha, perform_aborted x ha]
  | false =>
    cases hc : s.commandFor? (Text.trim x.text) with
    | some commands => rw [perform_command ha hc, perform_command ha hc]
    | none =>
      rw [perform_sql ha hc] at hn
      rw [perform_sql ha hc, perform_sql ha hc]
      cases h : s.runStatement x (Text.trim x.text) w with
      | mk outcome v =>
        cases outcome with
        | ok r => rw [performSql_ok h, performSql_ok h]
        | error f =>
          cases hf : f.isCancellation with
          | true => rw [performSql_cancelled h hf, performSql_cancelled h hf]
          | false =>
            rw [performSql_failed h hf] at hn
            exact absurd (.inl (errorText_nonempty a x f)) hn

variable {watch : QueryResult → World σ → World σ}

theorem turns_attend (sql : Text) (x : Statement) (rest : List Statement) (w : World σ) :
    turns s sql (attend watch) (x :: rest) w =
      .of s sql x w :: if (Turn.of s sql x w).ends then [] else
        turns s sql (attend watch) rest
          (watch (Turn.of s sql x w).result (Turn.of s sql x w).after) := rfl

theorem each_attend (sql : Text) (x : Statement) (rest : List Statement) (w : World σ) :
    s.each sql (attend watch) (x :: rest) w =
      if (Turn.of s sql x w).ends then
        (.ok none, watch (Turn.of s sql x w).result (Turn.of s sql x w).after)
      else s.each sql (attend watch) rest
        (watch (Turn.of s sql x w).result (Turn.of s sql x w).after) := rfl

/-- Statements of a text that none of them ends run on into those behind it. -/
theorem turns_within (b : Text) {ss : List Statement} (rest : List Statement) {w : World σ}
    (hn : ∀ t ∈ turns s a (attend watch) ss w, ¬ Stops t.result) :
    turns s (a ++ b) (attend watch) (ss ++ rest) w = turns s a (attend watch) ss w ++
      turns s (a ++ b) (attend watch) rest (s.each a (attend watch) ss w).2 := by
  induction ss generalizing w with
  | nil => rfl
  | cons x ss ih =>
    rw [turns_attend] at hn
    obtain ⟨hx, hrest⟩ := List.forall_mem_cons.mp hn
    have hturn : Turn.of s (a ++ b) x w = .of s a x w := by
      simp only [Turn.of, perform_within b (show ¬ Stops (s.perform a x w).1 from hx)]
    have hends : (Turn.of s a x w).ends = false := by
      rw [← Bool.not_eq_true, ends_iff_stops rfl]
      exact hx
    rw [hends] at hrest
    rw [List.cons_append, turns_attend, turns_attend, each_attend, hturn, hends, List.cons_append]
    exact congrArg _ (ih hrest)

/-- The statements of a text behind another one. -/
theorem turns_behind (ss : List Statement) (w : World σ) :
    List.Forall₂ (Follows s a) (turns s b (attend watch) ss w)
      (turns s (a ++ b) (attend watch) (ss.map (shiftStatement a.length)) w) := by
  induction ss generalizing w with
  | nil => exact .nil
  | cons x ss ih =>
    have hx : Follows s a (.of s b x w) (.of s (a ++ b) (shiftStatement a.length x) w) :=
      follows_of x w
    rw [List.map_cons, turns_attend, turns_attend, hx.ends]
    refine .cons hx ?_
    cases he : (Turn.of s b x w).ends with
    | true => exact .nil
    | false =>
      -- a run that goes on has met no error, so that what has been handed out is the same
      have hn : ¬ Stops (Turn.of s b x w).result := by
        rw [← ends_iff_stops rfl, he]
        exact Bool.false_ne_true
      have hsame : (Turn.of s (a ++ b) (shiftStatement a.length x) w).result =
          (Turn.of s b x w).result := by
        have hr := hx.result
        rwa [Displaced, if_neg (fun h => h.2 (not_stops.mp hn).1)] at hr
      rw [hx.after, hsame]
      exact ih _

theorem Follows.work {t t' : Turn σ} (h : Follows s a t t') :
    (t'.deeds s).filter Deed.isWork = (t.deeds s).filter Deed.isWork := by
  rw [Turn.deeds, Turn.deeds, h.deeds, List.filter_append, List.filter_append]
  rfl

theorem work_behind {ts ts' : List (Turn σ)} (h : List.Forall₂ (Follows s a) ts ts') :
    (deeds s ts').filter Deed.isWork = (deeds s ts).filter Deed.isWork := by
  induction h with
  | nil => rfl
  | cons hx _ ih =>
    rw [deeds, deeds, List.flatMap_cons, List.flatMap_cons, List.filter_append, List.filter_append,
      hx.work]
    exact congrArg _ ih

end

/-- Behind a text of which no statement is left open and none stops the run, another text runs as it
would run alone in the world that the first one leaves: it gives the same results, with the lines of
its errors counted on, and the same is done, in the same order. -/
theorem run_behind {s : Service σ} {a b : Text} {watch : QueryResult → World σ → World σ}
    {w : World σ} (he : EndsEmpty (statements a))
    (hn : ∀ t ∈ turns s a (attend watch) (executableStatements a) w, ¬ Stops t.result) :
    let u := (s.run a (attend watch) w).2
    let first := turns s a (attend watch) (executableStatements a) w
    let second := turns s b (attend watch) (executableStatements b) u
    let whole := turns s (a ++ b) (attend watch) (executableStatements (a ++ b)) w
    s.run (a ++ b) (attend watch) w =
      (.ok none, afterDeeds s (attend watch) w (deeds s whole)) ∧
    ∃ moved, whole = first ++ moved ∧ List.Forall₂ (Follows s a) second moved ∧
      (deeds s whole).filterMap Deed.result? =
        (deeds s first).filterMap Deed.result? ++ moved.map Turn.result ∧
      (deeds s whole).filter Deed.isWork =
        (deeds s first ++ deeds s second).filter Deed.isWork := by
  intro u first second whole
  have hwhole : Course s (a ++ b) (attend watch) (executableStatements (a ++ b)) w whole
      (s.run (a ++ b) (attend watch) w) := course _ w
  have hfirst : Course s a (attend watch) (executableStatements a) w first
      (s.run a (attend watch) w) := course _ w
  let moved := turns s (a ++ b) (attend watch)
    ((executableStatements b).map (shiftStatement a.length)) u
  have hmoved : List.Forall₂ (Follows s a) second moved := turns_behind (executableStatements b) u
  have happend : whole = first ++ moved := by
    change turns s (a ++ b) (attend watch) (executableStatements (a ++ b)) w = _
    rw [executableStatements_join b he]
    exact turns_within b _ hn
  refine ⟨Prod.ext hwhole.attended hwhole.after.symm, moved, happend, hmoved, ?_, ?_⟩
  · rw [hwhole.results, hfirst.results, happend, List.map_append]
  · rw [happend, deeds, List.flatMap_append, List.filter_append, List.filter_append]
    exact congrArg _ (work_behind hmoved)

/-- A service whose database takes one text only. -/
def narrowService (accepted : Text) (f : Failure) : Service Unit :=
  { connection :=
      { database :=
          { prepare := fun sql _ =>
              (⟨0, false, if sql = accepted then .ok ⟨none, none, 0, [], []⟩ else .error f⟩, ())
            isReadOnly := fun _ => false
            inTransaction := fun _ => false }
        interrupt := id } }

/-- The error of the second text names line 1 of that text alone, and line 2 behind the first. -/
theorem refused_behind_line_end :
    let a : Text := "SELECT\n1;"
    let b : Text := "SELECT 2"
    let s := narrowService a (.error .general "database is locked")
    let w : World Unit := { database := () }
    let watch : QueryResult → World Unit → World Unit := fun _ w => w
    let first := turns s a (attend watch) (executableStatements a) w
    let second := turns s b (attend watch) (executableStatements b) (s.run a (attend watch) w).2
    EndsEmpty (statements a) ∧ (∀ t ∈ first, ¬ Stops t.result) ∧
    ∃ moved, turns s (a ++ b) (attend watch) (executableStatements (a ++ b)) w = first ++ moved ∧
      List.Forall₂ (Follows s a) second moved := by
  intro a b s w watch first second
  have he : EndsEmpty (statements a) := by decide +kernel
  have hn : ∀ t ∈ first, ¬ Stops t.result := by
    let x : Statement := ⟨0, tokenize "SELECT\n1", true⟩
    have hsplit : executableStatements a = [x] := by decide +kernel
    have haccepted : x.text = a := by decide +kernel
    have hfirst : first = [.of s a x w] := by
      change turns s a (attend watch) (executableStatements a) w = _
      rw [hsplit, turns_attend]
      exact congrArg _ (ite_self _)
    obtain ⟨r, v, hrun⟩ : ∃ r v, s.runStatement x (Text.trim x.text) w = (.ok r, v) := by
      simp [Service.runStatement_eq, Connection.prepare, Connection.interruptIf,
        Service.runPrepared_eq, Prepared.execute, s, narrowService, haccepted]
    intro t ht
    obtain rfl := List.mem_singleton.mp (hfirst ▸ ht)
    change ¬ Stops (s.perform a x w).1
    rw [perform_sql rfl rfl, performSql_ok hrun]
    exact not_stops.mpr (runStatement_succeeds hrun).2
  obtain ⟨_, moved, happend, hmoved, _⟩ := run_behind (b := b) he hn
  exact ⟨he, hn, moved, happend, hmoved⟩

end SqlShell.Proofs
