import SqlShell.Proofs.Kinds
import SqlShell.Proofs.Turns

namespace SqlShell.Proofs

/-- A run ends with such a result. -/
def Stops (r : QueryResult) : Prop := r.error ≠ [] ∨ r.cancelled = true ∨ r.exit = true

theorem not_stops {r : QueryResult} :
    ¬ Stops r ↔ r.error = [] ∧ r.cancelled = false ∧ r.exit = false := by
  simp [Stops]

/-- The result is about `text` and tells of no failure. -/
def Succeeds (text : Text) (r : QueryResult) : Prop :=
  r.statement = text ∧ r.error = [] ∧ r.cancelled = false ∧ r.exit = false

section
variable {s : Service σ} {sql : Text}
  {take : QueryResult → World σ → Except Failure (Option ρ) × World σ}

theorem exists_of_map_ok {e : Except Failure α} {f : α → β} (h : e.map f = .ok b) :
    ∃ a, e = .ok a ∧ f a = b := by
  cases e with
  | error _ => simp [Except.map] at h
  | ok a => exact ⟨a, rfl, Except.ok.inj h⟩

theorem preparedTask_succeeds {p : Prepared} (h : (s.preparedTask text p w).Ends (.ok r) v) :
    Succeeds text r := by
  unfold Service.preparedTask at h
  split at h
  · cases h
  · split at h
    · cases h
      exact ⟨rfl, rfl, rfl, rfl⟩
    · obtain ⟨outcome, _, hr⟩ := Task.ends_map.mp h
      obtain ⟨rows, _, rfl⟩ := exists_of_map_ok hr
      exact ⟨rfl, rfl, rfl, rfl⟩

/-- Whatever others do while a statement runs. -/
theorem statementTask_succeeds (h : (s.statementTask x text w).Ends (.ok r) v) :
    Succeeds text r := by
  unfold Service.statementTask at h
  dsimp only at h
  split at h
  · cases h
  · exact preparedTask_succeeds h

theorem runStatement_succeeds (h : s.runStatement x text w = (.ok r, v)) : Succeeds text r := by
  have hends := Task.ends_finish (s.statementTask x text w)
  rw [show (s.statementTask x text w).finish = (.ok r, v) from h] at hends
  exact statementTask_succeeds hends

theorem errorText_nonempty (sql : Text) (x : Statement) (f : Failure) :
    Service.errorText sql x f ≠ [] := by
  intro h
  have hhead := List.flatten_eq_nil_iff.mp h (Text.ofString "ERROR at Line ") (by simp)
  revert hhead
  decide

theorem performSql_result (x : Statement) (text : Text) (w : World σ) :
    (s.performSql sql x text w).1.statement = text ∧
      ((s.performSql sql x text w).2.1 = true ↔ Stops (s.performSql sql x text w).1) := by
  cases h : s.runStatement x text w with
  | mk outcome v =>
    cases outcome with
    | ok r =>
      obtain ⟨hs, hn⟩ := runStatement_succeeds h
      rw [performSql_ok h]
      exact ⟨hs, by simp, fun hstop => absurd hstop (not_stops.mpr hn)⟩
    | error f =>
      cases hf : f.isCancellation with
      | true =>
        rw [performSql_cancelled h hf]
        exact ⟨rfl, fun _ => .inr (.inl rfl), fun _ => rfl⟩
      | false =>
        rw [performSql_failed h hf]
        exact ⟨rfl, fun _ => .inl (errorText_nonempty sql x f), fun _ => rfl⟩

theorem performCommand_result (commands : Registry Builtin) (text : Text) (w : World σ) :
    (s.performCommand commands text w).1.statement = text ∧
      ((s.performCommand commands text w).2.1 = true ↔
        Stops (s.performCommand commands text w).1) := by
  unfold Service.performCommand
  cases s.runCommand commands text w with
  | mk outcome v =>
    cases outcome with
    | ok o => simp [Stops]
    | error f => simp [Stops, QueryResult.failed]

theorem perform_result (x : Statement) (w : World σ) :
    (s.perform sql x w).1.statement = Text.trim x.text ∧
      ((s.perform sql x w).2.1 = true ↔ Stops (s.perform sql x w).1) := by
  cases ha : w.aborted with
  | true =>
    rw [perform_aborted x ha]
    exact ⟨rfl, fun _ => .inr (.inl rfl), fun _ => rfl⟩
  | false =>
    cases hc : s.commandFor? (Text.trim x.text) with
    | some commands =>
      rw [perform_command ha hc]
      exact performCommand_result commands _ w
    | none =>
      rw [perform_sql ha hc]
      exact performSql_result x _ w

/-- The statement is handed to the database: it is no command of the client, and the run has not
been told to stop when its turn comes. -/
def Turn.isSql (s : Service σ) (t : Turn σ) : Bool :=
  !t.before.aborted && (s.commandFor? (Text.trim t.statement.text)).isNone

/-- A statement of SQL that changes the schema has succeeded. -/
def Turn.owesNotice (s : Service σ) (t : Turn σ) : Bool :=
  t.isSql s && t.statement.leading?.any (·.isKeywordOf schemaKeywords) && t.result.error.isEmpty
    && !t.result.cancelled

/-- Leaves aside messages and what the database does with a text once it has it. -/
def Deed.isSalient : Deed → Bool
  | .note _ | .execute _ => false
  | _ => true

/-- What is done to a statement, its result being known: it is passed over, it is called as a
command, or it is handed to the database and word is given if that is owed. -/
def Turn.account (s : Service σ) (t : Turn σ) : List Deed :=
  (if t.before.aborted then [.skip]
  else match s.commandFor? (Text.trim t.statement.text) with
    | some commands => [.call commands (Text.trim t.statement.text)]
    | none => .prepare t.statement.text :: if t.owesNotice s then [.notify] else [])
    ++ [.yield t.result]

theorem salient_attempt (x : Statement) (w : World σ) :
    (attemptDeeds s x w).filter Deed.isSalient = [.prepare x.text] := by
  unfold attemptDeeds
  dsimp only
  split
  · rfl
  · rfl

theorem owesNotice_sql {x : Statement} {w : World σ} (ha : w.aborted = false)
    (hc : s.commandFor? (Text.trim x.text) = none) :
    (Turn.of s sql x w).owesNotice s =
      (x.altersSchema && (s.performSql sql x (Text.trim x.text) w).1.error.isEmpty &&
        !(s.performSql sql x (Text.trim x.text) w).1.cancelled) := by
  rw [altersSchema_eq, ← perform_sql ha hc]
  change (!w.aborted && (s.commandFor? (Text.trim x.text)).isNone && _ && _ && _) = _
  rw [ha, hc]
  rfl

theorem salient_sequel (sql : Text) {x : Statement} {w : World σ} (ha : w.aborted = false)
    (hc : s.commandFor? (Text.trim x.text) = none) :
    (sequelDeeds s x w).filter Deed.isSalient =
      if (Turn.of s sql x w).owesNotice s then [.notify] else [] := by
  rw [owesNotice_sql ha hc]
  cases h : s.runStatement x (Text.trim x.text) w with
  | mk outcome v =>
    cases outcome with
    | ok r =>
      obtain ⟨_, he, hn, _⟩ := runStatement_succeeds h
      rw [sequelDeeds_ok h, performSql_ok h]
      cases x.altersSchema with
      | true => simp [he, hn, Deed.isSalient]
      | false => simp
    | error f =>
      cases hf : f.isCancellation with
      | true =>
        rw [sequelDeeds_cancelled h hf, performSql_cancelled h hf]
        simp [QueryResult.stopped, Deed.isSalient]
      | false =>
        rw [sequelDeeds_failed h hf, performSql_failed h hf]
        simp [QueryResult.failed, errorText_nonempty]

theorem salient_turn (x : Statement) (w : World σ) :
    ((Turn.of s sql x w).deeds s).filter Deed.isSalient = (Turn.of s sql x w).account s := by
  rw [Turn.deeds, Turn.account, List.filter_append]
  change (statementDeeds s x w).filter _ ++ _ = (if w.aborted then _ else
    match s.commandFor? (Text.trim x.text) with
    | some commands => [.call commands (Text.trim x.text)]
    | none => _) ++ _
  congr 1
  cases ha : w.aborted with
  | true =>
    rw [statementDeeds, ha]
    rfl
  | false =>
    cases hc : s.commandFor? (Text.trim x.text) with
    | some commands =>
      rw [statementDeeds, ha, hc]
      rfl
    | none =>
      rw [statementDeeds_sql ha hc, List.filter_append, salient_attempt,
        salient_sequel sql ha hc]
      rfl

/-- Nothing is lost of what only salient deeds show. -/
theorem filterMap_salient {f : Deed → Option α}
    (hf : ∀ d, Deed.isSalient d = false → f d = none) (ds : List Deed) :
    (ds.filter Deed.isSalient).filterMap f = ds.filterMap f := by
  have hsame : (fun d => if Deed.isSalient d then f d else none) = f := by
    funext d
    cases hd : d.isSalient with
    | true => rfl
    | false => exact (hf d hd).symm
  rw [List.filterMap_filter, hsame]

theorem prepared_account (t : Turn σ) :
    (t.account s).filterMap Deed.prepared? = if t.isSql s then [t.statement.text] else [] := by
  unfold Turn.account Turn.isSql
  cases t.before.aborted with
  | true => rfl
  | false =>
    cases s.commandFor? (Text.trim t.statement.text) with
    | some commands => rfl
    | none =>
      cases t.owesNotice s with
      | true => rfl
      | false => rfl

theorem results_account (t : Turn σ) : (t.account s).filterMap Deed.result? = [t.result] := by
  unfold Turn.account
  cases t.before.aborted with
  | true => rfl
  | false =>
    cases s.commandFor? (Text.trim t.statement.text) with
    | some commands => rfl
    | none =>
      cases t.owesNotice s with
      | true => rfl
      | false => rfl

theorem Course.mem {ts : List (Turn σ)} {t : Turn σ} (h : Course s sql take ss w ts answer)
    (hm : t ∈ ts) : t = .of s sql t.statement t.before := by
  obtain ⟨before, after, rfl⟩ := List.mem_iff_append.mp hm
  rw [h.turn]
  rfl

theorem isSql_of {x : Statement} {w : World σ} : (Turn.of s sql x w).isSql s = true ↔
    w.aborted = false ∧ s.commandFor? (Text.trim x.text) = none := by
  simp [Turn.isSql, Turn.of]

theorem Course.salient {ts : List (Turn σ)} (h : Course s sql take ss w ts answer) :
    (deeds s ts).filter Deed.isSalient = ts.flatMap (Turn.account s) := by
  induction h with
  | done => rfl
  | last ht =>
    rw [deeds, List.flatMap_singleton, List.flatMap_singleton, ht, salient_turn]
  | next ht _ _ _ ih =>
    rw [deeds, List.flatMap_cons, List.flatMap_cons, List.filter_append, ht, salient_turn]
    exact congrArg _ ih

theorem Course.results {ts : List (Turn σ)} (h : Course s sql take ss w ts answer) :
    (deeds s ts).filterMap Deed.result? = ts.map Turn.result := by
  rw [← filterMap_salient (by intro d; cases d <;> simp [Deed.isSalient, Deed.result?]), h.salient,
    List.filterMap_flatMap]
  simp only [results_account]
  exact List.map_eq_flatMap.symm

theorem Course.prepared {ts : List (Turn σ)} (h : Course s sql take ss w ts answer) :
    (deeds s ts).filterMap Deed.prepared? =
      (ts.filter (Turn.isSql s)).map (fun t => t.statement.text) := by
  rw [← filterMap_salient (by intro d; cases d <;> simp [Deed.isSalient, Deed.prepared?]),
    h.salient, List.filterMap_flatMap]
  simp only [prepared_account]
  clear h
  induction ts with
  | nil => rfl
  | cons t ts ih =>
    rw [List.flatMap_cons, ih, List.filter_cons]
    split
    · rfl
    · rfl

theorem Course.goes_on {ts : List (Turn σ)} {t : Turn σ} (h : Course s sql take ss w ts answer)
    (hm : t ∈ ts.dropLast) : t.ends = false := by
  induction h with
  | done => simp at hm
  | last => simp at hm
  | @next _ _ _ _ _ ts _ _ he _ _ ih =>
    cases ts with
    | nil => simp at hm
    | cons t' ts =>
      rcases List.mem_cons.mp hm with rfl | hm
      · exact he
      · exact ih hm

theorem Course.short {ts : List (Turn σ)} (h : Course s sql take ss w ts answer)
    (hl : ts.length < ss.length) :
    ∃ t, ts.getLast? = some t ∧ (t.ends = true ∨ (take t.result t.after).1 ≠ .ok none) := by
  induction h with
  | done => simp at hl
  | last _ hstop => exact ⟨_, rfl, hstop⟩
  | next ht he hg h ih =>
    obtain ⟨t, hlast, hstop⟩ := ih (by simpa using hl)
    exact ⟨t, by rw [List.getLast?_cons, hlast]; rfl, hstop⟩

theorem ends_iff_stops {t : Turn σ} (ht : t = .of s sql x w) :
    t.ends = true ↔ Stops t.result := by
  subst ht
  exact (perform_result x w).2

theorem Course.statement_results {ts : List (Turn σ)}
    (h : Course s sql take ss w ts answer) :
    ts.map (fun t => t.result.statement) = ts.map (fun t => Text.trim t.statement.text) := by
  apply List.map_congr_left
  intro t hm
  rw [h.mem hm]
  exact (perform_result t.statement t.before).1

end

/-- Takes every result of a run to its end, whatever else it does between them. -/
def attend (watch : QueryResult → World σ → World σ) (r : QueryResult) (w : World σ) :
    Except Failure (Option Unit) × World σ :=
  (.ok none, watch r w)

theorem Course.attended {watch : QueryResult → World σ → World σ} {ts : List (Turn σ)}
    (h : Course s sql (attend watch) ss w ts answer) : answer.1 = .ok none := by
  induction h with
  | done => rfl
  | last => rfl
  | next _ _ _ _ ih => exact ih

theorem Course.dropLast_go_on {ts : List (Turn σ)} (h : Course s sql take ss w ts answer) :
    ∀ r ∈ (ts.map Turn.result).dropLast, r.error = [] ∧ r.cancelled = false ∧ r.exit = false := by
  intro r hr
  rw [← List.map_dropLast] at hr
  obtain ⟨t, ht, rfl⟩ := List.mem_map.mp hr
  have hturn := h.mem ((List.dropLast_sublist ts).subset ht)
  rw [← not_stops, ← ends_iff_stops hturn, h.goes_on ht]
  exact Bool.false_ne_true

theorem Course.short_stops {watch : QueryResult → World σ → World σ} {ts : List (Turn σ)}
    (h : Course s sql (attend watch) ss w ts answer) (hl : ts.length < ss.length) :
    ∃ r, (ts.map Turn.result).getLast? = some r ∧ Stops r := by
  obtain ⟨t, hlast, hstop⟩ := h.short hl
  have hends : t.ends = true := hstop.resolve_right (fun hn => hn rfl)
  refine ⟨t.result, ?_, (ends_iff_stops (h.mem (List.mem_of_getLast? hlast))).mp hends⟩
  rw [List.getLast?_map, hlast]
  rfl

/-- A run that is attended to its end gives a result for each statement up to the first that stops
it. Each of these statements is handed to the database once, unless it is a command or the run has
been told to stop before, and word of a changed schema is given once for each that succeeds in
changing it, before its result is handed out. -/
theorem results_accounted (s : Service σ) (sql : Text)
    (watch : QueryResult → World σ → World σ) (w : World σ) :
    let ss := executableStatements sql
    let ts := turns s sql (attend watch) ss w
    let ds := deeds s ts
    let rs := ds.filterMap Deed.result?
    s.run sql (attend watch) w = (.ok none, afterDeeds s (attend watch) w ds) ∧
    (rs.length ≤ ss.length ∧
      rs.map QueryResult.statement = (ss.take rs.length).map (fun x => Text.trim x.text)) ∧
    (∀ r ∈ rs.dropLast, r.error = [] ∧ r.cancelled = false ∧ r.exit = false) ∧
    (rs.length < ss.length → ∃ r, rs.getLast? = some r ∧
      (r.error ≠ [] ∨ r.cancelled = true ∨ r.exit = true)) ∧
    (ts.map Turn.statement = ss.take rs.length ∧ ts.map Turn.result = rs ∧
      ∀ before t after, ts = before ++ t :: after →
        t.before = afterDeeds s (attend watch) w (deeds s before)) ∧
    ds.filterMap Deed.prepared? =
      (ts.filter (Turn.isSql s)).map (fun t => t.statement.text) ∧
    ds.filter Deed.isSalient = ts.flatMap (Turn.account s) := by
  intro ss ts ds rs
  have h : Course s sql (attend watch) ss w ts (s.each sql (attend watch) ss w) := course ss w
  have hrs : rs = ts.map Turn.result := h.results
  have hlength : rs.length = ts.length := by
    rw [hrs, List.length_map]
  have hstatements : ts.map Turn.statement = ss.take rs.length := by
    have hp := List.prefix_iff_eq_take.mp h.statements
    rwa [List.length_map, ← hlength] at hp
  refine ⟨Prod.ext h.attended h.after.symm, ⟨?_, ?_⟩, ?_, ?_, ⟨hstatements, hrs.symm, ?_⟩,
    h.prepared, h.salient⟩
  · have hle := h.statements.length_le
    rwa [List.length_map, ← hlength] at hle
  · rw [← hstatements, List.map_map, hrs, List.map_map]
    exact h.statement_results
  · rw [hrs]
    exact h.dropLast_go_on
  · intro hl
    rw [hrs]
    exact h.short_stops (hlength ▸ hl)
  · intro before t after hts
    rw [hts] at h
    rw [h.turn]
    rfl

end SqlShell.Proofs
