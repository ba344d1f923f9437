import SqlShell.Completion
import SqlShell.Proofs.Placeless
import SqlShell.Proofs.Splitting

namespace SqlShell.Proofs

def shiftWord (n : Nat) (w : PartialWord) : PartialWord :=
  { w with start := w.start + n, stop := w.stop + n }

@[simp] theorem start_shiftWord (n : Nat) (w : PartialWord) :
    (shiftWord n w).start = w.start + n := rfl

/-- The same context `n` units further on. -/
def shiftContext (n : Nat) (c : Context) : Context := { c with word := shiftWord n c.word }

theorem significant_shift (n : Nat) (s : Statement) :
    (shiftStatement n s).significant = s.significant.map (Token.shift n) :=
  significant_move (moves_shift n) s.tokens

theorem atCursor_shift (n : Nat) (ts : List Token) (cursor : Int) :
    Token.atCursor? (ts.map (Token.shift n)) (cursor + n) =
      (Token.atCursor? ts cursor).map (Token.shift n) := by
  have hstart : (fun t : Token => decide ((t.start : Int) < cursor + n)) ∘ Token.shift n =
      fun t => decide ((t.start : Int) < cursor) := by
    funext t
    exact decide_eq_decide.mpr (by rw [shift_start]; omega)
  have hstop : (fun t : Token => decide (cursor + n ≤ (t.stop : Int))) ∘ Token.shift n =
      fun t => decide (cursor ≤ (t.stop : Int)) := by
    funext t
    exact decide_eq_decide.mpr (by rw [shift_stop]; omega)
  rw [Token.atCursor?, List.takeWhile_map, hstart, List.filter_map, hstop, List.getLast?_map]
  rfl

theorem isInsideLiteral_shift (n : Nat) (ts : List Token) (cursor : Int) :
    Token.isInsideLiteral (ts.map (Token.shift n)) (cursor + n) =
      Token.isInsideLiteral ts cursor := by
  rw [Token.isInsideLiteral, Token.isInsideLiteral, atCursor_shift]
  cases Token.atCursor? ts cursor with
  | none => rfl
  | some t =>
    have hstop : (cursor + n < (t.stop + n : Nat)) = (cursor < t.stop) := by
      apply propext
      omega
    simp only [Option.map_some, shift_toLexeme, shift_stop, hstop]

theorem partialWord_shift (n : Nat) (token : Option Token) (cursor : Int) :
    Context.partialWord (token.map (Token.shift n)) (cursor + n) =
      shiftWord n (Context.partialWord token cursor) := by
  cases token with
  | none => rfl
  | some t =>
    have htyped : cursor + n - (t.start + n) = cursor - t.start := by omega
    simp only [Option.map_some, Context.partialWord, shift_start, shift_toLexeme, shiftWord,
      Int.natCast_add, htyped]

theorem qualifier_shift (n : Nat) (start : Int) (ts : List Token) :
    Context.qualifier? (start + n) (ts.map (Token.shift n)) =
      (Context.qualifier? start ts).map (Prod.map id (List.map (Token.shift n))) := by
  match ts with
  | [] => rfl
  | [t] => rfl
  | dot :: owner :: ts =>
    have hdot : ((dot.stop + n : Nat) : Int) = start + n ↔ (dot.stop : Int) = start := by omega
    have howner : owner.stop + n = dot.start + n ↔ owner.stop = dot.start := by omega
    simp only [List.map_cons, Context.qualifier?, shift_toLexeme, shift_stop, shift_start, hdot,
      howner]
    split
    · rfl
    · rfl

theorem before_shift (n : Nat) (start : Int) (ts : List Token) :
    (ts.map (Token.shift n)).filter (fun t => (t.stop : Int) ≤ start + n) =
      (ts.filter (fun t => (t.stop : Int) ≤ start)).map (Token.shift n) := by
  rw [List.filter_map]
  congr 2
  funext t
  exact decide_eq_decide.mpr (by rw [shift_stop]; omega)

theorem next_shift (n : Nat) (after : Int) (ts : List Token) :
    (ts.map (Token.shift n)).find? (fun t => after + n ≤ (t.start : Int)) =
      (ts.find? (fun t => after ≤ (t.start : Int))).map (Token.shift n) := by
  rw [List.find?_map]
  congr 2
  funext t
  exact decide_eq_decide.mpr (by rw [shift_start]; omega)

theorem ofWord_shift (n : Nat) (s : Statement) (token : Option Token) (cursor : Int) :
    Context.ofWord (shiftStatement n s) (token.map (Token.shift n)) (cursor + n) =
      shiftContext n (Context.ofWord s token cursor) := by
  have hm := moves_shift n
  have hsig := significant_shift n s
  have hafter : (token.map (Token.shift n)).elim (cursor + n) (fun t => (t.stop : Int)) =
      token.elim cursor (fun t => (t.stop : Int)) + n := by
    cases token with
    | none => rfl
    | some t => simp only [Option.map_some, Option.elim_some, shift_stop, Int.natCast_add]
  have hopened (t : Option Token) :
      (t.map (Token.shift n)).any (·.isMark '(') = t.any (·.isMark '(') := by
    cases t <;> rfl
  simp only [Context.ofWord, hsig, partialWord_shift, start_shiftWord, before_shift,
    ← List.map_reverse, qualifier_shift, hafter, next_shift, hopened, tableRefs_move hm hsig,
    kind_move hm hsig]
  generalize Context.partialWord token cursor = word
  generalize (s.significant.filter (fun t => (t.stop : Int) ≤ word.start)).reverse = before
  cases Context.qualifier? word.start before with
  | none =>
    simp only [Option.map_none, unqualified_move hm]
    rfl
  | some found =>
    obtain ⟨qualifier, owners⟩ := found
    simp only [Option.map_some, Prod.map, id_eq, qualified_move hm]
    rfl

theorem ofSql_shift (n : Nat) (s : Statement) (cursor : Int) :
    Context.ofSql (shiftStatement n s) (cursor + n) = shiftContext n (Context.ofSql s cursor) := by
  have htokens : (shiftStatement n s).tokens = s.tokens.map (Token.shift n) := rfl
  have hkind := kind_move (moves_shift n) (significant_shift n s)
  have hword (t : Option Token) : (t.map (Token.shift n)).filter (·.isWord) =
      (t.filter (·.isWord)).map (Token.shift n) := by
    rw [Option.filter_map]
    rfl
  rw [Context.ofSql, Context.ofSql, htokens, isInsideLiteral_shift, atCursor_shift, hword,
    ofWord_shift, hkind]
  split
  · rfl
  · rfl

theorem classifySpecial_shift (v : Vocabulary) (n : Nat) (s : Statement) (cursor : Int) :
    classifySpecial? v (shiftStatement n s) (cursor + n) =
      (classifySpecial? v s cursor).map (shiftContext n) := by
  have hbefore : cursor + n - ((s.start + n : Nat) : Int) = cursor - s.start := by omega
  simp only [classifySpecial?, start_shift, text_shift, hbefore]
  generalize Text.firstItems (cursor - s.start) s.text = before
  cases (Text.trimStart before).head? with
  | none => rfl
  | some mark =>
    dsimp only
    split
    · split
      · have hstart (k : Nat) : cursor + n - (k : Int) = cursor - k + n := by omega
        rw [hstart]
        rfl
      · have hstart (k : Nat) : ((s.start + n : Nat) : Int) + k = s.start + k + n := by omega
        rw [hstart]
        rfl
    · rfl

/-- The rules of completion measure places from the cursor and from the start of the statement. -/
theorem classify_shift (n : Nat) (s : Statement) (cursor : Int) (v : Vocabulary) :
    classify (shiftStatement n s) (cursor + n) v = shiftContext n (classify s cursor v) := by
  rw [classify, classify, classifySpecial_shift, ofSql_shift]
  cases classifySpecial? v s cursor with
  | none => rfl
  | some c => rfl

/-- The cursor stands in the statement, and not behind the semicolon that ends it. -/
structure Holds (s : Statement) (cursor : Int) : Prop where
  begun : s.start ≤ cursor
  reached : cursor ≤ s.stop
  ended : s.terminated = true → cursor < s.stop

/-- Of statements that stand one behind the other the one at a cursor holds it. -/
theorem Split.at {cursor : Int} (h : Split start ts ss) (hp : Placed start ts)
    (hlow : start ≤ cursor) (hhigh : cursor ≤ (start + (written ts).length : Nat))
    (he : ss = first :: rest) :
    Statement.at cursor first rest ∈ ss ∧ Holds (Statement.at cursor first rest) cursor := by
  induction h generalizing first rest with
  | @last body start h =>
    obtain ⟨rfl, rfl⟩ := List.cons.inj he
    refine ⟨List.mem_singleton_self _, hlow, ?_, fun h => Bool.noConfusion h⟩
    simpa [Statement.at, Statement.stop, text_eq] using hhigh
  | @cons body t more ss start h ht hs ih =>
    obtain ⟨rfl, rfl⟩ := List.cons.inj he
    have htext := text_of_mark (mark_of_endsAt ht)
    obtain ⟨hstop, hmore⟩ := hp.behind htext
    have hend : Statement.stop ⟨start, body, true⟩ = t.stop := by rw [stop_ended, hstop]
    cases ss with
    | nil => exact absurd rfl hs.nonempty
    | cons next ss =>
      rw [Statement.at]
      split
      · rename_i hin
        simp only [Bool.and_eq_true, decide_eq_true_eq] at hin
        exact ⟨List.mem_cons_self, hin.1, Int.le_of_lt hin.2, fun _ => hin.2⟩
      · rename_i hout
        simp only [Bool.and_eq_true, decide_eq_true_eq, hend] at hout
        have hbehind : (t.stop : Int) ≤ cursor := by omega
        have hlength : start + (written (body ++ t :: more)).length =
            t.stop + (written more).length := by
          rw [hstop, length_behind htext]
          omega
        obtain ⟨hm, hh⟩ := ih hmore hbehind (hlength ▸ hhigh) rfl
        exact ⟨List.mem_cons_of_mem _ hm, hh⟩

theorem statementAt_holds {sql : Text} {cursor : Int} (hlow : 0 ≤ cursor)
    (hhigh : cursor ≤ sql.length) :
    statementAt sql cursor ∈ statements sql ∧ Holds (statementAt sql cursor) cursor := by
  have hw : (0 + (written (tokenize sql)).length : Nat) = sql.length := by
    rw [written_tokenize, Nat.zero_add]
  exact (split_statements sql).at (placed_tokenize sql) hlow (hw ▸ hhigh) rfl

theorem Split.at_end (h : Split start ts ss) (hp : Placed start ts) (he : ss = first :: rest) :
    ss.getLast? = some (Statement.at (start + (written ts).length : Nat) first rest) := by
  induction h generalizing first rest with
  | last h =>
    obtain ⟨rfl, rfl⟩ := List.cons.inj he
    rfl
  | @cons body t more ss start h ht hs ih =>
    obtain ⟨rfl, rfl⟩ := List.cons.inj he
    have htext := text_of_mark (mark_of_endsAt ht)
    obtain ⟨hstop, hmore⟩ := hp.behind htext
    have hend : Statement.stop ⟨start, body, true⟩ = t.stop := by rw [stop_ended, hstop]
    have hlength : start + (written (body ++ t :: more)).length =
        t.stop + (written more).length := by
      rw [hstop, length_behind htext]
      omega
    cases ss with
    | nil => exact absurd rfl hs.nonempty
    | cons next ss =>
      have hpast : (decide (((start : Nat) : Int) ≤ (t.stop + (written more).length : Nat)) &&
          decide (((t.stop + (written more).length : Nat) : Int) < t.stop)) = false := by
        simp only [Bool.and_eq_false_iff, decide_eq_false_iff_not]
        omega
      rw [hlength, Statement.at, hend, hpast, List.getLast?_cons_cons]
      exact ih hmore rfl

/-- At the end of a text the cursor stands in the last statement. -/
theorem statementAt_end (sql : Text) :
    (statements sql).getLast? = some (statementAt sql sql.length) := by
  have hend := (split_statements sql).at_end (placed_tokenize sql) rfl
  rwa [written_tokenize, Nat.zero_add] at hend

theorem statementAt_unmarked {sql : Text} (h : ∀ l ∈ lexemes sql, l.isMark ';' = false)
    (cursor : Int) : statementAt sql cursor = ⟨0, tokenize sql, false⟩ := by
  have hs := statements_unmarked h
  rw [statements] at hs
  rw [statementAt]
  generalize splitText sql = split at hs ⊢
  obtain ⟨first, rest⟩ := split
  obtain ⟨rfl, rfl⟩ := List.cons.inj hs
  rfl

theorem stop_shiftStatement (n : Nat) (s : Statement) :
    (shiftStatement n s).stop = s.stop + n := by
  rw [Statement.stop, Statement.stop, text_shift, start_shift]
  omega

/-- In its own text a statement is found again at the same cursor. -/
theorem statementAt_alone {sql : Text} {s : Statement} {cursor : Int} (hm : s ∈ statements sql)
    (hc : Holds s cursor) : shiftStatement s.start (statementAt s.text (cursor - s.start)) = s := by
  have halone := statements_alone hm
  rw [statements, List.map_cons] at halone
  obtain ⟨hfirst, hrest⟩ := List.cons.inj halone
  rw [statementAt]
  generalize splitText s.text = split at hfirst hrest
  obtain ⟨first, rest⟩ := split
  have hstart : first.start + s.start = s.start := congrArg Statement.start hfirst
  have hstop : first.stop + s.start = s.stop := by
    rw [← stop_shiftStatement, hfirst]
  cases rest with
  | nil => exact hfirst
  | cons next rest =>
    have hterminated : s.terminated = true := by
      cases ht : s.terminated with
      | true => rfl
      | false =>
        rw [closing, ht] at hrest
        exact absurd hrest (List.cons_ne_nil _ _)
    have hin : (first.start ≤ cursor - s.start && cursor - s.start < first.stop) = true := by
      have hbegun := hc.begun
      have hended := hc.ended hterminated
      simp only [Bool.and_eq_true, decide_eq_true_eq]
      omega
    show shiftStatement s.start (Statement.at _ first (next :: rest)) = s
    rw [Statement.at, if_pos hin]
    exact hfirst

theorem candidatesFor_cases (suggestions : List Suggestion) (typed : Text)
    (schema : Option SchemaSnapshot) (options : CompletionOptions) :
    (∃ candidates, Completion.candidatesFor suggestions typed schema options = .ok candidates) ∨
      Completion.candidatesFor suggestions typed schema options = .error .noSchema := by
  rw [Completion.candidatesFor]
  split
  · exact Or.inr rfl
  · exact Or.inl ⟨_, rfl⟩

theorem run_of_le {sql : Text} {n : Nat} {schema : Option SchemaSnapshot}
    {options : CompletionOptions} {reading : Nat → Millis} (h : n ≤ sql.length) :
    Completion.run sql (.offset n) schema options reading =
      Completion.atOffset sql n schema options reading := if_pos h

theorem run_in_range {sql : Text} {cursor : Int} (schema : Option SchemaSnapshot)
    (options : CompletionOptions) (reading : Nat → Millis) (hlow : 0 ≤ cursor)
    (hhigh : cursor ≤ sql.length) :
    ∃ n : Nat, cursor = n ∧ Completion.run sql (.offset cursor) schema options reading =
      Completion.atOffset sql n schema options reading := by
  obtain ⟨n, rfl⟩ := Int.eq_ofNat_of_zero_le hlow
  exact ⟨n, rfl, run_of_le (by omega)⟩

/-- What a completion offers is told by its context, wherever that stands. -/
theorem atOffset_shift {sql own : Text} {n m : Nat} (schema : Option SchemaSnapshot)
    (options : CompletionOptions) (reading reading' : Nat → Millis) (k : Nat)
    (hs : statementAt sql n = shiftStatement k (statementAt own m)) (hn : (n : Int) = m + k) :
    (∃ c d, Completion.atOffset sql n schema options reading = .ok c ∧
      Completion.atOffset own m schema options reading' = .ok d ∧
      c.candidates = d.candidates ∧ c.context = shiftContext k d.context ∧
      c.statement = shiftStatement k d.statement) ∨
    (Completion.atOffset sql n schema options reading = .error .noSchema ∧
      Completion.atOffset own m schema options reading' = .error .noSchema) := by
  have hcontext := classify_shift k (statementAt own m) m options.vocabularyOrEmpty
  rw [← hs, ← hn] at hcontext
  generalize hd : classify (statementAt own m) m options.vocabularyOrEmpty = context at hcontext
  have hsame : Completion.candidatesFor (shiftContext k context).suggestions
      (shiftContext k context).word.text schema options =
      Completion.candidatesFor context.suggestions context.word.text schema options := rfl
  simp only [Completion.atOffset, hcontext, hd, hsame]
  rcases candidatesFor_cases context.suggestions context.word.text schema options with
    ⟨candidates, hc⟩ | hc
  · rw [hc]
    exact Or.inl ⟨_, _, rfl, rfl, rfl, rfl, hs⟩
  · rw [hc]
    exact Or.inr ⟨rfl, rfl⟩

/-- A completion in a text is the completion in the statement at the cursor alone, moved to the
place of that statement. Without a schema the one has no answer where the other has none. -/
theorem completion_in_own_statement (sql : Text) (cursor : Int) (schema : Option SchemaSnapshot)
    (options : CompletionOptions) (reading reading' : Nat → Millis) (hlow : 0 ≤ cursor)
    (hhigh : cursor ≤ sql.length) :
    let s := statementAt sql cursor
    let whole := Completion.run sql (.offset cursor) schema options reading
    let alone := Completion.run s.text (.offset (cursor - s.start)) schema options reading'
    (∃ c d, whole = .ok c ∧ alone = .ok d ∧ c.candidates = d.candidates ∧
      c.context = shiftContext s.start d.context ∧
      c.statement = shiftStatement s.start d.statement) ∨
    (whole = .error .noSchema ∧ alone = .error .noSchema) := by
  intro s whole alone
  obtain ⟨hmem, hc⟩ : s ∈ statements sql ∧ Holds s cursor := statementAt_holds hlow hhigh
  have hs := statementAt_alone hmem hc
  have hfrom : 0 ≤ cursor - s.start := by
    have hbegun := hc.begun
    omega
  have hto : cursor - s.start ≤ s.text.length := by
    have hreached := hc.reached
    rw [Statement.stop] at hreached
    omega
  obtain ⟨n, hn, hwhole⟩ := run_in_range schema options reading hlow hhigh
  obtain ⟨m, hm, halone⟩ := run_in_range schema options reading' hfrom hto
  have hwhole : whole = _ := hwhole
  have halone : alone = _ := halone
  rw [hwhole, halone]
  refine atOffset_shift schema options reading reading' s.start ?_ (by omega)
  rw [← hn, ← hm]
  exact hs.symm

/-- The semicolon in the string of the first statement begins no other one. -/
theorem completion_behind_string :
    let sql : Text := "SELECT 'a;b'; SELECT 2 "
    let s := statementAt sql 23
    let whole := Completion.run sql (.offset 23) none {} (fun _ => 0)
    let alone := Completion.run s.text (.offset (23 - s.start)) none {} (fun _ => 0)
    (23 : Int) ≤ sql.length ∧
    ((∃ c d, whole = .ok c ∧ alone = .ok d ∧ c.candidates = d.candidates ∧
      c.context = shiftContext s.start d.context ∧
      c.statement = shiftStatement s.start d.statement) ∨
    (whole = .error .noSchema ∧ alone = .error .noSchema)) :=
  have hhigh : (23 : Int) ≤ (Text.ofString "SELECT 'a;b'; SELECT 2 ").length := by decide +kernel
  ⟨hhigh, completion_in_own_statement _ 23 none {} (fun _ => 0) (fun _ => 0) (by decide) hhigh⟩

end SqlShell.Proofs
