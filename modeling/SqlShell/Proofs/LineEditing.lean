import SqlShell.Proofs.CompletedTexts
import SqlShell.Proofs.Endings
import SqlShell.Proofs.Literals
import SqlShell.Proofs.TypedWord

namespace SqlShell.Proofs
open Lexeme

theorem bare_of_word {sql : Text} {l : Lexeme} (hl : l ∈ lexemes sql) (hw : l.isWord = true)
    (hq : ∀ closed, l.kind ≠ .quotedIdentifier closed) : IsBareWord l.text := by
  obtain ⟨u, rest, rfl, htext, hwhole⟩ := lexeme_alone hl
  rw [htext]
  rw [front_eq] at hwhole
  rw [firstLexeme, front_eq] at hw hq
  cases ho : Opening.of u rest.head? with
  | word =>
    rw [ho] at hwhole
    have hall : rest.takeWhile isWordPart = rest := (List.takeWhile_prefix _).eq_of_length hwhole
    refine ⟨unit_of_word ho, ?_⟩
    intro w hm
    rw [← hall] at hm
    exact List.mem_takeWhile_imp hm
  | quoted closer =>
    rw [ho] at hq
    exact absurd rfl (hq _)
  | _ =>
    rw [ho] at hw
    contradiction

/-- Only a quoted name goes on behind the end of a line. -/
theorem quoted_of_line_end {sql : Text} {l : Lexeme} (hl : l ∈ lexemes sql) (hw : l.isWord = true)
    (hend : unit '\n' ∈ l.text) : ∃ closed, l.kind = .quotedIdentifier closed := by
  by_contra hnone
  have hbare : IsBareWord l.text := by
    apply bare_of_word hl hw
    intro closed hk
    exact hnone ⟨closed, hk⟩
  have hpart := wordPart_of_bare hbare (unit '\n') hend
  exact absurd hpart (by decide)

/-- The lines that have been entered and the one that is being typed, as one text. -/
def linesText (pending : List Text) (line : Text) : Text :=
  Text.join [unit '\n'] (pending ++ [line])

/-- The text ends with the line, which is all of it or stands behind a line end. -/
theorem linesText_ends (pending : List Text) (line : Text) :
    linesText pending line = line ∨
      ∃ earlier, linesText pending line = earlier ++ unit '\n' :: line := by
  by_cases hne : pending = []
  · subst hne
    left
    simp [linesText, Text.join]
  · right
    refine ⟨Text.join [unit '\n'] pending, ?_⟩
    simp [linesText, join_snoc _ _ hne]

/-- What ends with the text either lies in the line or goes back over a line end. -/
theorem drop_linesText (pending : List Text) (line : Text) (i : Nat) :
    let sql := linesText pending line
    (sql.length ≤ i + line.length → sql.drop i <:+ line) ∧
      (i + line.length < sql.length → ∃ earlier, sql.drop i = earlier ++ unit '\n' :: line) := by
  intro sql
  obtain hsql | ⟨earlier, hsql⟩ : sql = line ∨ ∃ earlier, sql = earlier ++ unit '\n' :: line :=
    linesText_ends pending line
  · rw [hsql]
    refine ⟨fun _ => List.drop_suffix i line, ?_⟩
    intro hlt
    omega
  · have hlength : sql.length = earlier.length + 1 + line.length := by
      simp [hsql]
      omega
    constructor
    · intro hle
      have hfront : (earlier ++ [unit '\n']).length ≤ i := by
        simp
        omega
      rw [hsql, List.append_cons, List.drop_append, List.drop_of_length_le hfront]
      exact List.drop_suffix _ line
    · intro hlt
      refine ⟨earlier.drop i, ?_⟩
      rw [hsql]
      apply List.drop_append_of_le_length
      omega

theorem extract_end (sql : Text) (i : Nat) : sql.extract i sql.length = sql.drop i := by
  simp [List.take_of_length_le]

/-- The word that is typed at the end of a text. -/
def lastWord (v : Vocabulary) (sql : Text) : PartialWord :=
  (classify (statementAt sql sql.length) sql.length v).word

/-- A quoted name goes on up to the end of the text, which is not read as a command of the client,
and begins before the last line. -/
structure NameCarriedOver (v : Vocabulary) (sql line : Text) : Prop where
  isSql : classifySpecial? v (statementAt sql sql.length) sql.length = none
  carried : ∃ t ∈ tokenize sql, (∃ closed, t.kind = .quotedIdentifier closed) ∧
    t.start + line.length < sql.length ∧ sql.length ≤ t.stop

section
variable {schema : Option SchemaSnapshot} {config : Config} {v : Vocabulary}
  {pending : List Text} {line sql : Text}

/-- The word that is replaced ends with the text. -/
theorem typed_of_offered (hsql : linesText pending line = sql)
    (h : (Completer.complete schema config v pending line).1 ≠ []) :
    (Completer.complete schema config v pending line).2 =
      sql.drop (lastWord v sql).start.toNat := by
  have hjoin : Text.join [unit '\n'] (pending ++ [line]) = sql := hsql
  rw [Completer.complete, hjoin] at h ⊢
  cases hrun : Completion.run sql (.offset sql.length) schema (Completer.options config v)
      (fun _ => 0) with
  | error e => simp [hrun] at h
  | ok c =>
    have hword : c.context.word = lastWord v sql := congrArg Context.word (run_ok hrun).1
    obtain ⟨⟨-, -, hstop⟩, -, -⟩ := word_at_cursor (Nat.le_refl sql.length) v
    have hend : (lastWord v sql).stop.toNat = sql.length := by
      simp [lastWord, hstop]
    simp only [hword, hend, extract_end]

theorem start_of_carried (h : NameCarriedOver v sql line) :
    (lastWord v sql).start.toNat + line.length < sql.length := by
  obtain ⟨hspecial, t, ht, ⟨closed, hk⟩, hlow, hhigh⟩ := h
  have hisWord : t.isWord = true := by simp [Lexeme.isWord, hk]
  obtain ⟨s, hs, hts⟩ := statement_of_token ht (not_semicolon_of_word hisWord)
  have hbegun : (t.start : Int) < sql.length := by omega
  have hreached : (sql.length : Int) ≤ t.stop := by omega
  have hat := (ordered_statement hs).atCursor hts hbegun hreached
  have hword : lastWord v sql = Context.partialWord (some t) sql.length := by
    rw [lastWord, classify, hspecial, Option.getD_none, statementAt_token hs hts hbegun hreached,
      ofSql_word hat hisWord, word_ofWord]
  rw [hword]
  exact hlow

/-- Nothing else that is typed goes back over a line end. -/
theorem carried_of_start (h : (lastWord v sql).start.toNat + line.length < sql.length)
    (hend : unit '\n' ∈ sql.drop (lastWord v sql).start.toNat) : NameCarriedOver v sql line := by
  have hs := (statementAt_holds (Int.natCast_nonneg sql.length) (Int.le_refl _)).1
  obtain ⟨⟨hlow, -, -⟩, hname, hcommand⟩ := word_at_cursor (Nat.le_refl sql.length) v
  cases hspecial : classifySpecial? v (statementAt sql sql.length) sql.length with
  | some c =>
    -- the words of a command hold no blanks
    have htyped := hcommand (by simp [hspecial])
    have hfilled := htyped.filled (unit '\n')
    rw [htyped.text, extract_end] at hfilled
    exact absurd (hfilled hend) (by decide)
  | none =>
    have hbehind : (lastWord v sql).start < sql.length := by
      have hsome := Int.self_le_toNat (lastWord v sql).start
      omega
    obtain ⟨t, ht, hisWord, hstart, hreach, -⟩ := (hname hspecial).token hbehind
    have hbegun : (lastWord v sql).start.toNat = t.start := by
      simp [lastWord, ← hstart]
    have hm := token_of_statement hs ht
    have htext : t.text = sql.drop t.start := by
      rw [token_eq_extract hm, List.extract_eq_take_drop, List.take_of_length_le]
      rw [List.length_drop]
      omega
    rw [hbegun] at h hend
    rw [← htext] at hend
    exact ⟨hspecial, t, hm, quoted_of_line_end (toLexeme_mem hm) hisWord hend, h, hreach⟩

/-- What a line editor replaces is a part of the line, unless a name in quotes has been carried
over. Then it is more than the line. -/
theorem typed_within_line_iff (h : (Completer.complete schema config v pending line).1 ≠ []) :
    let typed := (Completer.complete schema config v pending line).2
    (typed <:+ line ↔ ¬ NameCarriedOver v (linesText pending line) line) ∧
      (NameCarriedOver v (linesText pending line) line →
        ∃ earlier, typed = earlier ++ unit '\n' :: line) := by
  intro typed
  have htyped : typed = _ := typed_of_offered rfl h
  obtain ⟨hwithin, hacross⟩ :=
    drop_linesText pending line (lastWord v (linesText pending line)).start.toNat
  rw [← htyped] at hwithin hacross
  refine ⟨⟨?_, ?_⟩, ?_⟩
  · intro hsuffix hcarried
    obtain ⟨earlier, hlong⟩ := hacross (start_of_carried hcarried)
    have hle := hsuffix.length_le
    simp only [hlong, List.length_append, List.length_cons] at hle
    omega
  · intro hnone
    apply hwithin
    by_contra hlt
    have hlow : (lastWord v (linesText pending line)).start.toNat + line.length <
        (linesText pending line).length := by omega
    obtain ⟨earlier, hlong⟩ := hacross hlow
    apply hnone
    apply carried_of_start hlow
    simp [← htyped, hlong]
  · intro hcarried
    exact hacross (start_of_carried hcarried)

/-- A snapshot that lists one table. -/
def oneTable (name : Text) : SchemaSnapshot := .ofLists [(name, [])] [] [] [] [] [] 0

/-- The only table is offered if its name begins with what is typed. -/
theorem table_offered {name : Text} {w : PartialWord} (hsql : linesText pending line = sql)
    (hdue : (classify (statementAt sql sql.length) sql.length v).suggestions =
      [.table none [.table, .view]]) (hword : lastWord v sql = w)
    (hfits : (⟨.table, name, escapeName name, .schema, true, some "table"⟩ : Proposal).match?
      w.text true = some .front) :
    (Completer.complete (some (oneTable name)) {} v pending line).1 = [escapeName name] := by
  subst hword
  have hjoin : Text.join [unit '\n'] (pending ++ [line]) = sql := hsql
  have hwritten : (Text.lower (lastWord v sql).text).isPrefixOf
      (unquote (escapeName name)).lower = true := by
    rw [List.isPrefixOf_iff_prefix, unquote_escapeName]
    exact (begins_iff hfits).mpr (by simp)
  have hrun : ∃ c, Completion.run sql (.offset sql.length) (some (oneTable name))
        (Completer.options {} v) (fun _ => 0) = .ok c ∧ c.context.word = lastWord v sql ∧
      c.candidates = [⟨escapeName name, .table, 20300, .front, some "table"⟩] := by
    have hvocabulary : (Completer.options {} v).vocabularyOrEmpty = v := rfl
    rw [run_of_le (Nat.le_refl _), Completion.atOffset, hvocabulary]
    simp only [hdue]
    rw [candidatesFor_of_reads (by simp)]
    refine ⟨_, rfl, rfl, ?_⟩
    exact rank_singleton hfits
  obtain ⟨c, hc, hlast, hcandidates⟩ := hrun
  rw [Completer.complete, hjoin, hc]
  simp only [hlast, hcandidates, Completer.continuesTyped, List.filter_cons, hwritten]
  rfl

end

/-- A name whose line end has not been typed yet. -/
theorem typed_within_second_line :
    let v := Builtin.registry.vocabulary
    let line : Text := "FROM [order"
    let completed := Completer.complete (some (oneTable "order\nitems")) {} v ["SELECT *"] line
    completed.1 ≠ [] ∧ completed.2 <:+ line ∧
      ¬ NameCarriedOver v (linesText ["SELECT *"] line) line := by
  intro v line completed
  let sql := linesText ["SELECT *"] line
  obtain ⟨hdue, hword⟩ : (classify (statementAt sql sql.length) sql.length v).suggestions =
        [.table none [.table, .view]] ∧ lastWord v sql = ⟨"order", 14, 20⟩ := by
    decide +kernel
  have hsome : completed.1 ≠ [] := by
    have hoffered : completed.1 = [_] := table_offered rfl hdue hword (by decide +kernel)
    simp [hoffered]
  have hsuffix : completed.2 <:+ line := by
    have htyped : completed.2 = _ := typed_of_offered rfl hsome
    rw [htyped, hword]
    decide +kernel
  exact ⟨hsome, hsuffix, (typed_within_line_iff hsome).1.mp hsuffix⟩

/-- Both lines hold no line end, but the word between them does. -/
theorem typed_across_lines :
    let v := Builtin.registry.vocabulary
    let earlier : Text := "SELECT * FROM [order"
    let line : Text := "it"
    let completed := Completer.complete (some (oneTable "order\nitems")) {} v [earlier] line
    unit '\n' ∉ earlier ++ line ∧ completed.1 = [escapeName "order\nitems"] ∧
      completed.2 = "[order\nit" ∧ ¬ completed.2 <:+ line := by
  intro v earlier line completed
  let sql := linesText [earlier] line
  obtain ⟨hdue, hword⟩ : (classify (statementAt sql sql.length) sql.length v).suggestions =
        [.table none [.table, .view]] ∧ lastWord v sql = ⟨"order\nit", 14, 23⟩ := by
    decide +kernel
  have hoffered : completed.1 = [_] := table_offered rfl hdue hword (by decide +kernel)
  have hsome : completed.1 ≠ [] := by simp [hoffered]
  have htyped : completed.2 = "[order\nit" := by
    have hreplaced : completed.2 = _ := typed_of_offered rfl hsome
    rw [hreplaced, hword]
    decide +kernel
  refine ⟨by decide +kernel, hoffered, htyped, ?_⟩
  rw [htyped]
  decide +kernel

end SqlShell.Proofs
