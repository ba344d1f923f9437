import SqlShell.Proofs.Cursors

namespace SqlShell.Proofs
open Lexeme

/-- Cut anywhere behind some of its lexemes, a text still begins with these, and what is left behind
them reads as it does alone. -/
theorem lexemes_part {t more : Text} {before after : List Lexeme}
    (h : lexemes t = before ++ after) (hmore : more <+: spell after) :
    lexemes (spell before ++ more) = before ++ lexemes more := by
  induction t using reading_induction generalizing before with
  | nil =>
    obtain ⟨rfl, -⟩ := List.append_eq_nil_iff.mp h.symm
    rfl
  | cons u rest ih =>
    cases before with
    | nil => rfl
    | cons l before =>
      rw [lexemes_cons, List.cons_append] at h
      obtain ⟨rfl, hr⟩ := List.cons.inj h
      have hfront : spell before ++ more <+: rest.drop (front u rest).2 := by
        rw [← spell_lexemes (rest.drop _), hr, spell_append]
        exact (List.prefix_append_right_inj _).mpr hmore
      rw [spell_cons, List.append_assoc, lexemes_take hfront, ih hr, List.cons_append]

/-- The text before a cursor ends with what its part of the token at the cursor reads as. -/
theorem lexemes_before_cursor {sql : Text} {u : Token} {cursor : Nat} (hu : u ∈ tokenize sql)
    (hlow : u.start < cursor) (hhigh : cursor ≤ u.stop) :
    ∃ before, lexemes (sql.take cursor) = before ++ lexemes (u.text.take (cursor - u.start)) := by
  obtain ⟨before, after, hs⟩ := List.append_of_mem hu
  have hl : lexemes sql = before.map Token.toLexeme ++ (u :: after).map Token.toLexeme := by
    rw [← map_placeFrom 0 (lexemes sql), ← tokenize, hs, List.map_append]
  have hstart : (spell (before.map Token.toLexeme)).length = u.start := by
    rw [start_of_tokenize hs, written_eq_spell]
  have hpart : u.text.take (cursor - u.start) <+: spell ((u :: after).map Token.toLexeme) :=
    (List.take_prefix _ _).trans (List.prefix_append _ _)
  have hlength : cursor - u.start ≤ u.text.length := by
    rw [Token.stop] at hhigh
    omega
  have hcut : sql.take cursor =
      spell (before.map Token.toLexeme) ++ u.text.take (cursor - u.start) := by
    rw [← spell_lexemes sql, hl, spell_append, List.take_append, hstart,
      List.take_of_length_le (by omega), List.map_cons, spell_cons,
      List.take_append_of_le_length hlength]
  exact ⟨_, by rw [hcut, lexemes_part hl hpart]⟩

theorem lexeme_alone {sql : Text} {l : Lexeme} (hl : l ∈ lexemes sql) :
    ∃ u rest, l = firstLexeme u rest ∧ l.text = u :: rest ∧ (front u rest).2 = rest.length := by
  have hown := lexemes_of_text hl
  cases ht : l.text with
  | nil => exact absurd ht (lexeme_nonempty l hl)
  | cons u rest =>
    rw [ht, lexemes_cons] at hown
    obtain ⟨hfirst, hnone⟩ := List.cons.inj hown
    have hdrop := lexemes_eq_nil hnone
    refine ⟨u, rest, hfirst.symm, rfl, ?_⟩
    exact Nat.le_antisymm (front_le u rest) (List.drop_eq_nil_iff.mp hdrop)

/-- Counts the units with which literals open. A line comment opens with two of its marks, other
literals with one of theirs. -/
def openers (t : Text) : Nat :=
  t.count (unit '-') + 2 * (t.count (unit '/') + t.count (unit '\x27'))

/-- A test that no opening mark passes. -/
def Excludes (p : CodeUnit → Bool) : Prop :=
  p (unit '-') = false ∧ p (unit '/') = false ∧ p (unit '\x27') = false

theorem openers_append (s t : Text) : openers (s ++ t) = openers s + openers t := by
  simp only [openers, List.count_append]
  omega

theorem openers_cons (u : CodeUnit) (t : Text) : openers (u :: t) = openers [u] + openers t :=
  openers_append [u] t

theorem openers_take_le (k : Nat) (t : Text) : openers (t.take k) ≤ openers t := by
  have h := openers_append (t.take k) (t.drop k)
  rw [List.take_append_drop] at h
  omega

theorem openers_le_of_mem {t : Text} {l : Lexeme} (hl : l ∈ lexemes t) :
    openers l.text ≤ openers t := by
  obtain ⟨before, after, hs⟩ := List.append_of_mem hl
  have ht := spell_lexemes t
  rw [hs, spell_append, spell_cons] at ht
  rw [← ht, openers_append, openers_append]
  omega

theorem openers_of_excluded {p : CodeUnit → Bool} {t : Text} (hp : Excludes p)
    (h : ∀ u ∈ t, p u = true) : openers t = 0 := by
  have habsent (u : CodeUnit) (hu : p u = false) : t.count u = 0 :=
    List.count_eq_zero.mpr fun hm => by simp [h u hm] at hu
  rw [openers, habsent _ hp.1, habsent _ hp.2.1, habsent _ hp.2.2]

theorem take_run (p : CodeUnit → Bool) (t : Text) :
    t.take (t.takeWhile p).length = t.takeWhile p :=
  (List.prefix_iff_eq_take.mp (List.takeWhile_prefix p)).symm

theorem openers_run {p : CodeUnit → Bool} (hp : Excludes p) (t : Text) :
    openers (t.take (t.takeWhile p).length) = 0 := by
  rw [take_run]
  exact openers_of_excluded hp fun u hu => List.mem_takeWhile_imp hu

theorem excludes_digits : Excludes CodeUnit.isDigit := by
  unfold Excludes
  decide

theorem openers_fraction (t : Text) : openers (t.take (fractionRun t)) = 0 := by
  cases t with
  | nil => rfl
  | cons p rest =>
    rw [fractionRun]
    split
    · rename_i hp
      have hdigits := openers_run excludes_digits rest
      rw [hp, Nat.add_comm, List.take_succ_cons, openers_cons, digitRun, hdigits]
      decide
    · rfl

/-- Only the sign of an exponent is a dash. -/
theorem openers_exponent (t : Text) : openers (t.take (exponentRun t)) ≤ 1 := by
  have hletter {e : CodeUnit} (he : (e = unit 'e' || e = unit 'E') = true) : openers [e] = 0 := by
    simp only [Bool.or_eq_true, decide_eq_true_eq] at he
    rcases he with rfl | rfl
    · decide
    · decide
  have hsigned {sign : CodeUnit} (hs : (sign = unit '+' || sign = unit '-') = true) :
      openers [sign] ≤ 1 := by
    simp only [Bool.or_eq_true, decide_eq_true_eq] at hs
    rcases hs with rfl | rfl
    · decide
    · decide
  fun_cases exponentRun t with
  | case1 e he sign digits hs hnone => simp [openers]
  | case2 e he sign digits hs hsome =>
    have hrun := openers_run excludes_digits digits
    rw [Nat.add_comm, List.take_succ_cons, List.take_succ_cons, openers_cons,
      openers_cons (u := sign), hletter he, digitRun, hrun]
    have := hsigned hs
    omega
  | case3 e he sign digits hs hnone => simp [hnone, openers]
  | case4 e he sign digits hs hsome =>
    have hrun := openers_run excludes_digits (sign :: digits)
    rw [if_neg hsome, Nat.add_comm, List.take_succ_cons, openers_cons, hletter he, digitRun, hrun]
    omega
  | case5 => simp [openers]
  | case6 => simp [openers]
  | case7 => simp [openers]

theorem openers_decimal (t : Text) : openers (t.take (decimalRun t)) ≤ 1 := by
  have hwhole : openers (t.take (digitRun t)) = 0 := openers_run excludes_digits t
  have hfraction := openers_fraction (t.drop (digitRun t))
  have hexponent := openers_exponent
    (t.drop (digitRun t + fractionRun (t.drop (digitRun t))))
  rw [decimalRun, List.take_add, List.take_add, openers_append, openers_append]
  omega

theorem openers_hexadecimal (t : Text) : openers (t.take (hexadecimalRun t)) = 0 := by
  have hexcluded : Excludes CodeUnit.isHexDigit := by
    unfold Excludes
    decide
  fun_cases hexadecimalRun t with
  | case1 z x rest n hmark =>
    simp only [Bool.and_eq_true, Bool.or_eq_true, decide_eq_true_eq] at hmark
    obtain ⟨⟨rfl, hx⟩, -⟩ := hmark
    have hdigits : openers (rest.take n) = 0 := openers_run hexcluded rest
    have hbase : openers [x] = 0 := by
      rcases hx with rfl | rfl
      · decide
      · decide
    rw [Nat.add_comm, List.take_succ_cons, List.take_succ_cons, openers_cons,
      openers_cons (u := x), hbase, hdigits]
    decide
  | case2 => rfl
  | case3 => rfl

theorem openers_number (t : Text) : openers (t.take (numberRun t)) ≤ 1 := by
  rw [numberRun]
  split
  · exact openers_decimal t
  · rw [openers_hexadecimal]
    omega

/-- An operator of more than one unit holds no slash and no two dashes. -/
theorem openers_operator {t : Text} (h : 1 < operatorRun t) :
    openers (t.take (operatorRun t)) ≤ 1 := by
  have hall : ∀ op ∈ longOperators, openers op ≤ 1 := by decide
  unfold operatorRun at h ⊢
  split at h
  · rename_i op hop
    have hfront : op <+: t := List.isPrefixOf_iff_prefix.mp
      (by simpa using List.find?_some hop)
    rw [← List.prefix_iff_eq_take.mp hfront]
    exact hall op (List.mem_of_find?_eq_some hop)
  · exact absurd h (Nat.lt_irrefl 1)

theorem not_literal_word (t text : Text) : isLiteralOrComment ⟨wordKind t, text⟩ = false := by
  unfold isLiteralOrComment wordKind
  cases Keyword.ofWord? t <;> rfl

/-- What a literal opens with counts as two units. -/
theorem openers_literal {sql : Text} {l : Lexeme} (hl : l ∈ lexemes sql)
    (h : l.isLiteralOrComment = true) : 2 ≤ openers l.text := by
  obtain ⟨u, rest, rfl, htext, -⟩ := lexeme_alone hl
  have hslash : openers [unit '/'] = 2 := by decide
  have hquote : openers [unit '\x27'] = 2 := by decide
  rw [htext, openers_cons]
  rw [firstLexeme, front_eq] at h
  cases ho : Opening.of u rest.head? with
  | string =>
    rw [unit_of_string ho, hquote]
    omega
  | blockComment =>
    rw [(units_of_comment ho).1, hslash]
    omega
  | blob =>
    obtain ⟨more, rfl⟩ := List.head?_eq_some_iff.mp (next_of_blob ho)
    rw [openers_cons (u := unit '\x27'), hquote]
    omega
  | lineComment =>
    obtain ⟨rfl, hnext⟩ := units_of_lineComment ho
    obtain ⟨more, rfl⟩ := List.head?_eq_some_iff.mp hnext
    have hdash : openers [unit '-'] = 1 := by decide
    rw [openers_cons (u := unit '-') (t := more), hdash]
    omega
  | word =>
    rw [ho] at h
    simp [Opening.read, not_literal_word] at h
  | blanks | quoted | number | operator =>
    rw [ho] at h
    exact Bool.noConfusion h

/-- Names in quotes stay such names however much of them is read. -/
theorem quoted_any {u closer : CodeUnit} {next : Option CodeUnit}
    (h : Opening.of u next = .quoted closer) (next' : Option CodeUnit) :
    Opening.of u next' = .quoted closer := by
  have hq := closer_of_quoted h
  have hu : u = unit '\x22' ∨ u = unit '\x60' ∨ u = unit '[' := by
    unfold closingQuote? at hq
    grind
  have hother : u.isBlank = false ∧ u ≠ unit '-' ∧ u ≠ unit '/' ∧ u ≠ unit '\x27' ∧
      u ≠ unit 'x' ∧ u ≠ unit 'X' := by
    rcases hu with rfl | rfl | rfl
    · decide
    · decide
    · decide
  simp [Opening.of, hother, hq]

theorem quotedRun_short {closer : CodeUnit} {t : Text} {j : Nat}
    (h : j ≤ (quotedRun closer t).1) : (quotedRun closer (t.take j)).1 = j := by
  have hlength : (t.take j).length = j := by
    rw [List.length_take]
    exact Nat.min_eq_left (Nat.le_trans h (quotedRun_le closer t))
  have hle := quotedRun_le closer (t.take j)
  rcases Nat.lt_or_ge (quotedRun closer (t.take j)).1 (t.take j).length with hshort | hall
  · -- a run that stops within the part stops there in the whole, too
    have hsame : quotedRun closer (t.take j ++ t.drop j) = quotedRun closer (t.take j) :=
      quotedRun_extend hshort
    rw [List.take_append_drop] at hsame
    rw [hsame] at h
    omega
  · omega

theorem lexemes_quoted_part {u closer : CodeUnit} {rest : Text} {j : Nat}
    (ho : Opening.of u rest.head? = .quoted closer) (hj : j ≤ (front u rest).2) :
    ∃ closed, lexemes (u :: rest.take j) = [⟨.quotedIdentifier closed, u :: rest.take j⟩] := by
  have hfront : front u (rest.take j) = (Opening.quoted closer).read u (rest.take j) := by
    rw [front_eq, quoted_any ho]
  rw [front_eq, ho] at hj
  have hrun : (quotedRun closer (rest.take j)).1 = j := quotedRun_short hj
  refine ⟨(quotedRun closer (rest.take j)).2, ?_⟩
  rw [lexemes_cons, firstLexeme, hfront, Opening.read, hrun, List.take_take, Nat.min_self,
    List.drop_take, Nat.sub_self, List.take_zero, lexemes_nil]

theorem excludes_blanks : Excludes CodeUnit.isBlank := by
  unfold Excludes
  decide

theorem excludes_words : Excludes isWordStart ∧ Excludes isWordPart := by
  unfold Excludes
  decide

theorem openers_of_runs {p q : CodeUnit → Bool} {u : CodeUnit} {rest : Text} (hp : Excludes p)
    (hq : Excludes q) (hu : p u = true) (hrest : (rest.takeWhile q).length = rest.length) :
    openers (u :: rest) = 0 := by
  have hrun := openers_run hq rest
  rw [hrest, List.take_length] at hrun
  have hfirst : openers [u] = 0 :=
    openers_of_excluded hp fun v hv => (List.mem_singleton.mp hv) ▸ hu
  rw [openers_cons, hfirst, hrun]

/-- Of the lexemes of more than one unit only literals and names in quotes hold what could open a
literal. -/
theorem openers_whole {u : CodeUnit} {rest : Text} (hrest : 0 < rest.length)
    (hwhole : (front u rest).2 = rest.length) :
    (firstLexeme u rest).isLiteralOrComment = true ∨
      (∃ closer, Opening.of u rest.head? = .quoted closer) ∨ openers (u :: rest) ≤ 1 := by
  rw [front_eq] at hwhole
  rw [firstLexeme, front_eq]
  cases ho : Opening.of u rest.head? with
  | lineComment | blockComment | string | blob => exact .inl rfl
  | quoted closer => exact .inr (.inl ⟨closer, rfl⟩)
  | blanks =>
    rw [ho] at hwhole
    have hnone := openers_of_runs excludes_blanks excludes_blanks (unit_of_blanks ho) hwhole
    exact .inr (.inr (by omega))
  | word =>
    rw [ho] at hwhole
    have hnone := openers_of_runs excludes_words.1 excludes_words.2 (unit_of_word ho) hwhole
    exact .inr (.inr (by omega))
  | number =>
    rw [ho] at hwhole
    have hrun : numberRun (u :: rest) = (u :: rest).length := by
      simp only [Opening.read, List.length_cons] at hwhole ⊢
      omega
    have hfew := openers_number (u :: rest)
    rw [hrun, List.take_length] at hfew
    exact .inr (.inr hfew)
  | operator =>
    rw [ho] at hwhole
    have hrun : operatorRun (u :: rest) = (u :: rest).length := by
      simp only [Opening.read, List.length_cons] at hwhole ⊢
      omega
    have hfew := openers_operator (t := u :: rest) (by rw [hrun, List.length_cons]; omega)
    rw [hrun, List.take_length] at hfew
    exact .inr (.inr hfew)

/-- A part of a lexeme holds a literal only if the lexeme is one. -/
theorem literal_of_part {sql : Text} {l p : Lexeme} {k : Nat} (hl : l ∈ lexemes sql)
    (hpos : 0 < k) (hk : k < l.text.length) (hp : p ∈ lexemes (l.text.take k))
    (hlit : p.isLiteralOrComment = true) : l.isLiteralOrComment = true := by
  have htwo := openers_literal hp hlit
  have hpart := openers_le_of_mem hp
  have hfew := openers_take_le k l.text
  obtain ⟨u, rest, rfl, htext, hwhole⟩ := lexeme_alone hl
  rw [htext] at hp hk hfew hpart
  rw [List.length_cons] at hk
  rcases openers_whole (by omega) hwhole with hliteral | ⟨closer, ho⟩ | hplain
  · exact hliteral
  · obtain ⟨j, rfl⟩ := Nat.exists_eq_add_one.mpr hpos
    obtain ⟨closed, hread⟩ := lexemes_quoted_part (j := j) ho (by omega)
    rw [List.take_succ_cons, hread] at hp
    rw [List.mem_singleton.mp hp] at hlit
    contradiction
  · omega

/-- A string or a block comment without its end, or a line comment: what is typed next belongs
to it. -/
def IsOpenLiteral : Lexeme.Kind → Prop
  | .string closed | .blockComment closed => closed = false
  | .lineComment => True
  | _ => False

theorem literal_of_open {l : Lexeme} (h : IsOpenLiteral l.kind) :
    l.isLiteralOrComment = true ∧ (l.isUnterminated || l.kind == .lineComment) = true := by
  obtain ⟨kind, text⟩ := l
  cases kind with
  | string closed | blockComment closed =>
    obtain rfl : closed = false := h
    exact ⟨rfl, rfl⟩
  | lineComment => exact ⟨rfl, rfl⟩
  | _ => exact h.elim

theorem not_semicolon_of_literal {l : Lexeme} (h : l.isLiteralOrComment = true) :
    l.isMark ';' = false := by
  refine not_mark_of_kind fun hk => ?_
  simp [isLiteralOrComment, hk] at h

theorem last_lexeme {sql : Text} {t : Token} (h : (tokenize sql).getLast? = some t) :
    (lexemes sql).getLast? = some t.toLexeme := by
  rw [← map_placeFrom 0 (lexemes sql), List.getLast?_map, ← tokenize, h]
  rfl

/-- What is open in the first units of a lexeme is open in the lexeme at this place. -/
theorem open_of_part {sql : Text} {l p : Lexeme} {k : Nat} (hl : l ∈ lexemes sql) (hpos : 0 < k)
    (hk : k ≤ l.text.length) (hp : p ∈ lexemes (l.text.take k)) (ho : IsOpenLiteral p.kind) :
    (l.isLiteralOrComment &&
      (k < l.text.length || l.isUnterminated || l.kind == .lineComment)) = true := by
  obtain ⟨hlit, hopen⟩ := literal_of_open ho
  rcases Nat.lt_or_eq_of_le hk with hpart | rfl
  · simp [literal_of_part hl hpos hpart hp hlit, hpart]
  · rw [List.take_length, lexemes_of_text hl] at hp
    obtain rfl := List.mem_singleton.mp hp
    rw [hlit, Bool.true_and, Bool.or_assoc, hopen, Bool.or_true]

/-- Whatever stands behind the cursor, the literal that is open there is one of the whole text. -/
theorem inside_of_open {sql : Text} {cursor : Nat} {t : Token} (hc : cursor ≤ sql.length)
    (ht : (tokenize (sql.take cursor)).getLast? = some t) (hk : IsOpenLiteral t.kind) :
    Token.isInsideLiteral (statementAt sql cursor).tokens cursor = true := by
  have hlast := last_lexeme ht
  have hpos : 0 < cursor := by
    rcases Nat.eq_zero_or_pos cursor with rfl | hpos
    · rw [List.take_zero] at hlast
      contradiction
    · exact hpos
  obtain ⟨u, hu, hlow, hhigh⟩ := exists_token_at hpos hc
  obtain ⟨before, hread⟩ := lexemes_before_cursor hu hlow hhigh
  have hstop : u.stop = u.start + u.text.length := rfl
  have hp : t.toLexeme ∈ lexemes (u.text.take (cursor - u.start)) := by
    have hne : lexemes (u.text.take (cursor - u.start)) ≠ [] := by
      intro hnil
      have hlength := congrArg List.length (lexemes_eq_nil hnil)
      rw [List.length_take, List.length_nil] at hlength
      omega
    rw [hread, List.getLast?_append, List.getLast?_eq_some_getLast hne] at hlast
    exact List.mem_of_getLast? ((List.getLast?_eq_some_getLast hne).trans hlast)
  have hopen := open_of_part (toLexeme_mem hu) (by omega) (by omega) hp hk
  have hlit := (Bool.and_eq_true_iff.mp hopen).1
  obtain ⟨s, hs, hus⟩ := statement_of_token hu (not_semicolon_of_literal hlit)
  rw [statementAt_token hs hus (by omega) (by omega),
    isInsideLiteral_eq (ordered_statement hs) hus (k := cursor - u.start) (by omega) (by omega)
      (by omega)]
  exact hopen

theorem candidatesFor_literal (typed : Text) (schema : Option SchemaSnapshot)
    (options : CompletionOptions) :
    Completion.candidatesFor [.literal] typed schema options = .ok [] := by
  have hreads : [Suggestion.literal].any Suggestion.readsSchema = false := rfl
  have hnone : Proposal.ofSuggestions schema options.vocabularyOrEmpty [.literal] = [] := rfl
  simp [Completion.candidatesFor, hreads, hnone, Candidate.rank, Candidate.ranked, distinctBy]

/-- If the text before the cursor ends in an open literal, then there is an answer, whatever stands
behind the cursor and whatever is known of the schema, and it offers nothing. -/
theorem nothing_completed_in_open_literal {sql : Text} {cursor : Nat} {t : Token}
    {options : CompletionOptions} (hc : cursor ≤ sql.length)
    (ht : (tokenize (sql.take cursor)).getLast? = some t) (hk : IsOpenLiteral t.kind)
    (hv : options.vocabularyOrEmpty = .empty) (schema : Option SchemaSnapshot)
    (reading : Nat → Millis) :
    ∃ c, Completion.run sql (.offset cursor) schema options reading = .ok c ∧
      c.candidates = [] ∧ c.context.suggestions = [.literal] ∧ c.context.kind = .unknown := by
  have hcontext : classify (statementAt sql cursor) cursor options.vocabularyOrEmpty =
      ⟨.literal, [], ⟨[], cursor, cursor⟩, none, (statementAt sql cursor).kind⟩ := by
    rw [hv, classify_empty, Context.ofSql, if_pos (inside_of_open hc ht hk)]
  rw [run_of_le hc, Completion.atOffset]
  simp only [hcontext, Context.suggestions, candidatesFor_literal]
  exact ⟨_, rfl, rfl, rfl, rfl⟩

/-- The string is closed behind the cursor, and another one opens there. -/
theorem nothing_completed_in_string :
    let sql : Text := "SELECT 'it''s ' || 'x'"
    let t : Token := ⟨⟨.string false, "'it''s"⟩, 7⟩
    13 ≤ sql.length ∧ (tokenize (sql.take 13)).getLast? = some t ∧ IsOpenLiteral t.kind ∧
      CompletionOptions.vocabularyOrEmpty {} = .empty ∧
      ∃ c, Completion.run sql (.offset 13) none {} (fun _ => 0) = .ok c ∧
        c.candidates = [] ∧ c.context.suggestions = [.literal] ∧ c.context.kind = .unknown := by
  intro sql t
  have hc : 13 ≤ sql.length := by decide +kernel
  have ht : (tokenize (sql.take 13)).getLast? = some t := by decide +kernel
  exact ⟨hc, ht, rfl, rfl, nothing_completed_in_open_literal hc ht rfl rfl none (fun _ => 0)⟩

end SqlShell.Proofs
