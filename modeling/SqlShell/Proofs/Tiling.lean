import SqlShell.Proofs.Splitting

namespace SqlShell.Proofs
open Lexeme

/-- The items lie one behind the other and fill the text from the first place to the second. -/
def Tiles (start stop : α → Nat) : Nat → Nat → List α → Prop
  | i, k, [] => i = k
  | i, k, a :: rest => start a = i ∧ Tiles start stop (stop a) k rest

/-- What closes a stretch of text. -/
inductive Delimiter where
  | mark (u : CodeUnit)
  /-- The end of a block comment. -/
  | comment

/-- The mark stands in this text only in pairs, each of which is one mark of the body, or nowhere
if it cannot be doubled. -/
inductive Escaped (closer : CodeUnit) : Text → Prop
  | nil : Escaped closer []
  | other (hu : u ≠ closer) (h : Escaped closer t) : Escaped closer (u :: t)
  | pair (hd : isDoubling closer = true) (h : Escaped closer t) :
      Escaped closer (closer :: closer :: t)

/-- Whether a closing delimiter occurs in the text behind the opening one. A mark that belongs to a
pair closes nothing. -/
def Delimiter.OccursIn : Delimiter → Text → Prop
  | mark u, t => ∃ body rest, t = body ++ u :: rest ∧ Escaped u body ∧
      (isDoubling u = true → rest.head? ≠ some u)
  | comment, t => [unit '*', unit '/'] <:+: t

section
variable {closer u : CodeUnit} {t : Text}

theorem not_occurs_nil : ¬ (Delimiter.mark closer).OccursIn [] := by
  rintro ⟨body, rest, h, -⟩
  simp at h

theorem occurs_here (h : isDoubling closer = true → t.head? ≠ some closer) :
    (Delimiter.mark closer).OccursIn (closer :: t) :=
  ⟨[], t, rfl, .nil, h⟩

theorem occurs_other (hu : u ≠ closer) :
    (Delimiter.mark closer).OccursIn (u :: t) ↔ (Delimiter.mark closer).OccursIn t := by
  constructor
  · rintro ⟨body, rest, h, hb, hr⟩
    cases hb with
    | nil => exact absurd (List.cons.inj h).1 hu
    | other _ hb => exact ⟨_, rest, (List.cons.inj h).2, hb, hr⟩
    | pair _ _ => exact absurd (List.cons.inj h).1 hu
  · rintro ⟨body, rest, rfl, hb, hr⟩
    exact ⟨u :: body, rest, rfl, .other hu hb, hr⟩

theorem occurs_pair (hd : isDoubling closer = true) :
    (Delimiter.mark closer).OccursIn (closer :: closer :: t) ↔
      (Delimiter.mark closer).OccursIn t := by
  constructor
  · rintro ⟨body, rest, h, hb, hr⟩
    cases hb with
    | nil =>
      obtain rfl := (List.cons.inj h).2
      exact absurd rfl (hr hd)
    | other hu _ => exact absurd (List.cons.inj h).1.symm hu
    | pair _ hb => exact ⟨_, rest, (List.cons.inj (List.cons.inj h).2).2, hb, hr⟩
  · rintro ⟨body, rest, rfl, hb, hr⟩
    exact ⟨closer :: closer :: body, rest, rfl, .pair hd hb, hr⟩

theorem quotedRun_closed_iff :
    (quotedRun closer t).2 = true ↔ (Delimiter.mark closer).OccursIn t := by
  fun_induction quotedRun closer t with
  | case1 => simp [not_occurs_nil]
  | case2 u =>
    by_cases hu : u = closer
    · subst hu
      exact iff_of_true (beq_self_eq_true u) (occurs_here (by simp))
    · simp [occurs_other hu, not_occurs_nil, hu]
  | case3 v rest hd n closed he ih =>
    obtain ⟨hd, hv⟩ := Bool.and_eq_true_iff.mp hd
    obtain rfl := eq_of_beq hv
    rw [he] at ih
    rw [occurs_pair hd]
    exact ih
  | case4 v rest hd =>
    refine iff_of_true rfl (occurs_here ?_)
    intro hdouble hv
    simp_all
  | case5 u v rest hu n closed he ih =>
    rw [he] at ih
    rw [occurs_other hu]
    exact ih

theorem quotedRun_open (h : (quotedRun closer t).2 = false) :
    (quotedRun closer t).1 = t.length := by
  fun_induction quotedRun closer t with
  | case1 | case2 => rfl
  | case3 v rest hd n closed he ih =>
    rw [he] at ih
    exact congrArg (· + 2) (ih h)
  | case4 v rest hd => contradiction
  | case5 u v rest hu n closed he ih =>
    rw [he] at ih
    exact congrArg (· + 1) (ih h)

theorem commentRun_closed_iff : (commentRun t).2 = true ↔ Delimiter.comment.OccursIn t := by
  simp only [Delimiter.OccursIn]
  fun_induction commentRun t with
  | case1 => simp
  | case2 u => simp [List.infix_cons_iff]
  | case3 u v rest h =>
    obtain ⟨rfl, rfl⟩ : u = unit '*' ∧ v = unit '/' := by simpa using h
    exact iff_of_true rfl ⟨[], rest, rfl⟩
  | case4 u v rest h n closed he ih =>
    rw [he] at ih
    have hfront : ¬ [unit '*', unit '/'] <+: u :: v :: rest := by
      simp only [List.cons_prefix_cons, List.nil_prefix, and_true]
      rintro ⟨rfl, rfl⟩
      simp at h
    rw [List.infix_cons_iff, or_iff_right hfront]
    exact ih

theorem commentRun_open (h : (commentRun t).2 = false) : (commentRun t).1 = t.length := by
  fun_induction commentRun t with
  | case1 | case2 => rfl
  | case3 u v rest hc => contradiction
  | case4 u v rest hc n closed he ih =>
    rw [he] at ih
    exact congrArg (· + 1) (ih h)

end

/-- What opens a lexeme of this kind, and what has to close it. -/
inductive Opens : Lexeme.Kind → Text → Delimiter → Prop
  | string : Opens (.string closed) [unit '\x27'] (.mark (unit '\x27'))
  | blob (hx : x = unit 'x' ∨ x = unit 'X') :
      Opens (.string closed) [x, unit '\x27'] (.mark (unit '\x27'))
  | quoted (hq : closingQuote? u = some closer) :
      Opens (.quotedIdentifier closed) [u] (.mark closer)
  | comment : Opens (.blockComment closed) [unit '/', unit '*'] .comment

/-- A string, a quoted identifier or a block comment. -/
def isDelimited (l : Lexeme) : Bool :=
  match l.kind with
  | .string _ | .quotedIdentifier _ | .blockComment _ => true
  | _ => false

theorem isDelimited_of_unterminated {l : Lexeme} (h : l.isUnterminated = true) :
    isDelimited l = true := by
  unfold Lexeme.isUnterminated at h
  unfold isDelimited
  split at h <;> simp_all

theorem not_delimited_word (t text : Text) : isDelimited ⟨wordKind t, text⟩ = false := by
  unfold isDelimited wordKind
  cases Keyword.ofWord? t <;> rfl

/-- The lexeme at the front of a text is closed exactly if its closing delimiter occurs anywhere
behind the opening one; if not, it runs to the end. -/
theorem firstLexeme_delimited {u : CodeUnit} {rest : Text}
    (h : isDelimited (firstLexeme u rest) = true) :
    ∃ opening d, Opens (firstLexeme u rest).kind opening d ∧
      opening <+: (firstLexeme u rest).text ∧
      ((firstLexeme u rest).isUnterminated = true ↔
        ¬ d.OccursIn ((u :: rest).drop opening.length)) ∧
      ((firstLexeme u rest).isUnterminated = true → (front u rest).2 = rest.length) := by
  rw [firstLexeme, front_eq] at h ⊢
  cases ho : Opening.of u rest.head? with
  | string =>
    obtain rfl := unit_of_string ho
    refine ⟨_, _, .string, ⟨_, rfl⟩, ?_, ?_⟩
    · simp [Lexeme.isUnterminated, Opening.read, ← quotedRun_closed_iff]
    · simpa [Lexeme.isUnterminated, Opening.read] using quotedRun_open
  | quoted closer =>
    refine ⟨_, _, .quoted (closer_of_quoted ho), ⟨_, rfl⟩, ?_, ?_⟩
    · simp [Lexeme.isUnterminated, Opening.read, ← quotedRun_closed_iff]
    · simpa [Lexeme.isUnterminated, Opening.read] using quotedRun_open
  | blob =>
    obtain ⟨rest, rfl⟩ := List.head?_eq_some_iff.mp (next_of_blob ho)
    have hfront : [u, unit '\x27'] <+: u :: (unit '\x27' :: rest).take
        (Opening.blob.read u (unit '\x27' :: rest)).2 := by
      simp [Opening.read, Nat.add_comm 1]
    refine ⟨_, _, .blob (unit_of_blob ho), hfront, ?_, ?_⟩
    · simp [Lexeme.isUnterminated, Opening.read, ← quotedRun_closed_iff]
    · simpa [Lexeme.isUnterminated, Opening.read, Nat.add_comm 1] using quotedRun_open
  | blockComment =>
    obtain ⟨rfl, hnext⟩ := units_of_comment ho
    obtain ⟨rest, rfl⟩ := List.head?_eq_some_iff.mp hnext
    have hfront : [unit '/', unit '*'] <+: unit '/' :: (unit '*' :: rest).take
        (Opening.blockComment.read (unit '/') (unit '*' :: rest)).2 := by
      simp [Opening.read, Nat.add_comm 1]
    refine ⟨_, _, .comment, hfront, ?_, ?_⟩
    · simp [Lexeme.isUnterminated, Opening.read, ← commentRun_closed_iff]
    · simpa [Lexeme.isUnterminated, Opening.read, Nat.add_comm 1] using commentRun_open
  | word =>
    rw [ho] at h
    simp [Opening.read, not_delimited_word] at h
  | blanks | lineComment | number | operator =>
    rw [ho] at h
    contradiction

theorem only_last_unterminated (t : Text) :
    ∀ l ∈ (lexemes t).dropLast, l.isUnterminated = false := by
  induction t using reading_induction with
  | nil => simp
  | cons u rest ih =>
    intro l hl
    rw [lexemes_cons] at hl
    cases hmore : lexemes (rest.drop (front u rest).2) with
    | nil => simp [hmore] at hl
    | cons next more =>
      rw [hmore] at hl ih
      rcases List.mem_cons.mp hl with rfl | hl
      · rw [Bool.eq_false_iff]
        intro hopen
        obtain ⟨_, _, _, _, _, hall⟩ :=
          firstLexeme_delimited (isDelimited_of_unterminated hopen)
        rw [hall hopen, List.drop_length] at hmore
        contradiction
      · exact ih l hl

section
variable {sql : Text} {t : Token}

/-- A token is the lexeme at the front of the text from its place on. -/
theorem lexeme_at_place (ht : t ∈ tokenize sql) :
    ∃ u rest, sql.drop t.start = u :: rest ∧ t.toLexeme = firstLexeme u rest := by
  obtain ⟨before, after, hs⟩ := List.append_of_mem ht
  have hsql : sql = written before ++ written (t :: after) := by
    rw [← written_append, ← hs, written_tokenize]
  have hread : lexemes (written (t :: after)) = t.toLexeme :: after.map Token.toLexeme := by
    have hlexemes : lexemes sql =
        before.map Token.toLexeme ++ (t :: after).map Token.toLexeme := by
      rw [← map_placeFrom 0 (lexemes sql), ← tokenize, hs, List.map_append]
    rw [written_eq_spell]
    exact (lexemes_cut hlexemes).2
  have hdrop : sql.drop t.start = written (t :: after) := by
    rw [start_of_tokenize hs]
    exact (congrArg _ hsql).trans List.drop_left
  cases hw : written (t :: after) with
  | nil =>
    rw [hw] at hread
    contradiction
  | cons u rest =>
    rw [hw, lexemes_cons] at hread
    exact ⟨u, rest, hdrop.trans hw, (List.cons.inj hread).1.symm⟩

theorem token_eq_extract (ht : t ∈ tokenize sql) : t.text = sql.extract t.start t.stop := by
  obtain ⟨u, rest, hdrop, hl⟩ := lexeme_at_place ht
  have hn := front_le u rest
  rw [List.extract_eq_take_drop, hdrop, Token.stop, Nat.add_sub_cancel_left, hl, firstLexeme]
  simp [Nat.min_eq_left hn]

theorem token_nonempty (ht : t ∈ tokenize sql) : t.text ≠ [] :=
  lexeme_nonempty _ (toLexeme_mem ht)

/-- A string, a quoted identifier or a block comment is marked as unterminated exactly if its
closing delimiter does not occur in the text. -/
theorem token_delimited (ht : t ∈ tokenize sql) (h : isDelimited t.toLexeme = true) :
    ∃ opening d, Opens t.kind opening d ∧ opening <+: t.text ∧
      (t.isUnterminated = true ↔ ¬ d.OccursIn (sql.drop (t.start + opening.length))) := by
  obtain ⟨u, rest, hdrop, hl⟩ := lexeme_at_place ht
  rw [hl] at h ⊢
  obtain ⟨opening, d, hopens, hfront, hclosed, -⟩ := firstLexeme_delimited h
  refine ⟨opening, d, hopens, hfront, ?_⟩
  rw [← List.drop_drop, hdrop]
  exact hclosed

theorem only_last_token_unterminated (sql : Text) :
    ∀ t ∈ (tokenize sql).dropLast, t.isUnterminated = false := by
  intro t ht
  apply only_last_unterminated sql
  rw [← map_placeFrom 0 (lexemes sql), ← List.map_dropLast]
  exact List.mem_map_of_mem ht

theorem tiles_placeFrom (n : Nat) (ls : List Lexeme) :
    Tiles Token.start Token.stop n (n + (spell ls).length) (placeFrom n ls) := by
  induction ls generalizing n with
  | nil => rfl
  | cons l ls ih =>
    refine ⟨rfl, ?_⟩
    rw [spell_cons, List.length_append, ← Nat.add_assoc]
    exact ih (n + l.text.length)

theorem tiles_tokenize (sql : Text) :
    Tiles Token.start Token.stop 0 sql.length (tokenize sql) := by
  have h := tiles_placeFrom 0 (lexemes sql)
  rwa [spell_lexemes, Nat.zero_add] at h

end

/-- The tokens of a statement with the semicolon that terminates it. -/
def wholeTokens (s : Statement) : List Token :=
  s.tokens ++ if s.terminated then [⟨semicolon, s.stop - 1⟩] else []

/-- A token that ends a statement is the semicolon behind it. -/
theorem token_of_endsAt {p : Statement.Progress} {t : Token} (h : p.endsAt t = true) :
    t = ⟨semicolon, t.stop - 1⟩ := by
  have hmark := mark_of_endsAt h
  have htext := text_of_mark hmark
  simp only [Lexeme.isMark, Lexeme.isPunctuation, Bool.and_eq_true, beq_iff_eq] at hmark
  have hl : t.toLexeme = semicolon := by
    rw [semicolon, ← hmark.1, ← hmark.2]
  have hstart : t.start = t.stop - 1 := by
    rw [Token.stop, htext]
    rfl
  rw [← hl, ← hstart]

theorem Split.tiles (h : Split start ts ss) (hp : Placed start ts) :
    Tiles Statement.start Statement.stop start (start + (written ts).length) ss := by
  induction h with
  | last h =>
    refine ⟨rfl, ?_⟩
    rw [Tiles, Statement.stop, text_eq]
    simp
  | @cons body t more ss start h ht _ ih =>
    have htext := text_of_mark (mark_of_endsAt ht)
    obtain ⟨hstop, hmore⟩ := hp.behind htext
    have hend : start + (written (body ++ t :: more)).length = t.stop + (written more).length := by
      rw [hstop, length_behind htext]
      omega
    refine ⟨rfl, ?_⟩
    rw [hend, stop_ended, ← hstop]
    exact ih hmore

theorem Split.wholeTokens (h : Split start ts ss) (hp : Placed start ts) :
    ss.flatMap wholeTokens = ts := by
  induction h with
  | last h => simp [Proofs.wholeTokens]
  | @cons body t more ss start h ht _ ih =>
    obtain ⟨hstop, hmore⟩ := hp.behind (text_of_mark (mark_of_endsAt ht))
    have hwhole : Proofs.wholeTokens ⟨start, body, true⟩ = body ++ [t] := by
      rw [Proofs.wholeTokens, stop_ended, ← hstop, token_of_endsAt ht]
      rfl
    rw [List.flatMap_cons, hwhole, ih hmore, List.append_assoc]
    rfl

theorem Split.ended (h : Split start ts ss) :
    ∃ ended last, ss = ended ++ [last] ∧ (∀ s ∈ ended, s.terminated = true) ∧
      last.terminated = false := by
  induction h with
  | last h => exact ⟨[], _, rfl, by simp, rfl⟩
  | cons h ht _ ih =>
    obtain ⟨ended, last, rfl, hended, hlast⟩ := ih
    exact ⟨_ :: ended, last, rfl, List.forall_mem_cons.mpr ⟨rfl, hended⟩, hlast⟩

/-- Reading a text leaves nothing of it out and reads nothing twice. Its tokens lie one behind the
other from its beginning to its end, and so do its statements, whose tokens with the semicolons
behind them are all the tokens. A lexeme that waits for a closing delimiter is marked exactly if
there is none, and only the last token can be one; only the last statement is not terminated. -/
theorem tokens_and_statements_tile (sql : Text) :
    (Tiles Token.start Token.stop 0 sql.length (tokenize sql) ∧
      (∀ t ∈ tokenize sql, t.text ≠ [] ∧ t.text = sql.extract t.start t.stop) ∧
      (tokenize sql).flatMap (fun t => t.text) = sql) ∧
    ((∀ t ∈ (tokenize sql).dropLast, t.isUnterminated = false) ∧
      (∀ t ∈ tokenize sql, t.isUnterminated = true → isDelimited t.toLexeme = true) ∧
      (∀ t ∈ tokenize sql, isDelimited t.toLexeme = true →
        ∃ opening d, Opens t.kind opening d ∧ opening <+: t.text ∧
          (t.isUnterminated = true ↔ ¬ d.OccursIn (sql.drop (t.start + opening.length))))) ∧
    (Tiles Statement.start Statement.stop 0 sql.length (statements sql) ∧
      (∀ s ∈ statements sql, s.text = sql.extract s.start s.stop) ∧
      (∃ ended last, statements sql = ended ++ [last] ∧ (∀ s ∈ ended, s.terminated = true) ∧
        last.terminated = false) ∧
      (statements sql).flatMap wholeTokens = tokenize sql) := by
  have hsplit := split_statements sql
  have hplaced := placed_tokenize sql
  have htiles := hsplit.tiles hplaced
  rw [written_tokenize, Nat.zero_add] at htiles
  exact ⟨⟨tiles_tokenize sql, fun t ht => ⟨token_nonempty ht, token_eq_extract ht⟩,
      written_tokenize sql⟩,
    ⟨only_last_token_unterminated sql, fun t _ => isDelimited_of_unterminated,
      fun t ht => token_delimited ht⟩,
    htiles, fun s hs => text_eq_extract hs, hsplit.ended, hsplit.wholeTokens hplaced⟩

end SqlShell.Proofs
