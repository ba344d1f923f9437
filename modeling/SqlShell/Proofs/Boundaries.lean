import SqlShell.Proofs.Reading

namespace SqlShell.Proofs

/-- The text of tokens that stand one behind the other. -/
def written (ts : List Token) : Text := ts.flatMap (·.text)

@[simp] theorem written_nil : written [] = [] := rfl

@[simp] theorem written_cons (t : Token) (ts : List Token) :
    written (t :: ts) = t.text ++ written ts := rfl

@[simp] theorem written_append (ts us : List Token) :
    written (ts ++ us) = written ts ++ written us := by
  simp [written]

theorem written_eq_spell (ts : List Token) : written ts = spell (ts.map Token.toLexeme) := by
  simp [written, spell, List.flatMap_map]

@[simp] theorem shift_toLexeme (n : Nat) (t : Token) : (t.shift n).toLexeme = t.toLexeme := rfl

@[simp] theorem shift_start (n : Nat) (t : Token) : (t.shift n).start = t.start + n := rfl

@[simp] theorem shift_stop (n : Nat) (t : Token) : (t.shift n).stop = t.stop + n := by
  simp only [Token.stop, shift_start, shift_toLexeme]
  omega

@[simp] theorem shift_zero : Token.shift 0 = id := rfl

@[simp] theorem written_shift (n : Nat) (ts : List Token) :
    written (ts.map (Token.shift n)) = written ts := by
  simp [written, List.flatMap_map]

theorem map_placeFrom (n : Nat) (ls : List Lexeme) :
    (placeFrom n ls).map Token.toLexeme = ls := by
  induction ls generalizing n with
  | nil => rfl
  | cons l ls ih => simp [placeFrom, ih]

@[simp] theorem written_placeFrom (n : Nat) (ls : List Lexeme) :
    written (placeFrom n ls) = spell ls := by
  rw [written_eq_spell, map_placeFrom]

theorem placeFrom_append (n : Nat) (ls ms : List Lexeme) :
    placeFrom n (ls ++ ms) = placeFrom n ls ++ placeFrom (n + (spell ls).length) ms := by
  induction ls generalizing n with
  | nil => simp [placeFrom]
  | cons l ls ih => simp [placeFrom, ih, Nat.add_assoc]

theorem placeFrom_shift (n m : Nat) (ls : List Lexeme) :
    placeFrom (n + m) ls = (placeFrom n ls).map (Token.shift m) := by
  induction ls generalizing n with
  | nil => rfl
  | cons l ls ih =>
    have hn : n + m + l.text.length = n + l.text.length + m := by omega
    simp only [placeFrom, List.map_cons, hn, ih]
    rfl

theorem placeFrom_split {n : Nat} {ls : List Lexeme} {before after : List Token}
    (h : placeFrom n ls = before ++ after) :
    ∃ ms ns, ls = ms ++ ns ∧ before = placeFrom n ms ∧
      after = placeFrom (n + (spell ms).length) ns := by
  induction ls generalizing n before with
  | nil =>
    obtain ⟨rfl, rfl⟩ := List.append_eq_nil_iff.mp h.symm
    exact ⟨[], [], rfl, rfl, rfl⟩
  | cons l ls ih =>
    cases before with
    | nil => exact ⟨[], l :: ls, rfl, rfl, by simpa using h.symm⟩
    | cons t before =>
      rw [placeFrom, List.cons_append] at h
      obtain ⟨rfl, hr⟩ := List.cons.inj h
      obtain ⟨ms, ns, rfl, rfl, rfl⟩ := ih hr
      refine ⟨l :: ms, ns, rfl, rfl, ?_⟩
      rw [spell_cons, List.length_append, Nat.add_assoc]

theorem toLexeme_mem {sql : Text} {t : Token} (ht : t ∈ tokenize sql) :
    t.toLexeme ∈ lexemes sql := by
  rw [← map_placeFrom 0 (lexemes sql)]
  exact List.mem_map_of_mem ht

theorem written_tokenize (sql : Text) : written (tokenize sql) = sql := by
  rw [tokenize, written_placeFrom, spell_lexemes]

/-- Each part of the tokens is read again from its own text, from the place where it begins. -/
theorem tokenize_cut {sql : Text} {before after : List Token}
    (h : tokenize sql = before ++ after) :
    tokenize (written before) = before ∧
      (tokenize (written after)).map (Token.shift (written before).length) = after := by
  obtain ⟨ms, ns, hl, rfl, rfl⟩ := placeFrom_split h
  obtain ⟨hm, hn⟩ := lexemes_cut hl
  simp only [written_placeFrom]
  refine ⟨by rw [tokenize, hm], ?_⟩
  rw [tokenize, hn, ← placeFrom_shift]

/-- A token begins where the text before it ends. -/
theorem start_of_tokenize {sql : Text} {before after : List Token} {t : Token}
    (h : tokenize sql = before ++ t :: after) : t.start = (written before).length := by
  obtain ⟨ms, ns, -, rfl, ht⟩ := placeFrom_split h
  cases ns with
  | nil => contradiction
  | cons l ns =>
    rw [placeFrom] at ht
    rw [(List.cons.inj ht).1]
    simp

/-- The places at which no token is cut in two. -/
def IsBoundary (sql : Text) (p : Nat) : Prop :=
  p = 0 ∨ p = sql.length ∨ ∃ t ∈ tokenize sql, t.stop = p

instance (sql : Text) (p : Nat) : Decidable (IsBoundary sql p) :=
  inferInstanceAs (Decidable (_ ∨ _ ∨ ∃ t ∈ tokenize sql, t.stop = p))

theorem IsBoundary.split {sql : Text} {p : Nat} (h : IsBoundary sql p) :
    ∃ before after, tokenize sql = before ++ after ∧ p = (written before).length := by
  rcases h with rfl | rfl | ⟨t, ht, rfl⟩
  · exact ⟨[], tokenize sql, rfl, rfl⟩
  · exact ⟨tokenize sql, [], (List.append_nil _).symm, by rw [written_tokenize]⟩
  · obtain ⟨before, after, hs⟩ := List.append_of_mem ht
    refine ⟨before ++ [t], after, by simpa using hs, ?_⟩
    rw [written_append, List.length_append, ← start_of_tokenize hs]
    simp [Token.stop, written]

/-- Cutting a text at a token boundary changes no token on either side of the cut. -/
theorem tokenize_at_boundary {sql : Text} {p : Nat} (h : IsBoundary sql p) :
    tokenize sql =
      tokenize (sql.take p) ++ (tokenize (sql.drop p)).map (Token.shift p) := by
  obtain ⟨before, after, hs, rfl⟩ := h.split
  obtain ⟨hb, ha⟩ := tokenize_cut hs
  have ht : sql = written before ++ written after := by
    rw [← written_append, ← hs, written_tokenize]
  subst ht
  rw [List.take_left, List.drop_left, hb, ha, hs]

/-- In `1e+;` the exponent that was looked for behind the number is not there. -/
theorem tokenize_before_failed_exponent :
    IsBoundary "1e+;" 1 ∧ tokenize "1e+;" = tokenize "1" ++ (tokenize "e+;").map (Token.shift 1) :=
  ⟨by decide +kernel, tokenize_at_boundary (show IsBoundary "1e+;" 1 by decide +kernel)⟩

/-- Tokens behind a semicolon are those of the text behind it. -/
theorem tokenize_join {a : Text} {ts : List Token} {t : Token} (b : Text)
    (h : tokenize a = ts ++ [t]) (ht : t.isMark ';' = true) :
    tokenize (a ++ b) = tokenize a ++ (tokenize b).map (Token.shift a.length) := by
  have hl : t.toLexeme = semicolon := by
    simp only [Lexeme.isMark, Lexeme.isPunctuation, Bool.and_eq_true, beq_iff_eq] at ht
    simp [semicolon, ← ht.1, ← ht.2]
  have hs : lexemes a = ts.map Token.toLexeme ++ [semicolon] := by
    rw [← map_placeFrom 0 (lexemes a), ← tokenize, h, List.map_append, List.map_singleton, hl]
  rw [tokenize, lexemes_join b hs, placeFrom_append, spell_lexemes, placeFrom_shift]
  rfl

end SqlShell.Proofs
