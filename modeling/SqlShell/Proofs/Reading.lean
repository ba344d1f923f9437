import SqlShell.Proofs.Opening

namespace SqlShell.Proofs
open Lexeme

/-- Lexemes laid end to end. -/
def spell (ls : List Lexeme) : Text := ls.flatMap Lexeme.text

@[simp] theorem spell_nil : spell [] = [] := rfl

@[simp] theorem spell_cons (l : Lexeme) (ls : List Lexeme) :
    spell (l :: ls) = l.text ++ spell ls := rfl

@[simp] theorem spell_append (ls ms : List Lexeme) : spell (ls ++ ms) = spell ls ++ spell ms := by
  simp [spell]

theorem readFrom_drop (n : Nat) (t : Text) : readFrom n t = lexemes (t.drop n) := by
  induction n generalizing t with
  | zero => rfl
  | succ n ih =>
    cases t with
    | nil => simp [lexemes, readFrom]
    | cons u rest => exact ih rest

/-- The lexeme that `u :: rest` begins with. -/
def firstLexeme (u : CodeUnit) (rest : Text) : Lexeme :=
  ⟨(front u rest).1, u :: rest.take (front u rest).2⟩

@[simp] theorem lexemes_nil : lexemes [] = [] := rfl

theorem lexemes_cons (u : CodeUnit) (rest : Text) :
    lexemes (u :: rest) = firstLexeme u rest :: lexemes (rest.drop (front u rest).2) := by
  rw [← readFrom_drop]
  rfl

theorem lexemes_eq_nil {t : Text} (h : lexemes t = []) : t = [] := by
  cases t with
  | nil => rfl
  | cons u rest =>
    rw [lexemes_cons] at h
    contradiction

/-- Induction along the lexemes of a text. -/
theorem reading_induction {P : Text → Prop} (nil : P [])
    (cons : ∀ u rest, P (rest.drop (front u rest).2) → P (u :: rest)) (t : Text) : P t := by
  match t with
  | [] => exact nil
  | u :: rest =>
    exact cons u rest (reading_induction nil cons (rest.drop (front u rest).2))
termination_by t.length
decreasing_by simp only [List.length_cons, List.length_drop]; omega

/-- Lexemes leave nothing of the text out. -/
theorem spell_lexemes (t : Text) : spell (lexemes t) = t := by
  induction t using reading_induction with
  | nil => rfl
  | cons u rest ih =>
    rw [lexemes_cons, spell_cons, ih]
    simp [firstLexeme]

theorem lexeme_nonempty {t : Text} : ∀ l ∈ lexemes t, l.text ≠ [] := by
  induction t using reading_induction with
  | nil => simp
  | cons u rest ih =>
    intro l hl
    rw [lexemes_cons] at hl
    rcases List.mem_cons.mp hl with rfl | hl
    · simp [firstLexeme]
    · exact ih l hl

/-- A text that keeps a whole lexeme at its front still begins with it. -/
theorem lexemes_take {u : CodeUnit} {rest more : Text} (h : more <+: rest.drop (front u rest).2) :
    lexemes ((firstLexeme u rest).text ++ more) = firstLexeme u rest :: lexemes more := by
  have hn := front_le u rest
  have hl : (rest.take (front u rest).2).length = (front u rest).2 := by
    rw [List.length_take, Nat.min_eq_left hn]
  obtain ⟨tail, ht⟩ := h
  have hr : rest.take ((front u rest).2 + more.length) = rest.take (front u rest).2 ++ more := by
    rw [List.take_add, ← ht, List.take_left']
    rfl
  have hf : front u (rest.take (front u rest).2 ++ more) = front u rest := by
    rw [← hr]
    exact front_cut (Nat.le_add_right _ _)
  simp only [firstLexeme, List.cons_append]
  rw [lexemes_cons, firstLexeme, hf, List.take_left' hl, List.drop_left' hl]

/-- Reading a part of the lexemes on its own gives just these. -/
theorem lexemes_cut {t : Text} {before after : List Lexeme} (h : lexemes t = before ++ after) :
    lexemes (spell before) = before ∧ lexemes (spell after) = after := by
  induction t using reading_induction generalizing before with
  | nil =>
    obtain ⟨rfl, rfl⟩ := List.append_eq_nil_iff.mp h.symm
    exact ⟨rfl, rfl⟩
  | cons u rest ih =>
    cases before with
    | nil =>
      have hs : spell after = u :: rest := by rw [← List.nil_append after, ← h, spell_lexemes]
      exact ⟨rfl, hs ▸ h⟩
    | cons l before =>
      rw [lexemes_cons, List.cons_append] at h
      obtain ⟨rfl, hr⟩ := List.cons.inj h
      obtain ⟨hb, ha⟩ := ih hr
      have hp : spell before <+: rest.drop (front u rest).2 := by
        rw [← spell_lexemes (rest.drop _), hr, spell_append]
        exact List.prefix_append _ _
      exact ⟨by rw [spell_cons, lexemes_take hp, hb], ha⟩

def IsComment : Lexeme.Kind → Prop
  | .lineComment | .blockComment _ => True
  | _ => False

/-- The mark that ends a statement. -/
def semicolon : Lexeme := ⟨.punctuation, [unit ';']⟩

theorem front_join {u : CodeUnit} {rest : Text} {ls : List Lexeme} (b : Text)
    (h : lexemes (rest.drop (front u rest).2) = ls ++ [semicolon]) :
    front u (rest ++ b) = front u rest := by
  have hd : rest.drop (front u rest).2 = spell ls ++ [unit ';'] := by
    rw [← spell_lexemes (rest.drop _), h, spell_append]
    rfl
  have hs : rest.take (front u rest).2 ++ spell ls ++ [unit ';'] = rest := by
    rw [List.append_assoc, ← hd, List.take_append_drop]
  have hn : (front u rest).2 ≤ (rest.take (front u rest).2 ++ spell ls).length := by
    simp [Nat.min_eq_left (front_le u rest)]
  calc front u (rest ++ b)
      = front u (rest.take (front u rest).2 ++ spell ls ++ [unit ';'] ++ b) := by rw [hs]
    _ = front u (rest.take (front u rest).2 ++ spell ls ++ unit ';' :: b) := by simp
    _ = front u (rest.take (front u rest).2 ++ spell ls ++ [unit ';']) :=
        front_extend (by rw [hs]; exact hn)
    _ = front u rest := by rw [hs]

/-- What is written behind a semicolon does not reach back over it. -/
theorem lexemes_join {a : Text} {ls : List Lexeme} (b : Text) (h : lexemes a = ls ++ [semicolon]) :
    lexemes (a ++ b) = lexemes a ++ lexemes b := by
  induction a using reading_induction generalizing ls with
  | nil => simp at h
  | cons u rest ih =>
    rw [lexemes_cons] at h
    cases ls with
    | nil =>
      obtain ⟨hl, hr⟩ := List.cons.inj h
      obtain ⟨rfl, ht⟩ := List.cons.inj (congrArg Lexeme.text hl)
      have he : rest = [] := by
        rw [← List.take_append_drop (front (unit ';') rest).2 rest, ht, lexemes_eq_nil hr]
        rfl
      subst he
      rw [List.singleton_append, lexemes_cons, lexemes_cons, firstLexeme, firstLexeme,
        front_semicolon, front_semicolon]
      simp
    | cons l ls =>
      rw [List.cons_append] at h
      have hr := (List.cons.inj h).2
      have hn := front_le u rest
      rw [List.cons_append, lexemes_cons, lexemes_cons, firstLexeme, firstLexeme,
        front_join b hr, List.take_append_of_le_length hn, List.drop_append_of_le_length hn, ih hr]
      rfl

end SqlShell.Proofs
