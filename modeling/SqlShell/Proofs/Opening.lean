import SqlShell.Proofs.Runs

namespace SqlShell.Proofs
open Lexeme

/-- What the first two units of a lexeme open. -/
inductive Opening where
  | blanks
  | lineComment
  | blockComment
  | string
  /-- A string with its mark before the quote. -/
  | blob
  | quoted (closer : CodeUnit)
  | number
  | word
  | operator
  deriving DecidableEq, Repr

namespace Opening

def of (u : CodeUnit) (next : Option CodeUnit) : Opening :=
  if u.isBlank then blanks
  else if u = unit '-' && next = some (unit '-') then lineComment
  else if u = unit '/' && next = some (unit '*') then blockComment
  else if u = unit '\x27' then string
  else if (u = unit 'x' || u = unit 'X') && next = some (unit '\x27') then blob
  else match closingQuote? u with
    | some closer => quoted closer
    | none =>
      if u.isDigit || (u = unit '.' && next.any CodeUnit.isDigit) then number
      else if isWordStart u then word
      else operator

/-- The kind of the lexeme, and how many units it takes behind the first one. -/
def read (o : Opening) (u : CodeUnit) (rest : Text) : Kind × Nat :=
  match o with
  | blanks => (.whitespace, (rest.takeWhile CodeUnit.isBlank).length)
  | lineComment => (.lineComment, (rest.takeWhile (· != unit '\n')).length)
  | blockComment =>
    (.blockComment (commentRun (rest.drop 1)).2, 1 + (commentRun (rest.drop 1)).1)
  | string => (.string (quotedRun (unit '\x27') rest).2, (quotedRun (unit '\x27') rest).1)
  | blob =>
    (.string (quotedRun (unit '\x27') (rest.drop 1)).2,
      1 + (quotedRun (unit '\x27') (rest.drop 1)).1)
  | quoted closer => (.quotedIdentifier (quotedRun closer rest).2, (quotedRun closer rest).1)
  | number => (.number, numberRun (u :: rest) - 1)
  | word =>
    (wordKind (u :: rest.take (rest.takeWhile isWordPart).length),
      (rest.takeWhile isWordPart).length)
  | operator => (.punctuation, operatorRun (u :: rest) - 1)

end Opening

theorem front_eq (u : CodeUnit) (rest : Text) :
    front u rest = (Opening.of u rest.head?).read u rest := by
  unfold front Opening.of
  cases closingQuote? u with
  | none =>
    dsimp only
    repeat' split
    all_goals rfl
  | some closer =>
    dsimp only
    repeat' split
    all_goals rfl

namespace Opening

theorem of_none (u : CodeUnit) : of u none ≠ blockComment ∧ of u none ≠ blob := by
  simp only [of]
  repeat' split
  all_goals simp_all

theorem read_le (u : CodeUnit) (rest : Text) :
    ((of u rest.head?).read u rest).2 ≤ rest.length := by
  have hn := of_none u
  cases ho : of u rest.head? with
  | blanks | lineComment | word => exact takeWhile_length_le _ rest
  | string | quoted => exact quotedRun_le _ rest
  | number =>
    have := numberRun_le (u :: rest)
    simp only [read, List.length_cons] at this ⊢
    omega
  | operator =>
    have := operatorRun_le u rest
    simp only [read, List.length_cons] at this ⊢
    omega
  | blockComment =>
    cases rest with
    | nil => exact absurd ho hn.1
    | cons v rest =>
      have := commentRun_le rest
      simp only [read, List.drop_one, List.tail_cons, List.length_cons]
      omega
  | blob =>
    cases rest with
    | nil => exact absurd ho hn.2
    | cons v rest =>
      have := quotedRun_le (unit '\x27') rest
      simp only [read, List.drop_one, List.tail_cons, List.length_cons]
      omega

/-- The openings that need their second unit. -/
theorem of_next (u : CodeUnit) (next : Option CodeUnit) :
    of u none = of u next ∨ of u next = lineComment ∧ next = some (unit '-') ∨
      of u next = blockComment ∨ of u next = blob ∨
      of u next = number ∧ u = unit '.' ∧ next.any CodeUnit.isDigit = true := by
  by_cases hl : u = unit '-' ∧ next = some (unit '-')
  · obtain ⟨rfl, rfl⟩ := hl
    exact Or.inr (Or.inl ⟨by decide, rfl⟩)
  by_cases hc : u = unit '/' ∧ next = some (unit '*')
  · obtain ⟨rfl, rfl⟩ := hc
    exact Or.inr (Or.inr (Or.inl (by decide)))
  by_cases hb : (u = unit 'x' ∨ u = unit 'X') ∧ next = some (unit '\x27')
  · obtain ⟨rfl | rfl, rfl⟩ := hb <;> exact Or.inr (Or.inr (Or.inr (Or.inl (by decide))))
  by_cases hd : u = unit '.' ∧ next.any CodeUnit.isDigit = true
  · obtain ⟨rfl, hd⟩ := hd
    refine Or.inr (Or.inr (Or.inr (Or.inr ⟨?_, rfl, hd⟩)))
    have hu : unit '.' ≠ unit '-' ∧ unit '.' ≠ unit '/' ∧ unit '.' ≠ unit '\x27' ∧
        unit '.' ≠ unit 'x' ∧ unit '.' ≠ unit 'X' := by decide
    have hq : closingQuote? (unit '.') = none := by decide
    have hb : (unit '.').isBlank = false := by decide
    simp [of, hd, hu, hq, hb]
  · left
    simp [of, hl, hc, hb, hd]

theorem read_cut {o : Opening} {u : CodeUnit} {rest : Text} {m : Nat}
    (h : (o.read u rest).2 ≤ m) : o.read u (rest.take m) = o.read u rest := by
  cases o with
  | blanks | lineComment => simp only [read] at h ⊢; rw [takeWhile_cut h]
  | blockComment =>
    simp only [read] at h ⊢
    rw [List.drop_take, commentRun_cut (by omega)]
  | string | quoted => simp only [read] at h ⊢; rw [quotedRun_cut h]
  | blob =>
    simp only [read] at h ⊢
    rw [List.drop_take, quotedRun_cut (by omega)]
  | number =>
    simp only [read] at h ⊢
    rw [← List.take_succ_cons, numberRun_cut (by omega)]
  | word =>
    simp only [read] at h ⊢
    rw [takeWhile_cut h, List.take_take, Nat.min_eq_left h]
  | operator =>
    simp only [read] at h ⊢
    rw [← List.take_succ_cons, operatorRun_cut (by omega)]

/-- A semicolon that the lexeme does not reach shields it from whatever stands behind. -/
theorem read_extend {o : Opening} {u : CodeUnit} {rest more : Text}
    (h : (o.read u (rest ++ [unit ';'])).2 ≤ rest.length) :
    o.read u (rest ++ unit ';' :: more) = o.read u (rest ++ [unit ';']) := by
  have hl : (rest ++ [unit ';']).length = rest.length + 1 := by simp
  have hm : rest ++ unit ';' :: more = (rest ++ [unit ';']) ++ more := by simp
  cases o with
  | blanks | lineComment =>
    simp only [read] at h ⊢
    rw [hm, takeWhile_extend (by omega)]
  | string | quoted =>
    simp only [read] at h ⊢
    rw [hm, quotedRun_extend (by omega)]
  | blockComment =>
    simp only [read] at h ⊢
    rw [hm, List.drop_append_of_le_length (by omega),
      commentRun_extend (by rw [List.length_drop]; omega)]
  | blob =>
    simp only [read] at h ⊢
    rw [hm, List.drop_append_of_le_length (by omega),
      quotedRun_extend (by rw [List.length_drop]; omega)]
  | word =>
    simp only [read] at h ⊢
    rw [hm, takeWhile_extend (by omega), List.take_append_of_le_length (by omega)]
  | number =>
    simp only [read, ← List.cons_append]
    rw [numberRun_semicolon, numberRun_semicolon]
  | operator =>
    simp only [read, ← List.cons_append]
    rw [operatorRun_semicolon, operatorRun_semicolon]

theorem numberRun_point {d : CodeUnit} (rest : Text) (hd : d.isDigit = true) :
    2 ≤ numberRun (unit '.' :: d :: rest) := by
  have hw : digitRun (unit '.' :: d :: rest) = 0 := by
    simp [digitRun, show (unit '.').isDigit = false by decide]
  have hf : 2 ≤ fractionRun (unit '.' :: d :: rest) := by
    simp [fractionRun, digitRun, hd]
    omega
  have hx : hexadecimalRun (unit '.' :: d :: rest) = 0 := by
    simp [hexadecimalRun, show unit '.' ≠ unit '0' by decide]
  simp only [numberRun, hx, decimalRun, hw, List.drop_zero]
  simp only [↓reduceIte]
  omega

/-- A lexeme that is known by its second unit takes that unit. -/
theorem of_cut_zero {u : CodeUnit} {rest : Text}
    (h : ((of u rest.head?).read u rest).2 = 0) : of u none = of u rest.head? := by
  rcases of_next u rest.head? with he | ⟨ho, hn⟩ | ho | ho | ⟨ho, rfl, hd⟩
  · exact he
  · obtain ⟨rest, rfl⟩ := List.head?_eq_some_iff.mp hn
    rw [ho] at h
    simp [read, show unit '-' ≠ unit '\n' by decide] at h
  · rw [ho] at h
    simp [read] at h
  · rw [ho] at h
    simp [read] at h
  · cases rest with
    | nil => simp at hd
    | cons d rest =>
      have := numberRun_point rest (d := d) (by simpa using hd)
      rw [ho] at h
      simp only [read] at h
      omega

theorem of_cut {u : CodeUnit} {rest : Text} {m : Nat}
    (h : ((of u rest.head?).read u rest).2 ≤ m) :
    of u (rest.take m).head? = of u rest.head? := by
  cases m with
  | zero =>
    rw [List.take_zero, List.head?_nil]
    exact of_cut_zero (Nat.le_zero.mp h)
  | succ m => rw [List.head?_take, if_neg (Nat.succ_ne_zero m)]

end Opening

theorem unit_of_string {u : CodeUnit} {next : Option CodeUnit} (h : Opening.of u next = .string) :
    u = unit '\x27' := by
  unfold Opening.of at h
  grind

theorem unit_of_blob {u : CodeUnit} {next : Option CodeUnit} (h : Opening.of u next = .blob) :
    u = unit 'x' ∨ u = unit 'X' := by
  unfold Opening.of at h
  grind

theorem next_of_blob {u : CodeUnit} {next : Option CodeUnit} (h : Opening.of u next = .blob) :
    next = some (unit '\x27') := by
  unfold Opening.of at h
  grind

theorem closer_of_quoted {u : CodeUnit} {next : Option CodeUnit} {closer : CodeUnit}
    (h : Opening.of u next = .quoted closer) : closingQuote? u = some closer := by
  unfold Opening.of at h
  grind

theorem units_of_comment {u : CodeUnit} {next : Option CodeUnit}
    (h : Opening.of u next = .blockComment) : u = unit '/' ∧ next = some (unit '*') := by
  unfold Opening.of at h
  grind

theorem units_of_lineComment {u : CodeUnit} {next : Option CodeUnit}
    (h : Opening.of u next = .lineComment) : u = unit '-' ∧ next = some (unit '-') := by
  unfold Opening.of at h
  grind

theorem unit_of_blanks {u : CodeUnit} {next : Option CodeUnit} (h : Opening.of u next = .blanks) :
    u.isBlank = true := by
  unfold Opening.of at h
  grind

theorem unit_of_word {u : CodeUnit} {next : Option CodeUnit} (h : Opening.of u next = .word) :
    isWordStart u = true := by
  unfold Opening.of at h
  grind

theorem front_le (u : CodeUnit) (rest : Text) : (front u rest).2 ≤ rest.length := by
  rw [front_eq]
  exact Opening.read_le u rest

/-- A lexeme does not see past its end. -/
theorem front_cut {u : CodeUnit} {rest : Text} {m : Nat} (h : (front u rest).2 ≤ m) :
    front u (rest.take m) = front u rest := by
  rw [front_eq] at h
  rw [front_eq, front_eq, Opening.of_cut h, Opening.read_cut h]

theorem front_extend {u : CodeUnit} {rest more : Text}
    (h : (front u (rest ++ [unit ';'])).2 ≤ rest.length) :
    front u (rest ++ unit ';' :: more) = front u (rest ++ [unit ';']) := by
  have hn : (rest ++ unit ';' :: more).head? = (rest ++ [unit ';']).head? := by
    cases rest <;> rfl
  rw [front_eq] at h
  rw [front_eq, front_eq, hn, Opening.read_extend h]

/-- A semicolon where a lexeme starts is a lexeme of its own, whatever follows. -/
theorem front_semicolon (rest : Text) : front (unit ';') rest = (.punctuation, 0) := by
  have hu : unit ';' ≠ unit '-' ∧ unit ';' ≠ unit '/' ∧ unit ';' ≠ unit '\x27' ∧
      unit ';' ≠ unit 'x' ∧ unit ';' ≠ unit 'X' ∧ unit ';' ≠ unit '.' := by decide
  have hc : (unit ';').isBlank = false ∧ closingQuote? (unit ';') = none ∧
      (unit ';').isDigit = false ∧ isWordStart (unit ';') = false := by decide
  have ho : Opening.of (unit ';') rest.head? = .operator := by
    simp [Opening.of, hu, hc]
  have hr : operatorRun (unit ';' :: rest) = 1 := operatorRun_semicolon [] rest
  rw [front_eq, ho]
  simp [Opening.read, hr]

end SqlShell.Proofs
