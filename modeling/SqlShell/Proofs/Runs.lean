import SqlShell.Token.Scan

namespace SqlShell.Proofs
open Lexeme

theorem takeWhile_cut {p : CodeUnit → Bool} {t : Text} {m : Nat}
    (h : (t.takeWhile p).length ≤ m) : (t.take m).takeWhile p = t.takeWhile p := by
  rw [← List.take_takeWhile, List.take_of_length_le h]

theorem takeWhile_extend {p : CodeUnit → Bool} {t more : Text}
    (h : (t.takeWhile p).length < t.length) : (t ++ more).takeWhile p = t.takeWhile p := by
  rw [List.takeWhile_append, if_neg (Nat.ne_of_lt h)]

/-- A unit outside the run ends it as the end of the text does. -/
theorem takeWhile_stop {p : CodeUnit → Bool} {t more : Text} {u : CodeUnit} (hu : p u = false) :
    (t ++ u :: more).takeWhile p = t.takeWhile p := by
  rw [List.takeWhile_append]
  split
  · rename_i hl
    rw [List.takeWhile_cons, hu]
    simpa using ((List.takeWhile_prefix p).eq_of_length hl).symm
  · rfl

theorem takeWhile_length_le (p : CodeUnit → Bool) (t : Text) :
    (t.takeWhile p).length ≤ t.length := (List.takeWhile_prefix p).length_le

theorem quotedRun_le (closer : CodeUnit) (t : Text) : (quotedRun closer t).1 ≤ t.length := by
  fun_induction quotedRun closer t with
  | case1 => simp
  | case2 => simp
  | case3 v rest hd n closed he ih =>
    rw [he] at ih
    simp only [List.length_cons]
    omega
  | case4 => simp
  | case5 u v rest hu n closed he ih =>
    rw [he] at ih
    simp only [List.length_cons] at ih ⊢
    omega

theorem quotedRun_pos (closer u : CodeUnit) (t : Text) : 0 < (quotedRun closer (u :: t)).1 := by
  cases t with
  | nil => simp [quotedRun]
  | cons v rest =>
    simp only [quotedRun]
    split
    · split <;> simp
    · simp

theorem quotedRun_cut {closer : CodeUnit} {t : Text} {m : Nat}
    (h : (quotedRun closer t).1 ≤ m) : quotedRun closer (t.take m) = quotedRun closer t := by
  fun_induction quotedRun closer t generalizing m with
  | case1 => simp [quotedRun]
  | case2 u =>
    obtain ⟨m, rfl⟩ : ∃ k, m = k + 1 := ⟨m - 1, by simp at h; omega⟩
    simp [quotedRun]
  | case3 v rest hd n closed he ih =>
    rw [he] at ih
    obtain ⟨m, rfl⟩ : ∃ k, m = k + 2 := ⟨m - 2, by simp at h; omega⟩
    simp [quotedRun, hd, ih (m := m) (by simpa using h)]
  | case4 v rest hd =>
    obtain ⟨m, rfl⟩ : ∃ k, m = k + 1 := ⟨m - 1, by simp at h; omega⟩
    cases m with
    | zero => simp [quotedRun]
    | succ m => simp [quotedRun, hd]
  | case5 u v rest hu n closed he ih =>
    have hn := quotedRun_pos closer v rest
    rw [he] at ih hn
    obtain ⟨m, rfl⟩ : ∃ k, m = k + 2 := ⟨m - 2, by simp at h hn; omega⟩
    have ht := ih (m := m + 1) (by simpa using h)
    simp only [List.take_succ_cons] at ht ⊢
    simp [quotedRun, hu, ht]

theorem quotedRun_extend {closer : CodeUnit} {t more : Text}
    (h : (quotedRun closer t).1 < t.length) :
    quotedRun closer (t ++ more) = quotedRun closer t := by
  fun_induction quotedRun closer t with
  | case1 => simp at h
  | case2 u => simp at h
  | case3 v rest hd n closed he ih =>
    rw [he] at ih
    have hr := ih (by simpa using h)
    simp [quotedRun, hd, hr]
  | case4 v rest hd => simp [quotedRun, hd]
  | case5 u v rest hu n closed he ih =>
    rw [he] at ih
    have hr := ih (by simpa using h)
    simp only [List.cons_append] at hr ⊢
    simp [quotedRun, hu, hr]

theorem commentRun_le (t : Text) : (commentRun t).1 ≤ t.length := by
  fun_induction commentRun t with
  | case1 => simp
  | case2 => simp
  | case3 => simp
  | case4 u v rest hu n closed he ih =>
    rw [he] at ih
    simp only [List.length_cons] at ih ⊢
    omega

theorem commentRun_pos (u : CodeUnit) (t : Text) : 0 < (commentRun (u :: t)).1 := by
  cases t with
  | nil => simp [commentRun]
  | cons v rest =>
    simp only [commentRun]
    split <;> simp

theorem commentRun_cut {t : Text} {m : Nat} (h : (commentRun t).1 ≤ m) :
    commentRun (t.take m) = commentRun t := by
  fun_induction commentRun t generalizing m with
  | case1 => simp [commentRun]
  | case2 u =>
    obtain ⟨m, rfl⟩ : ∃ k, m = k + 1 := ⟨m - 1, by simp at h; omega⟩
    simp [commentRun]
  | case3 u v rest hc =>
    obtain ⟨m, rfl⟩ : ∃ k, m = k + 2 := ⟨m - 2, by simp at h; omega⟩
    simp [commentRun, hc]
  | case4 u v rest hc n closed he ih =>
    have hn := commentRun_pos v rest
    rw [he] at ih hn
    obtain ⟨m, rfl⟩ : ∃ k, m = k + 2 := ⟨m - 2, by simp at h hn; omega⟩
    have ht := ih (m := m + 1) (by simpa using h)
    simp only [List.take_succ_cons] at ht ⊢
    simp [commentRun, hc, ht]

theorem commentRun_extend {t more : Text} (h : (commentRun t).1 < t.length) :
    commentRun (t ++ more) = commentRun t := by
  fun_induction commentRun t with
  | case1 => simp at h
  | case2 u => simp at h
  | case3 u v rest hc => simp [commentRun, hc]
  | case4 u v rest hc n closed he ih =>
    rw [he] at ih
    have hr := ih (by simpa using h)
    simp only [List.cons_append] at hr ⊢
    simp [commentRun, hc, hr]

theorem digitRun_cut {t : Text} {m : Nat} (h : digitRun t ≤ m) :
    digitRun (t.take m) = digitRun t :=
  congrArg List.length (takeWhile_cut h)

theorem digitRun_le (t : Text) : digitRun t ≤ t.length := takeWhile_length_le _ t

theorem exponentRun_le (t : Text) : exponentRun t ≤ t.length := by
  match t with
  | [] => simp [exponentRun]
  | [e] => simp [exponentRun]
  | e :: sign :: digits =>
    have hd := digitRun_le digits
    have hu := digitRun_le (sign :: digits)
    simp only [exponentRun, List.length_cons] at hu ⊢
    grind

theorem fractionRun_le (t : Text) : fractionRun t ≤ t.length := by
  cases t with
  | nil => simp [fractionRun]
  | cons p rest =>
    have hd := digitRun_le rest
    simp only [fractionRun, List.length_cons]
    split <;> omega

theorem decimalRun_le (t : Text) : decimalRun t ≤ t.length := by
  have hw := digitRun_le t
  have hf := fractionRun_le (t.drop (digitRun t))
  have he := exponentRun_le (t.drop (digitRun t + fractionRun (t.drop (digitRun t))))
  simp only [List.length_drop] at hf he
  simp only [decimalRun]
  omega

theorem hexadecimalRun_le (t : Text) : hexadecimalRun t ≤ t.length := by
  match t with
  | [] => simp [hexadecimalRun]
  | [z] => simp [hexadecimalRun]
  | z :: x :: rest =>
    have hr := takeWhile_length_le CodeUnit.isHexDigit rest
    simp only [hexadecimalRun, List.length_cons]
    split <;> omega

theorem numberRun_le (t : Text) : numberRun t ≤ t.length := by
  unfold numberRun
  split
  · exact decimalRun_le t
  · exact hexadecimalRun_le t

theorem operatorRun_le (u : CodeUnit) (t : Text) : operatorRun (u :: t) ≤ (u :: t).length := by
  unfold operatorRun
  split
  · rename_i op ho
    have hp := List.find?_some ho
    rw [List.isPrefixOf_iff_prefix] at hp
    exact hp.length_le
  · simp

/-- An exponent needs a digit behind its mark and its sign, so that a cut in between leaves none. -/
theorem exponentRun_cut {t : Text} {m : Nat} (h : exponentRun t ≤ m) :
    exponentRun (t.take m) = exponentRun t := by
  match t, m with
  | [], _ => simp
  | e :: rest, 0 =>
    rw [Nat.le_zero.mp h]
    rfl
  | [e], m + 1 => simp
  | e :: sign :: digits, 1 =>
    have hd : exponentRun (e :: sign :: digits) = 0 := by
      simp only [exponentRun] at h ⊢
      grind
    rw [hd]
    simp [exponentRun]
  | e :: sign :: digits, m + 2 =>
    have hs : digitRun digits ≤ m → digitRun (digits.take m) = digitRun digits := digitRun_cut
    have hu : digitRun (sign :: digits) ≤ m + 1 →
        digitRun (sign :: digits.take m) = digitRun (sign :: digits) :=
      digitRun_cut (t := sign :: digits) (m := m + 1)
    simp only [List.take_succ_cons, exponentRun] at h ⊢
    grind

theorem fractionRun_cut {t : Text} {m : Nat} (h : fractionRun t ≤ m) :
    fractionRun (t.take m) = fractionRun t := by
  match t, m with
  | [], _ => simp
  | p :: rest, 0 =>
    rw [Nat.le_zero.mp h]
    rfl
  | p :: rest, m + 1 =>
    simp only [fractionRun, List.take_succ_cons] at h ⊢
    split
    · rename_i hp
      rw [if_pos hp] at h
      rw [digitRun_cut (by omega)]
    · rfl

theorem decimalRun_cut {t : Text} {m : Nat} (h : decimalRun t ≤ m) :
    decimalRun (t.take m) = decimalRun t := by
  simp only [decimalRun] at h
  have hw : digitRun (t.take m) = digitRun t := digitRun_cut (by omega)
  have hf : fractionRun ((t.take m).drop (digitRun t)) = fractionRun (t.drop (digitRun t)) := by
    rw [List.drop_take]
    exact fractionRun_cut (by omega)
  simp only [decimalRun, hw, hf]
  rw [List.drop_take, exponentRun_cut (by omega)]

theorem hexadecimalRun_cut {t : Text} {m : Nat} (h : hexadecimalRun t ≤ m) :
    hexadecimalRun (t.take m) = hexadecimalRun t := by
  match t, m with
  | [], _ => simp
  | z :: rest, 0 =>
    rw [Nat.le_zero.mp h]
    rfl
  | [z], m + 1 => simp
  | z :: x :: rest, 1 =>
    have hz : hexadecimalRun (z :: x :: rest) = 0 := by
      simp only [hexadecimalRun] at h ⊢
      grind
    rw [hz]
    simp [hexadecimalRun]
  | z :: x :: rest, m + 2 =>
    simp only [List.take_succ_cons, hexadecimalRun] at h ⊢
    have hr : (rest.takeWhile CodeUnit.isHexDigit).length ≤ m →
        (rest.take m).takeWhile CodeUnit.isHexDigit = rest.takeWhile CodeUnit.isHexDigit :=
      takeWhile_cut
    have hz : (rest.takeWhile CodeUnit.isHexDigit).length = 0 →
        ((rest.take m).takeWhile CodeUnit.isHexDigit).length = 0 := by
      intro he
      rw [takeWhile_cut (by omega)]
      exact he
    grind

theorem numberRun_cut {t : Text} {m : Nat} (h : numberRun t ≤ m) :
    numberRun (t.take m) = numberRun t := by
  have hx : hexadecimalRun (t.take m) = hexadecimalRun t := by
    apply hexadecimalRun_cut
    simp only [numberRun] at h
    split at h <;> omega
  simp only [numberRun, hx] at h ⊢
  split
  · rename_i hz
    rw [if_pos hz] at h
    exact decimalRun_cut h
  · rfl

/-- Of two operators with a common front the longer is tried first, and a cut behind the one that
was found cannot bring another forward. -/
theorem operatorRun_cut {t : Text} {m : Nat} (h : operatorRun t ≤ m) :
    operatorRun (t.take m) = operatorRun t := by
  have hf : longOperators.find? (·.isPrefixOf (t.take m)) =
      longOperators.find? (·.isPrefixOf t) := by
    cases ho : longOperators.find? (·.isPrefixOf t) with
    | none =>
      rw [List.find?_eq_none] at ho ⊢
      intro op hm hp
      apply ho op hm
      rw [List.isPrefixOf_iff_prefix] at hp ⊢
      exact hp.trans (List.take_prefix m t)
    | some op =>
      have hl : op.length ≤ m := by simpa [operatorRun, ho] using h
      rw [List.find?_eq_some_iff_append] at ho ⊢
      obtain ⟨hp, as, bs, he, ha⟩ := ho
      rw [List.isPrefixOf_iff_prefix] at hp ⊢
      refine ⟨List.prefix_take_iff.mpr ⟨hp, hl⟩, as, bs, he, ?_⟩
      intro b hb
      have hn := ha b hb
      simp only [Bool.not_eq_true', ← Bool.not_eq_true, List.isPrefixOf_iff_prefix] at hn ⊢
      exact fun hc => hn (hc.trans (List.take_prefix m t))
  simp only [operatorRun, hf]

theorem digitRun_semicolon (t more : Text) : digitRun (t ++ unit ';' :: more) = digitRun t :=
  congrArg List.length (takeWhile_stop (by decide))

theorem exponentRun_semicolon (t more : Text) :
    exponentRun (t ++ unit ';' :: more) = exponentRun t := by
  have hs : unit ';' ≠ unit 'e' ∧ unit ';' ≠ unit 'E' ∧ unit ';' ≠ unit '+' ∧
      unit ';' ≠ unit '-' := by decide
  match t with
  | [] => simp [exponentRun, hs]
  | [e] =>
    have hd : digitRun (unit ';' :: more) = 0 := digitRun_semicolon [] more
    simp [exponentRun, hs, hd]
  | e :: sign :: digits =>
    have hd := digitRun_semicolon digits more
    have hu := digitRun_semicolon (sign :: digits) more
    simp only [List.cons_append] at hu
    simp only [exponentRun, List.cons_append, hd, hu]

theorem fractionRun_semicolon (t more : Text) :
    fractionRun (t ++ unit ';' :: more) = fractionRun t := by
  cases t with
  | nil => simp [fractionRun, show unit ';' ≠ unit '.' by decide]
  | cons p rest => simp only [fractionRun, List.cons_append, digitRun_semicolon]

theorem decimalRun_semicolon (t more : Text) :
    decimalRun (t ++ unit ';' :: more) = decimalRun t := by
  have hw := digitRun_le t
  have hf := fractionRun_le (t.drop (digitRun t))
  rw [List.length_drop] at hf
  simp only [decimalRun, digitRun_semicolon]
  rw [List.drop_append_of_le_length hw, fractionRun_semicolon,
    List.drop_append_of_le_length (by omega), exponentRun_semicolon]

theorem hexadecimalRun_semicolon (t more : Text) :
    hexadecimalRun (t ++ unit ';' :: more) = hexadecimalRun t := by
  have hs : unit ';' ≠ unit '0' ∧ unit ';' ≠ unit 'x' ∧ unit ';' ≠ unit 'X' := by decide
  match t with
  | [] => cases more <;> simp [hexadecimalRun, hs]
  | [z] => simp [hexadecimalRun, hs]
  | z :: x :: rest =>
    simp only [hexadecimalRun, List.cons_append]
    rw [takeWhile_stop (by decide)]

theorem numberRun_semicolon (t more : Text) :
    numberRun (t ++ unit ';' :: more) = numberRun t := by
  simp only [numberRun, hexadecimalRun_semicolon, decimalRun_semicolon]

theorem prefix_append_stop {op t more : Text} {u : CodeUnit} (hu : u ∉ op) :
    op <+: t ++ u :: more ↔ op <+: t := by
  induction t generalizing op with
  | nil =>
    cases op with
    | nil => simp
    | cons v op =>
      have hv : v ≠ u := fun he => hu (he ▸ List.mem_cons_self)
      simp [List.cons_prefix_cons, hv]
  | cons w t ih =>
    cases op with
    | nil => simp
    | cons v op =>
      have hr : u ∉ op := fun hm => hu (List.mem_cons_of_mem _ hm)
      simp only [List.cons_append, List.cons_prefix_cons, ih hr]

theorem operatorRun_semicolon (t more : Text) :
    operatorRun (t ++ unit ';' :: more) = operatorRun t := by
  have hn : ∀ op ∈ longOperators, unit ';' ∉ op := by decide
  have hf : longOperators.find? (·.isPrefixOf (t ++ unit ';' :: more)) =
      longOperators.find? (·.isPrefixOf t) := by
    rw [← List.head?_filter, ← List.head?_filter]
    apply congrArg List.head?
    apply List.filter_congr
    intro op hm
    rw [Bool.eq_iff_iff, List.isPrefixOf_iff_prefix, List.isPrefixOf_iff_prefix]
    exact prefix_append_stop (hn op hm)
  simp only [operatorRun, hf]

end SqlShell.Proofs
