import SqlShell.Proofs.Boundaries
import SqlShell.Token.Name

namespace SqlShell.Proofs
open Lexeme

/-- Begins as a word and goes on as one. -/
def IsBareWord : Text → Prop
  | [] => False
  | u :: rest => isWordStart u = true ∧ ∀ v ∈ rest, isWordPart v = true

instance : DecidablePred IsBareWord
  | [] => inferInstanceAs (Decidable False)
  | u :: rest =>
    decidable_of_iff (isWordStart u = true ∧ rest.all isWordPart = true)
      (by rw [IsBareWord, List.all_eq_true])

/-- Nothing at the front of this text goes on with a word before it. -/
def EndsWord (more : Text) : Prop :=
  ∀ v, more.head? = some v → isWordPart v = false ∧ v ≠ unit '\x27' ∧ v ≠ unit '\x22'

theorem endsWord_nil : EndsWord [] := by
  intro v hv
  contradiction

theorem endsWord_cons {u : CodeUnit} (hu : isWordPart u = false ∧ u ≠ unit '\x27' ∧ u ≠ unit '\x22')
    (more : Text) : EndsWord (u :: more) := by
  intro v hv
  obtain rfl := Option.some.inj hv
  exact hu

def blankUnits : List CodeUnit :=
  [9, 10, 11, 12, 13, 0x20, 0xA0, 0x1680, 0x2000, 0x2001, 0x2002, 0x2003, 0x2004, 0x2005, 0x2006,
   0x2007, 0x2008, 0x2009, 0x200A, 0x2028, 0x2029, 0x202F, 0x205F, 0x3000, 0xFEFF]

theorem mem_blankUnits {u : CodeUnit} (h : u.isBlank = true) : u ∈ blankUnits := by
  simp only [CodeUnit.isBlank, Bool.or_eq_true, Bool.and_eq_true, decide_eq_true_eq, beq_iff_eq,
    UInt16.le_iff_toNat_le, ← UInt16.toNat_inj, UInt16.reduceToNat] at h
  simp only [blankUnits, List.mem_cons, List.not_mem_nil, or_false, ← UInt16.toNat_inj,
    UInt16.reduceToNat]
  omega

theorem not_blank_of_wordStart {u : CodeUnit} (h : isWordStart u = true) : u.isBlank = false := by
  have hblanks : blankUnits.all (fun v => !isWordStart v) = true := by decide +kernel
  cases hb : u.isBlank with
  | false => rfl
  | true =>
    have hno := List.all_eq_true.mp hblanks u (mem_blankUnits hb)
    simp [h] at hno

theorem not_digit_of_wordStart {u : CodeUnit} (h : isWordStart u = true) : u.isDigit = false := by
  cases hd : u.isDigit with
  | false => rfl
  | true =>
    simp only [CodeUnit.isDigit, Bool.and_eq_true, decide_eq_true_eq, UInt16.le_iff_toNat_le] at hd
    have hlow : u.toNat ≤ 57 := hd.2
    have hletter : u.isLetter = false := by
      rw [CodeUnit.isLetter, letterRanges, inRanges, decide_eq_false (by omega), Bool.false_and]
    have hscore : u ≠ unit '_' := by
      rintro rfl
      exact absurd hlow (by decide)
    simp [isWordStart, hletter, hscore] at h

theorem opening_of_wordStart {u : CodeUnit} {next : Option CodeUnit} (h : isWordStart u = true)
    (hn : next ≠ some (unit '\x27')) : Opening.of u next = .word := by
  have hne (v : CodeUnit) (hv : isWordStart v = false) : u ≠ v := by
    rintro rfl
    rw [hv] at h
    contradiction
  have hq : closingQuote? u = none := by
    have := hne (unit '\x22') (by decide)
    have := hne (unit '\x60') (by decide)
    have := hne (unit '[') (by decide)
    simp [closingQuote?, *]
  have hminus := hne (unit '-') (by decide)
  have hslash := hne (unit '/') (by decide)
  have hmark := hne (unit '\x27') (by decide)
  have hpoint := hne (unit '.') (by decide)
  simp [Opening.of, not_blank_of_wordStart h, not_digit_of_wordStart h, hminus, hslash, hmark,
    hpoint, hn, hq, h]

/-- A bare word is one lexeme. -/
theorem lexemes_word {word more : Text} (h : IsBareWord word) (hm : EndsWord more) :
    lexemes (word ++ more) = ⟨wordKind word, word⟩ :: lexemes more := by
  cases word with
  | nil => exact h.elim
  | cons u rest =>
    obtain ⟨hu, hrest⟩ := h
    have hstop : more.takeWhile isWordPart = [] := by
      cases more with
      | nil => rfl
      | cons v more => rw [List.takeWhile_cons, (hm v rfl).1]; rfl
    have hrun : (rest ++ more).takeWhile isWordPart = rest := by
      rw [List.takeWhile_append_of_pos hrest, hstop, List.append_nil]
    have hnext : (rest ++ more).head? ≠ some (unit '\x27') := by
      cases rest with
      | nil => exact fun hn => (hm _ hn).2.1 rfl
      | cons v rest =>
        intro hn
        obtain rfl := Option.some.inj hn
        exact absurd (hrest _ List.mem_cons_self) (by decide)
    have hfront : front u (rest ++ more) = (wordKind (u :: rest), rest.length) := by
      rw [front_eq, opening_of_wordStart hu hnext, Opening.read, hrun, List.take_left]
    rw [List.cons_append, lexemes_cons, firstLexeme, hfront, List.take_left, List.drop_left]

theorem wordPart_of_bare {word : Text} (h : IsBareWord word) :
    ∀ u ∈ word, isWordPart u = true := by
  cases word with
  | nil => exact h.elim
  | cons u rest =>
    intro v hv
    rcases List.mem_cons.mp hv with rfl | hv
    · have hstart := h.1
      simp only [isWordStart, Bool.or_eq_true] at hstart
      rcases hstart with hletter | hscore
      · simp [isWordPart, hletter]
      · simp [isWordPart, hscore]
    · exact h.2 v hv

theorem not_blank_of_wordPart {u : CodeUnit} (h : isWordPart u = true) :
    u.isBlank = false := by
  have hblanks : blankUnits.all (fun v => !isWordPart v) = true := by decide +kernel
  cases hb : u.isBlank with
  | false => rfl
  | true =>
    have hno := List.all_eq_true.mp hblanks u (mem_blankUnits hb)
    simp [h] at hno

theorem double_cons (mark u : CodeUnit) (t : Text) :
    double mark (u :: t) = (if u = mark then [mark, mark] else [u]) ++ double mark t := rfl

/-- The first mark of a doubled text that stands alone is the one behind it. -/
theorem quotedRun_double {closer : CodeUnit} (hd : isDoubling closer = true) (t : Text)
    {more : Text} (hm : more.head? ≠ some closer) :
    quotedRun closer (double closer t ++ closer :: more) =
      ((double closer t).length + 1, true) := by
  induction t with
  | nil =>
    cases more with
    | nil => simp [double, quotedRun]
    | cons v more =>
      have hv : v ≠ closer := fun he => hm (congrArg some he)
      simp [double, quotedRun, hv]
  | cons u t ih =>
    rw [double_cons]
    by_cases hu : u = closer
    · simp [hu, quotedRun, hd, ih]
    · obtain ⟨v, rest, hv⟩ := List.exists_cons_of_ne_nil (l := double closer t ++ closer :: more)
        (by simp)
      rw [hv] at ih
      simp [hu, hv, quotedRun, ih]

/-- A name between quotes. -/
def quoteName (name : Text) : Text :=
  unit '\x22' :: double (unit '\x22') name ++ [unit '\x22']

theorem lexemes_quoted (name : Text) {more : Text} (hm : more.head? ≠ some (unit '\x22')) :
    lexemes (quoteName name ++ more) =
      ⟨.quotedIdentifier true, quoteName name⟩ :: lexemes more := by
  have hdoubling : isDoubling (unit '\x22') = true := by decide
  have hrun := quotedRun_double hdoubling name hm
  have hfront : front (unit '\x22') (double (unit '\x22') name ++ unit '\x22' :: more) =
      (.quotedIdentifier true, (double (unit '\x22') name ++ [unit '\x22']).length) := by
    have ho (next : Option CodeUnit) :
        Opening.of (unit '\x22') next = .quoted (unit '\x22') := by
      have hu : (unit '\x22').isBlank = false ∧ unit '\x22' ≠ unit '-' ∧ unit '\x22' ≠ unit '/' ∧
          unit '\x22' ≠ unit '\x27' ∧ unit '\x22' ≠ unit 'x' ∧ unit '\x22' ≠ unit 'X' ∧
          closingQuote? (unit '\x22') = some (unit '\x22') := by decide
      simp [Opening.of, hu]
    rw [front_eq, ho, Opening.read, hrun, List.length_append]
    rfl
  have hsplit : double (unit '\x22') name ++ unit '\x22' :: more =
      (double (unit '\x22') name ++ [unit '\x22']) ++ more := by simp
  rw [quoteName, List.cons_append, List.cons_append, List.append_assoc, List.singleton_append,
    lexemes_cons, firstLexeme, hfront, hsplit, List.take_left, List.drop_left]

theorem undouble_cons {mark u : CodeUnit} (hu : u ≠ mark) (t : Text) :
    undouble mark (u :: t) = u :: undouble mark t := by
  cases t with
  | nil => rfl
  | cons v t => simp [undouble, hu]

theorem undouble_double (mark : CodeUnit) (t : Text) : undouble mark (double mark t) = t := by
  induction t with
  | nil => rfl
  | cons u t ih =>
    rw [double_cons]
    by_cases hu : u = mark
    · simp [hu, undouble, ih]
    · rw [if_neg hu, List.singleton_append, undouble_cons hu, ih]

theorem unquote_quoteName (name : Text) : unquote (quoteName name) = name := by
  have hc : closingQuote? (unit '\x22') = some (unit '\x22') := by decide
  have hd : isDoubling (unit '\x22') = true := by decide
  simp [quoteName, unquote, hc, hd, undouble_double]

/-- A word without quotes stands for itself. -/
theorem unquote_bare {word : Text} (h : IsBareWord word) : unquote word = word := by
  cases word with
  | nil => rfl
  | cons u rest =>
    have ho : Opening.of u none = .word := opening_of_wordStart h.1 (by simp)
    have hc : closingQuote? u = none := by
      unfold Opening.of at ho
      grind
    rw [unquote, hc]

theorem inRanges_here {n lo hi : Nat} (hlow : lo ≤ n) (hhigh : n ≤ hi) (rest : List (Nat × Nat)) :
    inRanges n ((lo, hi) :: rest) = true := by
  simp [inRanges, hlow, hhigh]

theorem inRanges_behind {n lo hi : Nat} (hlow : lo ≤ n) {rest : List (Nat × Nat)}
    (h : inRanges n rest = true) : inRanges n ((lo, hi) :: rest) = true := by
  simp [inRanges, hlow, h]

theorem letter_of_plain {u : CodeUnit} (h : u.isPlainLetter = true) : u.isLetter = true := by
  simp only [CodeUnit.isPlainLetter, Bool.or_eq_true, Bool.and_eq_true, decide_eq_true_eq,
    UInt16.le_iff_toNat_le] at h
  rw [CodeUnit.isLetter, letterRanges]
  rcases h with ⟨hlow, hhigh⟩ | ⟨hlow, hhigh⟩
  · exact inRanges_behind (Nat.le_trans (by decide) hlow) (inRanges_here hlow hhigh _)
  · exact inRanges_here hlow hhigh _

theorem number_of_digit {u : CodeUnit} (h : u.isDigit = true) : u.isNumber = true := by
  simp only [CodeUnit.isDigit, Bool.and_eq_true, decide_eq_true_eq, UInt16.le_iff_toNat_le] at h
  rw [CodeUnit.isNumber, numberRanges]
  exact inRanges_here h.1 h.2 _

theorem bare_of_plain {name : Text} (h : isPlainName name = true) : IsBareWord name := by
  cases name with
  | nil => contradiction
  | cons u rest =>
    simp only [isPlainName, Bool.and_eq_true, Bool.or_eq_true, List.all_eq_true, beq_iff_eq] at h
    refine ⟨?_, fun v hv => ?_⟩
    · rcases h.1 with hu | rfl
      · rw [isWordStart, letter_of_plain hu, Bool.true_or]
      · decide
    · rcases h.2 v hv with hw | rfl
      · simp only [CodeUnit.isPlainWord, Bool.or_eq_true, beq_iff_eq] at hw
        rcases hw with (hl | hd) | rfl
        · simp [isWordPart, letter_of_plain hl]
        · simp [isWordPart, number_of_digit hd]
        · decide
      · decide

/-- A name is written bare. -/
def IsWrittenBare (name : Text) : Prop := isPlainName name = true ∧ Words.isReserved name = false

instance (name : Text) : Decidable (IsWrittenBare name) :=
  inferInstanceAs (Decidable (_ ∧ _))

theorem escapeName_bare {name : Text} (h : IsWrittenBare name) : escapeName name = name := by
  simp [escapeName, h.1, h.2]

theorem escapeName_quoted {name : Text} (h : ¬ IsWrittenBare name) :
    escapeName name = quoteName name := by
  have hc : (isPlainName name && !Words.isReserved name) = false := by
    rw [IsWrittenBare] at h
    grind
  rw [escapeName, hc]
  rfl

theorem escapeName_ne_nil (name : Text) : escapeName name ≠ [] := by
  by_cases h : IsWrittenBare name
  · rw [escapeName_bare h]
    rintro rfl
    exact absurd h.1 (by decide)
  · rw [escapeName_quoted h]
    exact List.cons_ne_nil _ _

theorem not_blank_or_digit_of_name {name more : Text} {v : CodeUnit}
    (hv : (escapeName name ++ more).head? = some v) : v.isBlank = false ∧ v.isDigit = false := by
  by_cases h : IsWrittenBare name
  · rw [escapeName_bare h] at hv
    cases name with
    | nil => exact absurd h.1 (by decide)
    | cons u rest =>
      obtain rfl := Option.some.inj hv
      have hstart := (bare_of_plain h.1).1
      exact ⟨not_blank_of_wordStart hstart, not_digit_of_wordStart hstart⟩
  · rw [escapeName_quoted h] at hv
    obtain rfl := Option.some.inj hv
    decide

/-- A written name ends with neither a blank nor a semicolon. -/
theorem last_of_escapeName {name : Text} {u : CodeUnit}
    (h : (escapeName name).getLast? = some u) : u.isBlank = false ∧ u ≠ unit ';' := by
  by_cases hbare : IsWrittenBare name
  · rw [escapeName_bare hbare] at h
    have hpart := wordPart_of_bare (bare_of_plain hbare.1) u (List.mem_of_getLast? h)
    refine ⟨not_blank_of_wordPart hpart, ?_⟩
    rintro rfl
    exact absurd hpart (by decide +kernel)
  · rw [escapeName_quoted hbare, quoteName, List.getLast?_append] at h
    obtain rfl := Option.some.inj h
    decide

theorem length_le_double (mark : CodeUnit) (t : Text) : t.length ≤ (double mark t).length := by
  induction t with
  | nil => exact Nat.le_refl _
  | cons u t ih =>
    rw [double_cons, List.length_append, List.length_cons]
    split
    · simp only [List.length_cons, List.length_nil]
      omega
    · simp only [List.length_cons, List.length_nil]
      omega

/-- Quotes make a name longer. -/
theorem length_lt_escapeName {name : Text} (h : ¬ IsWrittenBare name) :
    name.length < (escapeName name).length := by
  have hdouble := length_le_double (unit '\x22') name
  rw [escapeName_quoted h, quoteName]
  simp only [List.length_append, List.length_cons, List.length_nil]
  omega

theorem length_le_escapeName (name : Text) : name.length ≤ (escapeName name).length := by
  by_cases h : IsWrittenBare name
  · exact Nat.le_of_eq (congrArg List.length (escapeName_bare h).symm)
  · exact Nat.le_of_lt (length_lt_escapeName h)

/-- The word a name is written as. -/
def nameLexeme (name : Text) : Lexeme :=
  ⟨if IsWrittenBare name then .identifier else .quotedIdentifier true, escapeName name⟩

theorem lexemes_escapeName (name : Text) {more : Text} (hm : EndsWord more) :
    lexemes (escapeName name ++ more) = nameLexeme name :: lexemes more := by
  by_cases h : IsWrittenBare name
  · have hk : wordKind name = .identifier := by
      have hr := h.2
      rw [Words.isReserved, Option.isSome_eq_false_iff, Option.isNone_iff_eq_none] at hr
      rw [wordKind, hr]
    rw [nameLexeme, if_pos h, escapeName_bare h, lexemes_word (bare_of_plain h.1) hm, hk]
  · rw [nameLexeme, if_neg h, escapeName_quoted h,
      lexemes_quoted name (fun hq => (hm _ hq).2.2 rfl)]

/-- The word that a name is written as stands for the name. -/
theorem unquote_escapeName (name : Text) : unquote (escapeName name) = name := by
  by_cases h : IsWrittenBare name
  · rw [escapeName_bare h, unquote_bare (bare_of_plain h.1)]
  · rw [escapeName_quoted h, unquote_quoteName]

theorem isName_nameLexeme (name : Text) : (nameLexeme name).isName = true := by
  rw [nameLexeme]
  split
  · rfl
  · rfl

theorem mark_of_nameLexeme (name : Text) (c : Char) : (nameLexeme name).isMark c = false := by
  rw [nameLexeme]
  split
  · rfl
  · rfl

theorem isNameLike_nameLexeme (name : Text) : (nameLexeme name).isNameLike = true := by
  rw [isNameLike, isName_nameLexeme, Bool.true_or]

theorem unquote_nameLexeme (name : Text) : unquote (nameLexeme name).text = name :=
  unquote_escapeName name

end SqlShell.Proofs
