import SqlShell.Proofs.Naming
import SqlShell.Proofs.Tiling

namespace SqlShell.Proofs
open Lexeme

def isQuoted (l : Lexeme) : Bool :=
  match l.kind with
  | .string _ | .quotedIdentifier _ => true
  | _ => false

/-- What stands behind a body: its closing mark, or nothing if the token runs to the end of the
text. -/
def closingPart (closed : Bool) (closer : CodeUnit) : Text := if closed then [closer] else []

/-- The parts of a string or a quoted identifier at its place in a text. -/
structure QuotedAs (sql : Text) (t : Token) (opening body : Text) (closer : CodeUnit) : Prop where
  opens : Opens t.kind opening (.mark closer)
  text : t.text = opening ++ (body ++ closingPart (!t.isUnterminated) closer)
  escaped : Escaped closer body
  /-- The closing mark is not half of a pair. -/
  single : t.isUnterminated = false → isDoubling closer = true →
    (sql.drop t.stop).head? ≠ some closer

/-- What a run takes is a body in which marks stand in pairs only, and the mark behind it. -/
theorem quotedRun_parts (closer : CodeUnit) (t : Text) :
    ∃ body, t.take (quotedRun closer t).1 = body ++ closingPart (quotedRun closer t).2 closer ∧
      Escaped closer body ∧ ((quotedRun closer t).2 = true → isDoubling closer = true →
        (t.drop (quotedRun closer t).1).head? ≠ some closer) := by
  fun_induction quotedRun closer t with
  | case1 => exact ⟨[], rfl, .nil, by simp⟩
  | case2 u =>
    by_cases hu : u = closer
    · subst hu
      exact ⟨[], by simp [closingPart], .nil, by simp⟩
    · exact ⟨[u], by simp [closingPart, hu], .other hu .nil, by simp⟩
  | case3 v rest hd n closed he ih =>
    obtain ⟨hdoubling, hv⟩ := Bool.and_eq_true_iff.mp hd
    obtain rfl := eq_of_beq hv
    obtain ⟨body, hbody, hescaped, hsingle⟩ := ih
    rw [he] at hbody hsingle
    exact ⟨v :: v :: body, by simpa using hbody, .pair hdoubling hescaped, by simpa using hsingle⟩
  | case4 v rest hd =>
    refine ⟨[], rfl, .nil, fun _ hdoubling hv => ?_⟩
    simp_all
  | case5 u v rest hu n closed he ih =>
    obtain ⟨body, hbody, hescaped, hsingle⟩ := ih
    rw [he] at hbody hsingle
    exact ⟨u :: body, by simpa using hbody, .other hu hescaped, by simpa using hsingle⟩

theorem undouble_pair (mark : CodeUnit) (t : Text) :
    undouble mark (mark :: mark :: t) = mark :: undouble mark t := by simp [undouble]

namespace Escaped

variable {closer : CodeUnit} {body : Text}

/-- The pairs of a body can be restored from what they stand for. -/
theorem double_undouble (h : Escaped closer body) :
    double closer (undouble closer body) = body := by
  induction h with
  | nil => rfl
  | other hu _ ih =>
    rw [undouble_cons hu, double_cons, if_neg hu, ih]
    rfl
  | pair _ _ ih =>
    rw [undouble_pair, double_cons, if_pos rfl, ih]
    rfl

/-- A mark that cannot be doubled does not stand in a body. -/
theorem not_mem (h : Escaped closer body) (hd : isDoubling closer = false) : closer ∉ body := by
  induction h with
  | nil => exact List.not_mem_nil
  | other hu _ ih =>
    intro hm
    rcases List.mem_cons.mp hm with rfl | hm
    · exact hu rfl
    · exact ih hm
  | pair hdoubling _ _ =>
    rw [hd] at hdoubling
    contradiction

theorem undouble_single (h : Escaped closer body) (hd : isDoubling closer = false) :
    undouble closer body = body := by
  induction h with
  | nil => rfl
  | other hu _ ih => rw [undouble_cons hu, ih]
  | pair hdoubling _ _ =>
    rw [hd] at hdoubling
    contradiction

/-- The half that is left of a pair at the end stands for as much as the pair. -/
theorem undouble_dropLast (h : Escaped closer body) (hl : body.getLast? = some closer) :
    undouble closer body.dropLast = undouble closer body := by
  induction h with
  | nil => contradiction
  | @other u t hu _ ih =>
    cases t with
    | nil => exact absurd (Option.some.inj hl) hu
    | cons v t =>
      rw [List.getLast?_cons_cons] at hl
      rw [List.dropLast_cons_cons, undouble_cons hu, undouble_cons hu, ih hl]
  | @pair t _ _ ih =>
    cases t with
    | nil => exact (undouble_pair closer []).symm
    | cons v t =>
      rw [List.getLast?_cons_cons, List.getLast?_cons_cons] at hl
      rw [List.dropLast_cons_cons, List.dropLast_cons_cons, undouble_pair, undouble_pair, ih hl]

/-- A quoted word stands for its body with each pair taken for one mark, closed or not. -/
theorem unquote_body {u : CodeUnit} (h : Escaped closer body) (hu : closingQuote? u = some closer)
    (closed : Bool) :
    unquote (u :: (body ++ closingPart closed closer)) = undouble closer body := by
  have hbody : (if isDoubling closer then undouble closer body else body) =
      undouble closer body := by
    cases hd : isDoubling closer with
    | true => rfl
    | false => exact (h.undouble_single hd).symm
  rw [unquote, hu]
  dsimp only
  cases closed with
  | true =>
    have hpart : body ++ closingPart true closer = body ++ [closer] := rfl
    rw [hpart, List.getLast?_concat, if_pos rfl, List.dropLast_concat]
    exact hbody
  | false =>
    have hpart : body ++ closingPart false closer = body := List.append_nil body
    rw [hpart]
    by_cases hl : body.getLast? = some closer
    · -- only of a mark that can be doubled is there a last one in the body
      have hd : isDoubling closer = true := by
        rw [← Bool.not_eq_false]
        exact fun hd => h.not_mem hd (List.mem_of_getLast? hl)
      rw [if_pos hl, if_pos hd]
      exact h.undouble_dropLast hl
    · rw [if_neg hl]
      exact hbody

end Escaped

theorem isDelimited_of_isQuoted {l : Lexeme} (h : isQuoted l = true) : isDelimited l = true := by
  unfold isQuoted at h
  unfold isDelimited
  split at h <;> simp_all

/-- A string or a quoted identifier is its opening with the run behind that. -/
theorem firstLexeme_quoted {u : CodeUnit} {rest : Text}
    (h : isQuoted (firstLexeme u rest) = true) :
    ∃ opening closer more, u :: rest = opening ++ more ∧
      Opens (firstLexeme u rest).kind opening (.mark closer) ∧
      (firstLexeme u rest).text = opening ++ more.take (quotedRun closer more).1 ∧
      (firstLexeme u rest).isUnterminated = !(quotedRun closer more).2 := by
  rw [firstLexeme, front_eq] at h ⊢
  cases ho : Opening.of u rest.head? with
  | string =>
    obtain rfl := unit_of_string ho
    exact ⟨_, _, rest, rfl, .string, rfl, rfl⟩
  | quoted closer => exact ⟨_, _, rest, rfl, .quoted (closer_of_quoted ho), rfl, rfl⟩
  | blob =>
    obtain ⟨rest, rfl⟩ := List.head?_eq_some_iff.mp (next_of_blob ho)
    refine ⟨_, _, rest, rfl, .blob (unit_of_blob ho), ?_, rfl⟩
    simp [Opening.read, Nat.add_comm 1]
  | word =>
    rw [ho] at h
    have hword := isDelimited_of_isQuoted h
    simp [Opening.read, not_delimited_word] at hword
  | blanks | lineComment | blockComment | number | operator =>
    rw [ho] at h
    contradiction

section
variable {sql : Text} {t : Token}

theorem token_parts (ht : t ∈ tokenize sql) (hq : isQuoted t.toLexeme = true) :
    ∃ opening body closer, QuotedAs sql t opening body closer := by
  obtain ⟨u, rest, hdrop, hl⟩ := lexeme_at_place ht
  have hkind : t.kind = (firstLexeme u rest).kind := congrArg Lexeme.kind hl
  have htext : t.text = (firstLexeme u rest).text := congrArg Lexeme.text hl
  rw [hl] at hq
  obtain ⟨opening, closer, more, hmore, hopens, hrun, hclosed⟩ := firstLexeme_quoted hq
  obtain ⟨body, hbody, hescaped, hsingle⟩ := quotedRun_parts closer more
  rw [← hl] at hclosed
  have hrest : sql.drop t.stop = more.drop (quotedRun closer more).1 := by
    rw [Token.stop, ← List.drop_drop, hdrop, hmore, htext, hrun, List.length_append,
      List.length_take, Nat.min_eq_left (quotedRun_le closer more), ← List.drop_drop,
      List.drop_left]
  refine ⟨opening, body, closer, ?_⟩
  constructor
  case opens => exact hkind ▸ hopens
  case text => rw [htext, hrun, hbody, hclosed, Bool.not_not]
  case escaped => exact hescaped
  case single =>
    intro hterminated hdoubling
    rw [hclosed, Bool.not_eq_false'] at hterminated
    rw [hrest]
    exact hsingle hterminated hdoubling

/-- Between its delimiters a string or a quoted identifier holds other units and pairs of the
closing mark only, and none at all if this mark cannot be doubled; the mark that closes it is no
half of a pair. A quoted identifier stands for the body with each pair taken for one mark, so that
quoting what it stands for gives a closed one back. -/
theorem quoted_token_read (ht : t ∈ tokenize sql) (hq : isQuoted t.toLexeme = true) :
    ∃ opening body closer, QuotedAs sql t opening body closer ∧
      ((∃ closed, t.kind = .quotedIdentifier closed) →
        unquote t.text = undouble closer body ∧ double closer (unquote t.text) = body ∧
        (t.isUnterminated = false →
          opening ++ (double closer (unquote t.text) ++ [closer]) = t.text)) := by
  obtain ⟨opening, body, closer, hparts⟩ := token_parts ht hq
  refine ⟨opening, body, closer, hparts, ?_⟩
  rintro ⟨closed, hkind⟩
  obtain ⟨u, rfl, hu⟩ : ∃ u, opening = [u] ∧ closingQuote? u = some closer := by
    have hopens := hparts.opens
    rw [hkind] at hopens
    cases hopens with
    | quoted hu => exact ⟨_, rfl, hu⟩
  have hunquoted : unquote t.text = undouble closer body := by
    rw [hparts.text]
    exact hparts.escaped.unquote_body hu _
  have hdoubled : double closer (unquote t.text) = body := by
    rw [hunquoted]
    exact hparts.escaped.double_undouble
  refine ⟨hunquoted, hdoubled, fun hclosed => ?_⟩
  rw [hdoubled, hparts.text, hclosed]
  rfl

end

/-- The text ends with a name that is still open, and its last two marks are one pair. -/
theorem open_name_read :
    let sql : Text := "SELECT [a]b]], \x22x\x22\x22"
    let t : Token := ⟨⟨.quotedIdentifier false, "\x22x\x22\x22"⟩, 15⟩
    t ∈ tokenize sql ∧ isQuoted t.toLexeme = true ∧
      ∃ opening body closer, QuotedAs sql t opening body closer ∧
        ((∃ closed, t.kind = .quotedIdentifier closed) →
          unquote t.text = undouble closer body ∧ double closer (unquote t.text) = body ∧
          (t.isUnterminated = false →
            opening ++ (double closer (unquote t.text) ++ [closer]) = t.text)) := by
  intro sql t
  have ht : t ∈ tokenize sql := by decide +kernel
  have hq : isQuoted t.toLexeme = true := rfl
  exact ⟨ht, hq, quoted_token_read ht hq⟩

end SqlShell.Proofs
