import SqlShell.Proofs.Boundaries
import SqlShell.Statement.Basic

namespace SqlShell.Proofs
open Statement (Progress splitFrom)

/-- None of these tokens ends the statement that has been read as far as `p` tells. -/
def StaysOpen : Progress → List Token → Prop
  | _, [] => True
  | p, t :: ts => p.endsAt t = false ∧ StaysOpen (p.read t) ts

/-- What is known of a statement after these tokens. -/
def progress (p : Progress) (ts : List Token) : Progress := ts.foldl Progress.read p

/-- Tokens from `start` on, and the statements they make up. -/
inductive Split : Nat → List Token → List Statement → Prop
  | last (h : StaysOpen {} body) : Split start body [⟨start, body, false⟩]
  | cons (h : StaysOpen {} body) (ht : (progress {} body).endsAt t = true)
      (tail : Split t.stop more ss) : Split start (body ++ t :: more) (⟨start, body, true⟩ :: ss)

theorem splitFrom_open {p : Progress} {body : List Token} (start : Nat) (h : StaysOpen p body) :
    splitFrom start p body = (⟨start, body, false⟩, []) := by
  induction body generalizing p with
  | nil => rfl
  | cons t body ih =>
    rw [splitFrom, h.1, ih h.2]
    rfl

theorem splitFrom_ended {p : Progress} {body more : List Token} {t : Token} (start : Nat)
    (h : StaysOpen p body) (ht : (progress p body).endsAt t = true) :
    splitFrom start p (body ++ t :: more) =
      (⟨start, body, true⟩, (splitFrom t.stop {} more).1 :: (splitFrom t.stop {} more).2) := by
  induction body generalizing p with
  | nil =>
    rw [List.nil_append, splitFrom, if_pos (show p.endsAt t = true from ht)]
  | cons u body ih =>
    rw [List.cons_append, splitFrom, h.1, ih h.2 ht]
    rfl

/-- Either no token ends the statement, or there is a first one that does. -/
theorem staysOpen_or_ends (p : Progress) (ts : List Token) :
    StaysOpen p ts ∨ ∃ body t more, ts = body ++ t :: more ∧ StaysOpen p body ∧
      (progress p body).endsAt t = true := by
  induction ts generalizing p with
  | nil => exact Or.inl trivial
  | cons t ts ih =>
    cases he : p.endsAt t with
    | true => exact Or.inr ⟨[], t, ts, rfl, trivial, he⟩
    | false =>
      rcases ih (p.read t) with ho | ⟨body, u, more, rfl, hb, hu⟩
      · exact Or.inl ⟨he, ho⟩
      · exact Or.inr ⟨t :: body, u, more, rfl, ⟨he, hb⟩, hu⟩

/-- The statements of tokens from `start` on. -/
def splitAll (start : Nat) (ts : List Token) : List Statement :=
  (splitFrom start {} ts).1 :: (splitFrom start {} ts).2

theorem statements_eq (sql : Text) : statements sql = splitAll 0 (tokenize sql) := rfl

theorem split_splitAll (start : Nat) (ts : List Token) : Split start ts (splitAll start ts) := by
  rcases staysOpen_or_ends {} ts with ho | ⟨body, t, more, he, hb, ht⟩
  · rw [splitAll, splitFrom_open start ho]
    exact Split.last ho
  · rw [he, splitAll, splitFrom_ended start hb ht]
    exact Split.cons hb ht (split_splitAll t.stop more)
termination_by ts.length
decreasing_by simp only [he, List.length_append, List.length_cons]; omega

theorem Split.eq_splitAll (h : Split start ts ss) : ss = splitAll start ts := by
  induction h with
  | last h => rw [splitAll, splitFrom_open _ h]
  | cons h ht _ ih => rw [ih, splitAll, splitAll, splitFrom_ended _ h ht]

/-- Only a semicolon ends a statement. -/
theorem mark_of_endsAt {p : Progress} {t : Token} (h : p.endsAt t = true) :
    t.isMark ';' = true := by
  simp only [Progress.endsAt, Bool.and_eq_true] at h
  exact h.1

theorem text_of_mark {t : Token} (h : t.isMark ';' = true) : t.text = [unit ';'] := by
  simp only [Lexeme.isMark, Lexeme.isPunctuation, Bool.and_eq_true, beq_iff_eq] at h
  exact h.2

theorem text_eq (s : Statement) :
    s.text = written s.tokens ++ if s.terminated then [unit ';'] else [] := rfl

/-- The same statement `n` units further on. -/
def shiftStatement (n : Nat) (s : Statement) : Statement :=
  { s with start := s.start + n, tokens := s.tokens.map (Token.shift n) }

@[simp] theorem read_shift (p : Progress) (n : Nat) (t : Token) :
    p.read (t.shift n) = p.read t := rfl

@[simp] theorem text_shift (n : Nat) (s : Statement) : (shiftStatement n s).text = s.text := by
  rw [text_eq, text_eq, ← written_shift n s.tokens]
  rfl

@[simp] theorem start_shift (n : Nat) (s : Statement) :
    (shiftStatement n s).start = s.start + n := rfl

theorem leading_shift (n : Nat) (s : Statement) :
    (shiftStatement n s).leading? = s.leading?.map (Token.shift n) := by
  rw [Statement.leading?, Statement.leading?, shiftStatement, List.find?_map]
  rfl

@[simp] theorem isBlank_shift (n : Nat) (s : Statement) :
    (shiftStatement n s).isBlank = s.isBlank := by
  rw [Statement.isBlank, Statement.isBlank, leading_shift, Option.isNone_map]

theorem StaysOpen.shift {p : Progress} {ts : List Token} (n : Nat) (h : StaysOpen p ts) :
    StaysOpen p (ts.map (Token.shift n)) := by
  induction ts generalizing p with
  | nil => trivial
  | cons t ts ih => exact ⟨h.1, ih h.2⟩

theorem progress_shift (p : Progress) (n : Nat) (ts : List Token) :
    progress p (ts.map (Token.shift n)) = progress p ts := by
  simp [progress, List.foldl_map]

theorem Split.shift (n : Nat) (h : Split start ts ss) :
    Split (start + n) (ts.map (Token.shift n)) (ss.map (shiftStatement n)) := by
  induction h with
  | last h => exact Split.last (h.shift n)
  | @cons body t more ss start h ht _ ih =>
    rw [← shift_stop] at ih
    rw [List.map_append, List.map_cons]
    exact Split.cons (h.shift n) (by rw [progress_shift]; exact ht) ih

/-- What follows a statement in its own text. -/
def closing (s : Statement) : List Statement :=
  if s.terminated then [⟨s.stop, [], false⟩] else []

/-- Tokens that stand one behind the other from `start` on. -/
def Placed (start : Nat) (ts : List Token) : Prop := ∃ ls, ts = placeFrom start ls

theorem placed_tokenize (sql : Text) : Placed 0 (tokenize sql) := ⟨lexemes sql, rfl⟩

theorem Placed.behind {body more : List Token} {t : Token}
    (h : Placed start (body ++ t :: more)) (ht : t.text = [unit ';']) :
    t.stop = start + (written body).length + 1 ∧ Placed t.stop more := by
  obtain ⟨ls, hs⟩ := h
  obtain ⟨ms, ns, -, rfl, hn⟩ := placeFrom_split hs.symm
  cases ns with
  | nil => contradiction
  | cons l ns =>
    obtain ⟨rfl, rfl⟩ := List.cons.inj hn
    refine ⟨?_, ns, rfl⟩
    rw [written_placeFrom, Token.stop, ht]
    rfl

theorem stop_ended (start : Nat) (body : List Token) :
    Statement.stop ⟨start, body, true⟩ = start + (written body).length + 1 := by
  simp only [Statement.stop, text_eq, if_true, List.length_append, List.length_singleton,
    Nat.add_assoc]

theorem length_behind {t : Token} (ht : t.text = [unit ';']) (body more : List Token) :
    (written (body ++ t :: more)).length = (written body).length + 1 + (written more).length := by
  simp only [written_append, written_cons, ht, List.length_append, List.length_singleton,
    Nat.add_assoc]

/-- A statement with the tokens of its text, which among them make up this statement alone. -/
theorem Split.mem (h : Split start ts ss) (hp : Placed start ts) (hm : s ∈ ss) :
    ∃ before own after, ts = before ++ (own ++ after) ∧
      s.start = start + (written before).length ∧ written own = s.text ∧
      Split s.start own (s :: closing s) := by
  induction h with
  | @last body start h =>
    obtain rfl := List.mem_singleton.mp hm
    exact ⟨[], body, [], by simp, by simp, by simp [text_eq], Split.last h⟩
  | @cons body t more ss start h ht _ ih =>
    have htext := text_of_mark (mark_of_endsAt ht)
    obtain ⟨hstop, hmore⟩ := hp.behind htext
    rcases List.mem_cons.mp hm with rfl | hm
    · have hs : Statement.stop ⟨start, body, true⟩ = t.stop := by rw [stop_ended, hstop]
      refine ⟨[], body ++ [t], more, by simp, by simp, ?_, ?_⟩
      · rw [text_eq, written_append, written_cons, htext]
        rfl
      · rw [closing, hs]
        exact Split.cons h ht (Split.last trivial)
    · obtain ⟨before, own, after, rfl, hs, hw, hsplit⟩ := ih hmore hm
      refine ⟨body ++ t :: before, own, after, by simp, ?_, hw, hsplit⟩
      rw [hs, hstop, length_behind htext]
      omega

theorem Split.nonempty (h : Split start ts ss) : ss ≠ [] := by
  cases h <;> exact List.cons_ne_nil _ _

/-- The last of these statements has no tokens. -/
def EndsEmpty (ss : List Statement) : Prop := ss.getLast?.map Statement.tokens = some []

instance (ss : List Statement) : Decidable (EndsEmpty ss) :=
  inferInstanceAs (Decidable (_ = _))

theorem EndsEmpty.tail (h : EndsEmpty (s :: ss)) (hn : ss ≠ []) : EndsEmpty ss := by
  rwa [EndsEmpty, List.getLast?_cons_of_ne_nil hn] at h

/-- Behind a last statement without tokens the splitter begins afresh. -/
theorem Split.append (h : Split start ts ss) (hp : Placed start ts)
    (he : EndsEmpty ss)
    (hmore : Split (start + (written ts).length) more rest) :
    Split start (ts ++ more) (ss.filter (·.terminated) ++ rest) := by
  induction h with
  | @last body start h =>
    obtain rfl : body = [] := Option.some.inj he
    exact hmore
  | @cons body t tail ss start h ht hs ih =>
    have htext := text_of_mark (mark_of_endsAt ht)
    obtain ⟨hstop, htail⟩ := hp.behind htext
    have hfrom : start + (written (body ++ t :: tail)).length =
        t.stop + (written tail).length := by
      rw [hstop, length_behind htext]
      omega
    rw [hfrom] at hmore
    rw [List.append_assoc, List.cons_append]
    exact Split.cons h ht (ih htail (he.tail hs.nonempty) hmore)

/-- If the last statement has no tokens, the text is empty or ends with a semicolon. -/
theorem Split.ends (h : Split start ts ss) (he : EndsEmpty ss) :
    ts = [] ∨ ∃ us t, ts = us ++ [t] ∧ t.isMark ';' = true := by
  induction h with
  | last h => exact Or.inl (Option.some.inj he)
  | @cons body t tail ss start h ht hs ih =>
    right
    rcases ih (he.tail hs.nonempty) with rfl | ⟨us, u, rfl, hu⟩
    · exact ⟨body, t, rfl, mark_of_endsAt ht⟩
    · exact ⟨body ++ t :: us, u, by simp, hu⟩

/-- Of statements with an empty last one only that one is not ended. -/
theorem Split.blank_of_open (h : Split start ts ss) (he : EndsEmpty ss) (hm : s ∈ ss)
    (ho : s.terminated = false) : s.isBlank = true := by
  induction h with
  | @last body start h =>
    obtain rfl : body = [] := Option.some.inj he
    obtain rfl := List.mem_singleton.mp hm
    rfl
  | cons h ht hs ih =>
    rcases List.mem_cons.mp hm with rfl | hm
    · exact Bool.noConfusion ho
    · exact ih (he.tail hs.nonempty) hm

theorem splitAll_shift (start n : Nat) (ts : List Token) :
    splitAll (start + n) (ts.map (Token.shift n)) =
      (splitAll start ts).map (shiftStatement n) :=
  ((split_splitAll start ts).shift n).eq_splitAll.symm

theorem split_statements (sql : Text) : Split 0 (tokenize sql) (statements sql) :=
  split_splitAll 0 (tokenize sql)

theorem staysOpen_of_unmarked {p : Progress} {ts : List Token}
    (h : ∀ t ∈ ts, t.isMark ';' = false) : StaysOpen p ts := by
  induction ts generalizing p with
  | nil => trivial
  | cons t ts ih =>
    refine ⟨?_, ih fun u hu => h u (List.mem_cons_of_mem _ hu)⟩
    rw [Progress.endsAt, h t List.mem_cons_self, Bool.false_and]

theorem unmarked_of_absent {t : Text} (h : unit ';' ∉ t) :
    ∀ l ∈ lexemes t, l.isMark ';' = false := by
  intro l hl
  cases hm : l.isMark ';' with
  | false => rfl
  | true =>
    simp only [Lexeme.isMark, Lexeme.isPunctuation, Bool.and_eq_true, beq_iff_eq] at hm
    refine absurd ?_ h
    rw [← spell_lexemes t]
    exact List.mem_flatMap.mpr ⟨l, hl, by rw [hm.2]; exact List.mem_singleton_self _⟩

/-- Without a semicolon a text is one statement. -/
theorem statements_unmarked {sql : Text} (h : ∀ l ∈ lexemes sql, l.isMark ';' = false) :
    statements sql = [⟨0, tokenize sql, false⟩] := by
  have hopen : StaysOpen {} (tokenize sql) :=
    staysOpen_of_unmarked fun _ ht => h _ (toLexeme_mem ht)
  rw [statements_eq, splitAll, splitFrom_open 0 hopen]

/-- The tokens of a text, taken for one statement, are the text. -/
theorem text_whole (sql : Text) : (⟨0, tokenize sql, false⟩ : Statement).text = sql := by
  rw [text_eq, written_tokenize]
  exact List.append_nil sql

/-- Where a statement stands in its text. -/
theorem statement_place {sql : Text} {s : Statement} (hm : s ∈ statements sql) :
    ∃ before after, sql = before ++ s.text ++ after ∧ s.start = before.length := by
  obtain ⟨before, own, after, hs, hstart, hown, -⟩ :=
    (split_statements sql).mem (placed_tokenize sql) hm
  refine ⟨written before, written after, ?_, by rw [hstart, Nat.zero_add]⟩
  rw [← hown, List.append_assoc, ← written_append, ← written_append, ← hs, written_tokenize]

theorem text_eq_extract {sql : Text} {s : Statement} (hm : s ∈ statements sql) :
    s.text = sql.extract s.start s.stop := by
  obtain ⟨before, after, rfl, hs⟩ := statement_place hm
  rw [Statement.stop, hs, List.extract_eq_take_drop, List.append_assoc, List.drop_left,
    Nat.add_sub_cancel_left, List.take_left]

/-- The statements before the last one are those of the text before it. -/
theorem Split.front (h : Split start ts ss) (hp : Placed start ts) (hx : ss.getLast? = some x) :
    x.terminated = false ∧ ∃ before, ts = before ++ x.tokens ∧
      x.start = start + (written before).length ∧
      Split start before (ss.dropLast ++ [⟨x.start, [], false⟩]) := by
  induction h with
  | last h =>
    obtain rfl := Option.some.inj hx
    exact ⟨rfl, [], rfl, rfl, Split.last trivial⟩
  | @cons body t more ss start h ht hs ih =>
    have htext := text_of_mark (mark_of_endsAt ht)
    obtain ⟨hstop, hmore⟩ := hp.behind htext
    rw [List.getLast?_cons_of_ne_nil hs.nonempty] at hx
    obtain ⟨hopen, before, rfl, hstart, hbefore⟩ := ih hmore hx
    refine ⟨hopen, body ++ t :: before, by simp, ?_, ?_⟩
    · rw [hstart, hstop, length_behind htext]
      omega
    · rw [List.dropLast_cons_of_ne_nil hs.nonempty, List.cons_append]
      exact Split.cons h ht hbefore

/-- The last statement runs to the end of the text, and those before it are all ended. -/
theorem last_statement {sql : Text} {x : Statement} (hx : (statements sql).getLast? = some x) :
    ∃ front, sql = front ++ x.text ∧ x.start = front.length ∧ EndsEmpty (statements front) := by
  obtain ⟨hopen, before, hts, hstart, hbefore⟩ :=
    (split_statements sql).front (placed_tokenize sql) hx
  refine ⟨written before, ?_, by rw [hstart, Nat.zero_add], ?_⟩
  · rw [text_eq, hopen, ← written_tokenize sql, hts, written_append]
    simp
  · rw [statements_eq, (tokenize_cut hts).1, ← hbefore.eq_splitAll]
    simp [EndsEmpty]

/-- A statement split alone is itself again. -/
theorem statements_alone {sql : Text} {s : Statement} (hm : s ∈ statements sql) :
    (statements s.text).map (shiftStatement s.start) = s :: closing s := by
  obtain ⟨before, own, after, hs, hstart, hown, hsplit⟩ :=
    (split_statements sql).mem (placed_tokenize sql) hm
  rw [Nat.zero_add] at hstart
  obtain ⟨ts, us, htail, hts, -⟩ := List.map_eq_append_iff.mp (tokenize_cut hs).2
  have hw : written own = written ts := by rw [← hts, written_shift]
  have hread : (tokenize (written own)).map (Token.shift s.start) = own := by
    rw [hw, (tokenize_cut htail).1, hstart, hts]
  rw [← hown, statements_eq, ← splitAll_shift, hread, Nat.zero_add]
  exact hsplit.eq_splitAll.symm

/-- Statements that are all ended stay as they are, whatever is written behind them. -/
theorem statements_join {a : Text} (b : Text) (he : EndsEmpty (statements a)) :
    statements (a ++ b) =
      (statements a).filter (·.terminated) ++ (statements b).map (shiftStatement a.length) := by
  have ha := split_statements a
  have hb := (split_statements b).shift a.length
  have htokens : tokenize (a ++ b) =
      tokenize a ++ (tokenize b).map (Token.shift a.length) := by
    rcases ha.ends he with hn | ⟨ts, t, hs, ht⟩
    · have hnil : a = [] := by rw [← written_tokenize a, hn]; rfl
      subst hnil
      simp [hn]
    · exact tokenize_join b hs ht
  have hw : 0 + (written (tokenize a)).length = 0 + a.length := by rw [written_tokenize]
  rw [← hw] at hb
  rw [statements_eq (a ++ b), htokens]
  exact (ha.append (placed_tokenize a) he hb).eq_splitAll.symm

theorem executableStatements_join {a : Text} (b : Text) (he : EndsEmpty (statements a)) :
    executableStatements (a ++ b) =
      executableStatements a ++ (executableStatements b).map (shiftStatement a.length) := by
  have hended : ((statements a).filter (·.terminated)).filter (fun x => !x.isBlank) =
      (statements a).filter (fun x => !x.isBlank) := by
    rw [List.filter_filter]
    apply List.filter_congr
    intro x hx
    cases ho : x.terminated with
    | true => rw [Bool.and_true]
    | false => rw [(split_statements a).blank_of_open he hx ho]; rfl
  rw [executableStatements, statements_join b he, List.filter_append, hended, List.filter_map]
  have hshift : (fun x : Statement => !x.isBlank) ∘ shiftStatement a.length =
      fun x => !x.isBlank := by
    funext x
    simp
  rw [hshift]
  rfl

/-- The splitter is back where it began at every split: a statement alone is the same statement
again, followed by nothing or, behind its semicolon, by an empty one; and statements that are all
ended are followed by the statements of whatever text comes behind. -/
theorem statements_alone_and_joined :
    (∀ sql, ∀ s ∈ statements sql, s.text = sql.extract s.start s.stop ∧
      (statements s.text).map (shiftStatement s.start) =
        s :: if s.terminated then [⟨s.stop, [], false⟩] else []) ∧
    (∀ a b, EndsEmpty (statements a) →
      statements (a ++ b) = (statements a).filter (·.terminated) ++
        (statements b).map (shiftStatement a.length)) :=
  ⟨fun _ _ hm => ⟨text_eq_extract hm, statements_alone hm⟩, fun _ b he => statements_join b he⟩

theorem number_alone_and_joined :
    let s : Statement := ⟨2, [⟨⟨.number, [unit '2']⟩, 2⟩], true⟩
    (s ∈ statements "1;2;" ∧ s.text = List.extract (Text.ofString "1;2;") s.start s.stop ∧
      (statements s.text).map (shiftStatement s.start) = [s, ⟨s.stop, [], false⟩]) ∧
    EndsEmpty (statements "1;") ∧
      statements ("1;" ++ "2;") = (statements "1;").filter (·.terminated) ++
        (statements "2;").map (shiftStatement (Text.ofString "1;").length) :=
  have hm : ⟨2, [⟨⟨.number, [unit '2']⟩, 2⟩], true⟩ ∈ statements "1;2;" := by decide +kernel
  have he : EndsEmpty (statements "1;") := by decide +kernel
  ⟨⟨hm, statements_alone_and_joined.1 "1;2;" _ hm⟩, he,
    statements_alone_and_joined.2 "1;" "2;" he⟩

end SqlShell.Proofs
