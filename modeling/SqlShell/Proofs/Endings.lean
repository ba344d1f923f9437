import SqlShell.Proofs.Confirmation
import SqlShell.Proofs.Ledger
import SqlShell.Proofs.Trimming

namespace SqlShell.Proofs
open Lexeme
open Session (State Moment isComplete)

/-- A closed quotation ends with its closing mark. -/
theorem quotedRun_closed {closer : CodeUnit} {t : Text} (h : (quotedRun closer t).2 = true) :
    (t.take (quotedRun closer t).1).getLast? = some closer := by
  fun_induction quotedRun closer t with
  | case1 => simp at h
  | case2 u => simpa using h
  | case3 v rest hd n closed he ih =>
    rw [he] at ih
    simp [List.getLast?_cons, ih h]
  | case4 v rest hd => simp
  | case5 u v rest hu n closed he ih =>
    rw [he] at ih
    simp [List.getLast?_cons, ih h]

theorem quotedRun_whole {closer : CodeUnit} {t : Text} (hn : (quotedRun closer t).1 = t.length)
    (hl : t.getLast? = some u) (hu : u ≠ closer) : (quotedRun closer t).2 = false := by
  cases hc : (quotedRun closer t).2 with
  | false => rfl
  | true =>
    have hlast := quotedRun_closed hc
    rw [hn, List.take_length, hl] at hlast
    exact absurd (Option.some.inj hlast) hu

theorem takeWhile_semicolon {p : CodeUnit → Bool} (hp : p (unit ';') = false) (t : Text) :
    ((t ++ [unit ';']).takeWhile p).length < (t ++ [unit ';']).length := by
  have hle := takeWhile_length_le p t
  rw [takeWhile_stop hp, List.length_append, List.length_singleton]
  omega

theorem closingQuote_semicolon {u closer : CodeUnit} (h : closingQuote? u = some closer) :
    unit ';' ≠ closer := by
  unfold closingQuote? at h
  split at h
  · obtain rfl := Option.some.inj h
    decide
  · split at h
    · obtain rfl := Option.some.inj h
      decide
    · split at h
      · obtain rfl := Option.some.inj h
        decide
      · contradiction

/-- A string or a quoted name without its closing mark. -/
def IsOpenQuotation : Lexeme.Kind → Prop
  | .string false | .quotedIdentifier false => True
  | _ => False

/-- The lexeme takes more than one unit, the last of them a semicolon. -/
theorem holds_of_read {u : CodeUnit} {t : Text}
    (hn : (front u (t ++ [unit ';'])).2 = (t ++ [unit ';']).length) :
    IsComment (front u (t ++ [unit ';'])).1 ∨ IsOpenQuotation (front u (t ++ [unit ';'])).1 := by
  have hlast : (t ++ [unit ';']).getLast? = some (unit ';') := by simp
  rw [front_eq] at hn ⊢
  cases ho : Opening.of u (t ++ [unit ';']).head? with
  | lineComment | blockComment => exact .inl trivial
  | blanks =>
    rw [ho] at hn
    exact absurd hn (Nat.ne_of_lt (takeWhile_semicolon (by decide) t))
  | word =>
    rw [ho] at hn
    exact absurd hn (Nat.ne_of_lt (takeWhile_semicolon (by decide) t))
  | number =>
    -- a number, like an operator, is as long as it would be without the semicolon
    have hr := numberRun_semicolon (u :: t) []
    have hle := numberRun_le (u :: t)
    rw [ho] at hn
    simp only [Opening.read, List.cons_append, List.length_append, List.length_cons,
      List.length_nil] at hn hr hle
    omega
  | operator =>
    have hr := operatorRun_semicolon (u :: t) []
    have hle := operatorRun_le u t
    rw [ho] at hn
    simp only [Opening.read, List.cons_append, List.length_append, List.length_cons,
      List.length_nil] at hn hr hle
    omega
  | string =>
    rw [ho] at hn
    have hopen := quotedRun_whole hn hlast (by decide)
    simp only [Opening.read, hopen]
    exact .inr trivial
  | quoted closer =>
    rw [ho] at hn
    have hc := closingQuote_semicolon (closer_of_quoted ho)
    have hopen := quotedRun_whole hn hlast hc
    simp only [Opening.read, hopen]
    exact .inr trivial
  | blob =>
    rw [ho] at hn
    cases t with
    | nil => exact absurd (Option.some.inj (next_of_blob ho)) (by decide)
    | cons v t =>
      simp only [Opening.read, List.cons_append, List.drop_one, List.tail_cons,
        List.length_cons] at hn ⊢
      have hopen : (quotedRun (unit '\x27') (t ++ [unit ';'])).2 = false :=
        quotedRun_whole (u := unit ';') (by omega) (by simp) (by decide)
      rw [hopen]
      exact .inr trivial

theorem front_whole (u : CodeUnit) (rest : Text) (h : t = rest.take (front u rest).2) :
    front u t = front u rest ∧ (front u t).2 = t.length := by
  subst h
  have hsame : front u (rest.take (front u rest).2) = front u rest := front_cut (Nat.le_refl _)
  refine ⟨hsame, ?_⟩
  rw [hsame, List.length_take, Nat.min_eq_left (front_le u rest)]

theorem lexeme_ends {sql : Text} {l : Lexeme} (hl : l ∈ lexemes sql)
    (hs : l.text.getLast? = some (unit ';')) :
    l = semicolon ∨ IsComment l.kind ∨ IsOpenQuotation l.kind := by
  induction sql using reading_induction with
  | nil => simp at hl
  | cons u rest ih =>
    rw [lexemes_cons] at hl
    rcases List.mem_cons.mp hl with rfl | hl
    · obtain ⟨hsame, hwhole⟩ := front_whole u rest rfl
      rw [firstLexeme] at hs ⊢
      rw [← hsame]
      generalize rest.take (front u rest).2 = t at hs hwhole
      rcases List.eq_nil_or_concat t with rfl | ⟨t, v, rfl⟩
      · obtain rfl : u = unit ';' := by simpa using hs
        rw [front_semicolon]
        exact .inl rfl
      · rw [List.concat_eq_append] at hs hwhole ⊢
        obtain rfl : v = unit ';' := by simpa [List.getLast?_cons] using hs
        exact .inr (holds_of_read hwhole)
    · exact ih hl

/-- A blank lexeme consists of blanks. -/
theorem blank_of_whitespace {sql : Text} {l : Lexeme} (hl : l ∈ lexemes sql)
    (hk : l.kind = .whitespace) : ∀ u ∈ l.text, u.isBlank = true := by
  induction sql using reading_induction with
  | nil => simp at hl
  | cons u rest ih =>
    rw [lexemes_cons] at hl
    rcases List.mem_cons.mp hl with rfl | hl
    · have ho : Opening.of u rest.head? = .blanks := by
        rw [firstLexeme, front_eq] at hk
        cases ho : Opening.of u rest.head? with
        | blanks => rfl
        | word =>
          rw [ho] at hk
          simp only [Opening.read, wordKind] at hk
          split at hk <;> contradiction
        | _ => rw [ho] at hk; contradiction
      have hu : u.isBlank = true := by
        unfold Opening.of at ho
        grind
      intro v hv
      rw [firstLexeme, front_eq, ho] at hv
      rcases List.mem_cons.mp hv with rfl | hv
      · exact hu
      · simp only [Opening.read] at hv
        rw [(List.prefix_iff_eq_take.mp (List.takeWhile_prefix _)).symm] at hv
        exact List.mem_takeWhile_imp hv
    · exact ih hl

/-- The last token of a text stands at the end of the last statement, or it ends the one before. -/
theorem Split.last_token (h : Split start ts ss) (ht : ts.getLast? = some t) :
    ∃ x, ss.getLast? = some x ∧
      (x.tokens.getLast? = some t ∨ x.tokens = [] ∧ t.isMark ';' = true) := by
  induction h with
  | last h => exact ⟨_, rfl, .inl ht⟩
  | @cons body u more ss start h hu hs ih =>
    have hlast : (⟨start, body, true⟩ :: ss).getLast? = ss.getLast? :=
      List.getLast?_cons_of_ne_nil hs.nonempty
    cases more with
    | nil =>
      obtain rfl : u = t := by simpa using ht
      rw [hlast, hs.eq_splitAll]
      exact ⟨_, rfl, .inr ⟨rfl, mark_of_endsAt hu⟩⟩
    | cons v more =>
      rw [hlast]
      apply ih
      rw [← ht, List.getLast?_append_of_ne_nil _ (List.cons_ne_nil _ _),
        List.getLast?_cons_cons]

/-- Nothing but comments stands behind the last statement that has been ended. -/
def isFinished (sql : Text) : Bool := (statements sql).getLast?.any Statement.isBlank

/-- Texts whose last unit tells something else than their last statement. -/
inductive Misread (sql : Text) : Prop
  /-- The semicolon stands in a string or in a quoted name. -/
  | quotation (ht : (tokenize sql).getLast? = some t) (hk : IsOpenQuotation t.kind)
      (hs : t.text.getLast? = some (unit ';'))
  /-- The semicolon stands in a statement, as it does in the body of a trigger. -/
  | body (hx : (statements sql).getLast? = some x) (ht : x.tokens.getLast? = some t)
      (hm : t.isMark ';' = true)
  /-- The semicolon stands in a comment, and the statement before it is not ended. -/
  | comment (ht : (tokenize sql).getLast? = some t) (hk : IsComment t.kind)
      (hs : t.text.getLast? = some (unit ';')) (hf : isFinished sql = false)
  /-- A comment stands behind the semicolon. -/
  | remark (ht : (tokenize sql).getLast? = some t) (hk : IsComment t.kind)
      (hs : t.text.getLast? ≠ some (unit ';')) (hf : isFinished sql = true)

theorem last_unit {sql : Text} {t : Token} (ht : (tokenize sql).getLast? = some t) :
    sql.getLast? = t.text.getLast? := by
  obtain ⟨us, hus⟩ := List.getLast?_eq_some_iff.mp ht
  have hne : t.text ≠ [] := lexeme_nonempty _ (toLexeme_mem (List.mem_of_getLast? ht))
  have hw := written_tokenize sql
  rw [hus, written_append, written_cons, written_nil, List.append_nil] at hw
  rw [← hw, List.getLast?_append_of_ne_nil _ hne]

theorem isBlank_of_member {x : Statement} {t : Token} (hm : t ∈ x.tokens)
    (hs : t.isSignificant = true) : x.isBlank = false := by
  rw [Statement.isBlank, Statement.leading?, Option.isNone_eq_false_iff, List.find?_isSome]
  exact ⟨t, hm, hs⟩

theorem significant_of_comment {l : Lexeme} (hk : IsComment l.kind) : l.isSignificant = false := by
  obtain ⟨kind, text⟩ := l
  cases kind with
  | lineComment | blockComment => rfl
  | _ => exact hk.elim

theorem last_mark {t : Token} (hm : t.isMark ';' = true) : t.text.getLast? = some (unit ';') := by
  rw [text_of_mark hm]
  rfl

section
variable {sql : Text} {t : Token} {x : Statement}

theorem finished_eq (hx : (statements sql).getLast? = some x) : isFinished sql = x.isBlank := by
  rw [isFinished, hx]
  rfl

/-- A significant token at the end of the last statement. -/
theorem misread_iff_significant (ht : (tokenize sql).getLast? = some t)
    (hx : (statements sql).getLast? = some x) (hin : x.tokens.getLast? = some t)
    (hs : t.isSignificant = true) : Misread sql ↔ t.text.getLast? = some (unit ';') := by
  constructor
  · intro hmis
    cases hmis with
    | quotation ht' _ hsemi =>
      obtain rfl := Option.some.inj (ht.symm.trans ht')
      exact hsemi
    | body hx' hin' hm =>
      obtain rfl := Option.some.inj (hx.symm.trans hx')
      obtain rfl := Option.some.inj (hin.symm.trans hin')
      exact last_mark hm
    | comment ht' hk | remark ht' hk =>
      obtain rfl := Option.some.inj (ht.symm.trans ht')
      rw [significant_of_comment hk] at hs
      contradiction
  · intro hsemi
    rcases lexeme_ends (toLexeme_mem (List.mem_of_getLast? ht)) hsemi with he | hk | hk
    · have hm : t.isMark ';' = true := by
        rw [he]
        rfl
      exact .body hx hin hm
    · rw [significant_of_comment hk] at hs
      contradiction
    · exact .quotation ht hk hsemi

/-- A comment at the end of the last statement. -/
theorem misread_iff_comment (ht : (tokenize sql).getLast? = some t) (hk : IsComment t.kind)
    (hx : (statements sql).getLast? = some x) (hin : x.tokens.getLast? = some t) :
    Misread sql ↔ ¬ (t.text.getLast? = some (unit ';') ↔ isFinished sql = true) := by
  constructor
  · intro hmis
    cases hmis with
    | quotation ht' hq =>
      obtain rfl := Option.some.inj (ht.symm.trans ht')
      cases hkind : t.kind <;> simp_all [IsComment, IsOpenQuotation]
    | body hx' hin' hm =>
      obtain rfl := Option.some.inj (hx.symm.trans hx')
      obtain rfl := Option.some.inj (hin.symm.trans hin')
      simp only [Lexeme.isMark, Lexeme.isPunctuation, Bool.and_eq_true, beq_iff_eq] at hm
      rw [hm.1] at hk
      exact hk.elim
    | comment ht' _ hsemi hf =>
      obtain rfl := Option.some.inj (ht.symm.trans ht')
      simp [hsemi, hf]
    | remark ht' _ hsemi hf =>
      obtain rfl := Option.some.inj (ht.symm.trans ht')
      simp [hsemi, hf]
  · intro hn
    cases hf : isFinished sql with
    | true =>
      refine .remark ht hk (fun hsemi => hn ?_) hf
      simp [hsemi, hf]
    | false =>
      refine .comment ht hk ?_ hf
      simpa [hf] using hn

/-- A semicolon that ends the last statement but one. -/
theorem not_misread_ended (ht : (tokenize sql).getLast? = some t)
    (hx : (statements sql).getLast? = some x) (he : x.tokens = []) (hm : t.isMark ';' = true) :
    ¬ Misread sql := by
  have hkind : t.kind = .punctuation := by
    simp only [Lexeme.isMark, Lexeme.isPunctuation, Bool.and_eq_true, beq_iff_eq] at hm
    exact hm.1
  intro hmis
  cases hmis with
  | body hx' hin' =>
    obtain rfl := Option.some.inj (hx.symm.trans hx')
    rw [he] at hin'
    contradiction
  | quotation ht' hk | comment ht' hk | remark ht' hk =>
    obtain rfl := Option.some.inj (ht.symm.trans ht')
    rw [hkind] at hk
    exact hk.elim

/-- The last token of a trimmed text is no blank. -/
theorem comment_of_trimmed {raw : Text} (hsql : sql = Text.trim raw)
    (ht : (tokenize sql).getLast? = some t) (hs : t.isSignificant = false) : IsComment t.kind := by
  cases hk : t.kind with
  | lineComment | blockComment => trivial
  | whitespace =>
    have hm : t.toLexeme ∈ lexemes sql := toLexeme_mem (List.mem_of_getLast? ht)
    obtain ⟨u, hu⟩ : ∃ u, t.text.getLast? = some u :=
      ⟨_, List.getLast?_eq_some_getLast (lexeme_nonempty _ hm)⟩
    have hblank := blank_of_whitespace hm hk u (List.mem_of_getLast? hu)
    rw [← last_unit ht, hsql] at hu
    rw [trim_last hu] at hblank
    contradiction
  | _ =>
    unfold Lexeme.isSignificant at hs
    rw [hk] at hs
    contradiction

/-- The last unit of a trimmed text tells whether it is finished, unless it is misread. -/
theorem complete_iff_finished {raw : Text} (hsql : sql = Text.trim raw) (hne : sql ≠ []) :
    (isComplete sql = true ↔ isFinished sql = true) ↔ ¬ Misread sql := by
  obtain ⟨t, ht⟩ : ∃ t, (tokenize sql).getLast? = some t := by
    cases h : (tokenize sql).getLast? with
    | some t => exact ⟨t, rfl⟩
    | none =>
      rw [List.getLast?_eq_none_iff] at h
      have hw := written_tokenize sql
      rw [h] at hw
      exact absurd hw.symm hne
  have hc : isComplete sql = true ↔ t.text.getLast? = some (unit ';') := by
    rw [isComplete, last_unit ht, beq_iff_eq]
  obtain ⟨x, hx, hin | ⟨he, hm⟩⟩ := (split_statements sql).last_token ht
  · cases hs : t.isSignificant with
    | true =>
      have hopen : isFinished sql = false :=
        (finished_eq hx).trans (isBlank_of_member (List.mem_of_getLast? hin) hs)
      rw [hc, misread_iff_significant ht hx hin hs, hopen]
      simp
    | false =>
      rw [hc, misread_iff_comment ht (comment_of_trimmed hsql ht hs) hx hin, not_not]
  · have hfinished : isFinished sql = true := by
      rw [finished_eq hx, Statement.isBlank, Statement.leading?, he]
      rfl
    have hcomplete := hc.mpr (last_mark hm)
    exact iff_of_true (iff_of_true hcomplete hfinished) (not_misread_ended ht hx he hm)

end

/-- The text that has been entered goes to be run, if the user confirms it where that is asked, and
the question can be put. -/
def HandsOn (a : Act) (line sql : Text) : Prop :=
  a = .ask line sql ∨ (∃ f, a = .refuse line sql f) ∨ a = .run .unasked line sql

/-- What is being entered is more than blanks. -/
def Substantial (st : State σ) : Prop := st.buffer ≠ [] → textOf st.buffer ≠ []

theorem join_snoc (separator line : Text) (hne : lines ≠ []) :
    Text.join separator (lines ++ [line]) = Text.join separator lines ++ separator ++ line := by
  induction lines with
  | nil => exact absurd rfl hne
  | cons first rest ih =>
    cases rest with
    | nil => simp [Text.join]
    | cons second rest =>
      have htail := ih (List.cons_ne_nil second rest)
      simp only [Text.join, List.cons_append, List.intercalate_cons_cons] at htail ⊢
      rw [htail]
      simp

theorem textOf_snoc (line : Text) (h : textOf lines ≠ []) : textOf (lines ++ [line]) ≠ [] := by
  have hne : lines ≠ [] := by
    rintro rfl
    exact h rfl
  intro hblank
  rw [textOf, trim_eq_nil, join_snoc _ _ hne] at hblank
  apply h
  rw [textOf, trim_eq_nil]
  intro u hu
  exact hblank u (List.mem_append_left _ (List.mem_append_left _ hu))

theorem textOf_joined {s : Session σ} {st : State σ} {line : Text} (hsub : Substantial st)
    (hj : Joins s st line) : textOf (st.buffer ++ [line]) ≠ [] := by
  by_cases hb : st.buffer = []
  · rw [hb, List.nil_append, textOf_single]
    exact (hj hb).1
  · exact textOf_snoc line (hsub hb)

theorem buffer_interrupt (s : Session σ) (st : State σ) :
    (s.interrupt st).buffer = st.buffer ∨ (s.interrupt st).buffer = [] := by
  unfold Session.interrupt
  split
  · exact .inl rfl
  · split
    · exact .inl (congrArg Desk.buffer (desk_close st))
    · dsimp only
      split
      · exact .inr rfl
      · exact .inr rfl

theorem Substantial.step {s : Session σ} {st : State σ} {a : Act} (h : Substantial st)
    (ha : Allows s st a) : Substantial (perform s st a) := by
  have hsame {st' : State σ} (hb : st'.buffer = st.buffer) : Substantial st' := by
    rwa [Substantial, hb]
  have hempty {st' : State σ} (hb : st'.buffer = []) : Substantial st' := fun hn => absurd hb hn
  cases ha with
  | arrive | keep | offer | elapse | pass => exact h
  | hold hf hj => exact fun _ => textOf_joined h hj
  | ask | refuse => exact hempty rfl
  | unasked => exact hempty (congrArg Desk.buffer (desk_execute s _ _))
  | command | confirmed => exact hsame (congrArg Desk.buffer (desk_execute s _ _))
  | decline => exact hsame (congrArg Desk.buffer (desk_decline s _))
  | resume => exact hsame (congrArg Desk.buffer (desk_goOn s st))
  | close => exact hsame (congrArg Desk.buffer (desk_close st))
  | interrupt => exact (buffer_interrupt s st).elim hsame hempty

/-- A line that joins a text is held, or the text is handed on if it ends with a semicolon. -/
theorem joined_act {s : Session σ} {st : State σ} {a : Act} {line : Text} (ha : Allows s st a)
    (ht : a.taken? = some line) (hj : Joins s st line) :
    (HandsOn a line (entered st line) ∧ isComplete (entered st line) = true) ∨
      (a = .hold line ∧ isComplete (entered st line) = false) := by
  cases ha with
  | arrive | keep | interrupt | close | offer | elapse | confirmed | decline | resume =>
    contradiction
  | pass hf hb hl =>
    obtain rfl := Option.some.inj ht
    exact absurd hl (hj hb).1
  | command hf hb hc =>
    obtain rfl := Option.some.inj ht
    rw [(hj hb).2] at hc
    contradiction
  | hold hf _ hc =>
    obtain rfl := Option.some.inj ht
    exact .inr ⟨rfl, hc⟩
  | ask hf _ hc =>
    obtain rfl := Option.some.inj ht
    exact .inl ⟨.inl rfl, hc⟩
  | refuse hf _ hc =>
    obtain rfl := Option.some.inj ht
    exact .inl ⟨.inr (.inl ⟨_, rfl⟩), hc⟩
  | unasked hf _ hc =>
    obtain rfl := Option.some.inj ht
    exact .inl ⟨.inr (.inr rfl), hc⟩

theorem not_handsOn_hold (line sql : Text) : ¬ HandsOn (.hold line) line sql := by
  rintro (h | ⟨f, h⟩ | h)
  · contradiction
  · contradiction
  · contradiction

theorem desk_handed {s : Session σ} {st : State σ} {a : Act} {line sql : Text}
    (h : HandsOn a line sql) :
    (perform s st a).buffer = [] ∧ (perform s st a).prompt = s.mainPrompt := by
  rcases h with rfl | ⟨f, rfl⟩ | rfl
  · exact ⟨rfl, rfl⟩
  · exact ⟨rfl, rfl⟩
  · have hd := desk_execute s sql (ready s st .unasked)
    exact ⟨congrArg Desk.buffer hd, congrArg Desk.prompt hd⟩

/-- A line that joins a text has the text handed on or leaves it behind the continuation prompt. It
is handed on exactly if it is finished, unless its last unit tells something else than its last
statement. -/
theorem handed_on_iff_finished {s : Session σ} {moments : List Moment} {w : World σ}
    {before after : List Act} {a : Act} {line : Text}
    (ha : acts s moments (s.start w) = before ++ a :: after) (ht : a.taken? = some line)
    (hj : Joins s (afterActs s (s.start w) before) line) :
    let st := afterActs s (s.start w) before
    let sql := textOf (st.buffer ++ [line])
    ((HandsOn a line sql ∧ (perform s st a).buffer = [] ∧
        (perform s st a).prompt = s.mainPrompt) ∨
      (¬ HandsOn a line sql ∧ (perform s st a).buffer = st.buffer ++ [line] ∧
        (perform s st a).prompt = Prompt.continuation)) ∧
    ((HandsOn a line sql ↔ isFinished sql = true) ↔ ¬ Misread sql) := by
  intro st sql
  have hl := lawful_acts s moments (s.start w)
  rw [ha] at hl
  obtain ⟨hbefore, hallowed, _⟩ := lawful_append.mp hl
  have hstart : Substantial (s.start w) := fun hn => absurd rfl hn
  have hsub : Substantial st :=
    @Lawful.keep _ s (fun _ st => Substantial st) Substantial.step [] before _ hstart hbefore
  have hfinished : (isComplete sql = true ↔ isFinished sql = true) ↔ ¬ Misread sql :=
    complete_iff_finished rfl (textOf_joined hsub hj)
  rcases joined_act hallowed ht hj with ⟨hon, hc⟩ | ⟨hhold, hc⟩
  · have hiff : HandsOn a line sql ↔ isComplete sql = true := iff_of_true hon hc
    exact ⟨.inl ⟨hon, desk_handed hon⟩, (iff_congr hiff Iff.rfl).trans hfinished⟩
  · subst hhold
    have hnot : ¬ HandsOn (.hold line) line sql := not_handsOn_hold line sql
    have hiff : HandsOn (.hold line) line sql ↔ isComplete sql = true :=
      iff_of_false hnot (Bool.eq_false_iff.mp hc)
    exact ⟨.inr ⟨hnot, rfl, rfl⟩, (iff_congr hiff Iff.rfl).trans hfinished⟩

theorem lineAct_held {s : Session σ} {st : State σ} {line : Text} (hj : Joins s st line)
    (hc : isComplete (entered st line) = false) : lineAct s st line = .hold line := by
  rw [lineAct, hc]
  by_cases hb : st.buffer = []
  · obtain ⟨hn, hcommand⟩ := hj hb
    simp [hb, hn, hcommand]
  · simp [hb]

theorem lineAct_submitted {s : Session σ} {st : State σ} {line : Text} (hj : Joins s st line)
    (hc : isComplete (entered st line) = true) (hm : s.mustAsk (entered st line) = false) :
    lineAct s st line = .run .unasked line (entered st line) := by
  rw [lineAct, hc, hm]
  by_cases hb : st.buffer = []
  · obtain ⟨hn, hcommand⟩ := hj hb
    simp [hb, hn, hcommand]
  · simp [hb]

/-- A text that is entered in two lines and runs unasked. -/
theorem acts_two_lines {s : Session σ} {st : State σ} (first second : Text) (h : Attentive st)
    (hb : st.buffer = []) (hn : Text.trim first ≠ [])
    (hc : s.commands.isCommand (Text.trim first) = false)
    (hheld : isComplete (Text.trim first) = false)
    (hcomplete : isComplete (textOf [first, second]) = true)
    (hm : s.mustAsk (textOf [first, second]) = false) :
    let before : List Act :=
      [.arrive (.line first), .hold first, .keep [], .arrive (.line second)]
    acts s [.input (.line first), .input (.line second)] st =
        before ++ .run .unasked second (textOf [first, second]) :: [.keep []] ∧
      (afterActs s st before).buffer = [first] ∧ Joins s (afterActs s st before) second := by
  intro before
  let held := afterActs s st [.arrive (.line first), .hold first, .keep []]
  have hbuffer : held.buffer = [first] := by
    change st.buffer ++ [first] = [first]
    rw [hb]
    rfl
  have hj : Joins s (afterActs s st before) second := by
    intro hempty
    exact absurd (hbuffer.symm.trans hempty) (List.cons_ne_nil _ _)
  have hfirst : lineAct s (perform s st (.arrive (.line first))) first = .hold first := by
    have hentered : entered (perform s st (.arrive (.line first))) first = Text.trim first :=
      entered_first first hb
    exact lineAct_held (fun _ => ⟨hn, hc⟩) (by rw [hentered, hheld])
  have hentered : entered (afterActs s st before) second = textOf [first, second] :=
    congrArg (fun buffer => textOf (buffer ++ [second])) hbuffer
  have hsecond : lineAct s (afterActs s st before) second =
      .run .unasked second (textOf [first, second]) := by
    rw [lineAct_submitted hj (by rw [hentered, hcomplete]) (by rw [hentered, hm]), hentered]
  refine ⟨?_, hbuffer, hj⟩
  have hone := acts_line (s := s) h first
  rw [hfirst] at hone
  have hmove : s.move st (.input (.line first)) = held := by
    have hafter := after_acts s [.input (.line first)] st
    rw [hone] at hafter
    exact hafter.symm
  have hattentive : Attentive held := ⟨⟨h.question, h.running⟩, h.isOpen, rfl⟩
  have htwo : acts s [.input (.line second)] held =
      [.arrive (.line second), lineAct s (afterActs s st before) second, .keep []] :=
    acts_line hattentive second
  rw [hsecond, ← hmove] at htwo
  rw [acts, acts, List.append_nil] at hone
  rw [acts, hone, htwo]
  rfl

theorem query_of_two_lines :
    let s := plainSession
    let st := s.start { database := () }
    let first : Text := "SELECT"
    let second : Text := "1;"
    let sql := textOf [first, second]
    let before : List Act := [.arrive (.line first), .hold first, .keep [], .arrive (.line second)]
    let a : Act := .run .unasked second sql
    acts s [.input (.line first), .input (.line second)] st = before ++ a :: [.keep []] ∧
    a.taken? = some second ∧ Joins s (afterActs s st before) second ∧
    ((HandsOn a second sql ↔ isFinished sql = true) ↔ ¬ Misread sql) := by
  intro s st first second sql before a
  have hm : s.mustAsk sql = false := by
    have hd : isDestructive sql = false := by decide +kernel
    rw [Session.mustAsk, hd, Bool.and_false]
  obtain ⟨ha, hbuffer, hj⟩ := acts_two_lines first second (attentive_start s _) rfl
    (by decide +kernel) (by decide +kernel) (by decide +kernel) (by decide +kernel) hm
  have hiff := (handed_on_iff_finished ha rfl hj).2
  rw [hbuffer] at hiff
  exact ⟨ha, rfl, hj, hiff⟩

/-- The first semicolon in the body of a trigger has the trigger run without its end. -/
theorem trigger_handed_on :
    let s := plainSession
    let st := s.start { database := () }
    let head : Text := "CREATE TRIGGER tr AFTER INSERT ON a BEGIN"
    let line : Text := "UPDATE b SET x = 1;"
    let sql := textOf [head, line]
    let before : List Act := [.arrive (.line head), .hold head, .keep [], .arrive (.line line)]
    let a : Act := .run .unasked line sql
    acts s [.input (.line head), .input (.line line)] st = before ++ a :: [.keep []] ∧
    a.taken? = some line ∧ Joins s (afterActs s st before) line ∧
    (afterActs s st before).buffer = [head] ∧ HandsOn a line sql ∧ isFinished sql = false := by
  intro s st head line sql before a
  have hm : s.mustAsk sql = false := by
    have hd : isDestructive sql = false := by decide +kernel
    rw [Session.mustAsk, hd, Bool.and_false]
  obtain ⟨ha, hbuffer, hj⟩ := acts_two_lines head line (attentive_start s _) rfl
    (by decide +kernel) (by decide +kernel) (by decide +kernel) (by decide +kernel) hm
  have hopen : isFinished sql = false := by decide +kernel
  exact ⟨ha, rfl, hj, hbuffer, .inr (.inr rfl), hopen⟩

end SqlShell.Proofs
