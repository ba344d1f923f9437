import SqlShell.Proofs.LexemeKinds
import SqlShell.Proofs.Splitting

namespace SqlShell.Proofs
open Statement (Progress)

/-- Tokens without BEGIN in which CASE and END nest: each END closes the nearest CASE before it that
is still open, and in the end none is open. -/
inductive CasesNest : List Token → Prop
  | nil : CasesNest []
  | other {t : Token} {ts : List Token} (hb : t.isKeyword .BEGIN = false)
      (hc : t.isKeyword .CASE = false) (he : t.isKeyword .END = false) (h : CasesNest ts) :
      CasesNest (t :: ts)
  | block {c e : Token} {inner ts : List Token} (hc : c.isKeyword .CASE = true)
      (hin : CasesNest inner) (he : e.isKeyword .END = true) (h : CasesNest ts) :
      CasesNest (c :: (inner ++ e :: ts))

/-- The tokens of a statement that creates a trigger, up to the body. CASE and END may stand in
them in any way. -/
structure TriggerHead (ts : List Token) : Prop where
  create : (ts.find? (·.isSignificant)).any (·.isKeyword .CREATE) = true
  trigger : ∃ t ∈ ts, t.isKeyword .TRIGGER = true
  unmarked : ∀ t ∈ ts, t.isMark ';' = false
  bodiless : ∀ t ∈ ts.dropWhile (fun t => !t.isKeyword .TRIGGER), t.isKeyword .BEGIN = false

/-- A BEGIN and its END with the body between them. -/
structure TriggerBody (b : Token) (body : List Token) (e : Token) : Prop where
  begins : b.isKeyword .BEGIN = true
  nests : CasesNest body
  ends : e.isKeyword .END = true

theorem progress_cons (p : Progress) (t : Token) (ts : List Token) :
    progress p (t :: ts) = progress (p.read t) ts := rfl

theorem progress_append (p : Progress) (ts us : List Token) :
    progress p (ts ++ us) = progress (progress p ts) us := List.foldl_append

theorem StaysOpen.append {p : Progress} {ts us : List Token} (h : StaysOpen p ts)
    (h' : StaysOpen (progress p ts) us) : StaysOpen p (ts ++ us) := by
  induction ts generalizing p with
  | nil => exact h'
  | cons t ts ih => exact ⟨h.1, ih h.2 h'⟩

theorem read_insignificant {p : Progress} {t : Token} (h : t.isSignificant = false) :
    p.read t = p := by
  rw [Progress.read, h]
  rfl

theorem progress_insignificant {p : Progress} {ts : List Token}
    (h : ∀ t ∈ ts, t.isSignificant = false) : progress p ts = p := by
  induction ts with
  | nil => rfl
  | cons t ts ih =>
    rw [progress_cons, read_insignificant (h t List.mem_cons_self)]
    exact ih fun u hu => h u (List.mem_cons_of_mem _ hu)

/-- A statement that begins with CREATE, before any TRIGGER. -/
def creating : Progress := ⟨some true, false, 0⟩

/-- A statement that creates a trigger, with so many blocks open. -/
def inTrigger (depth : Nat) : Progress := ⟨some true, true, depth⟩

section
variable {t : Token} {depth : Nat}

theorem creating_read (h : t.isKeyword .TRIGGER = false) : creating.read t = creating := by
  rw [Progress.read, h]
  exact ite_self _

/-- TRIGGER opens no block itself. -/
theorem creating_trigger (h : t.isKeyword .TRIGGER = true) : creating.read t = inTrigger 0 := by
  simp [Progress.read, Progress.count, creating, inTrigger, significant_of_isKeyword h, h,
    isKeyword_unique h]

theorem inTrigger_read (hb : t.isKeyword .BEGIN = false) (hc : t.isKeyword .CASE = false)
    (he : t.isKeyword .END = false) : (inTrigger depth).read t = inTrigger depth := by
  simp [Progress.read, Progress.count, inTrigger, hb, hc, he]

/-- Outside of the body neither CASE nor END counts. -/
theorem inTrigger_outside (hb : t.isKeyword .BEGIN = false) :
    (inTrigger 0).read t = inTrigger 0 := by
  simp [Progress.read, Progress.count, inTrigger, hb]

theorem inTrigger_begin (h : t.isKeyword .BEGIN = true) :
    (inTrigger depth).read t = inTrigger (depth + 1) := by
  simp [Progress.read, Progress.count, inTrigger, significant_of_isKeyword h, h]

theorem inTrigger_case (h : t.isKeyword .CASE = true) :
    (inTrigger (depth + 1)).read t = inTrigger (depth + 2) := by
  simp [Progress.read, Progress.count, inTrigger, significant_of_isKeyword h, h]

theorem inTrigger_end (h : t.isKeyword .END = true) :
    (inTrigger (depth + 1)).read t = inTrigger depth := by
  simp [Progress.read, Progress.count, inTrigger, significant_of_isKeyword h, h,
    isKeyword_unique h]

/-- In a block no semicolon ends the statement. -/
theorem inTrigger_endsAt : (inTrigger (depth + 1)).endsAt t = false := Bool.and_false _

end

theorem progress_outside {ts : List Token} (h : ∀ t ∈ ts, t.isKeyword .BEGIN = false) :
    progress (inTrigger 0) ts = inTrigger 0 := by
  induction ts with
  | nil => rfl
  | cons t ts ih =>
    rw [progress_cons, inTrigger_outside (h t List.mem_cons_self)]
    exact ih fun u hu => h u (List.mem_cons_of_mem _ hu)

theorem progress_creating {ts : List Token} (ht : ∃ t ∈ ts, t.isKeyword .TRIGGER = true)
    (hb : ∀ t ∈ ts.dropWhile (fun t => !t.isKeyword .TRIGGER), t.isKeyword .BEGIN = false) :
    progress creating ts = inTrigger 0 := by
  induction ts with
  | nil => simp at ht
  | cons t ts ih =>
    cases hk : t.isKeyword .TRIGGER with
    | true =>
      rw [List.dropWhile_cons_of_neg (by simp [hk])] at hb
      rw [progress_cons, creating_trigger hk]
      exact progress_outside fun u hu => hb u (List.mem_cons_of_mem _ hu)
    | false =>
      rw [List.dropWhile_cons_of_pos (by simp [hk])] at hb
      rw [progress_cons, creating_read hk]
      exact ih (by simpa [hk] using ht) hb

/-- Up to the body a statement that creates a trigger opens no block. -/
theorem TriggerHead.progress {ts : List Token} (h : TriggerHead ts) :
    progress {} ts = inTrigger 0 := by
  obtain ⟨hcreate, htrigger, -, hbodiless⟩ := h
  cases hc : ts.find? (·.isSignificant) with
  | none => simp [hc] at hcreate
  | some c =>
    rw [hc, Option.any_some] at hcreate
    obtain ⟨hs, blanks, rest, rfl, hblanks⟩ := List.find?_eq_some_iff_append.mp hc
    have hnone : c.isKeyword .TRIGGER = false := isKeyword_unique hcreate (by decide)
    have hblank : ∀ t ∈ blanks, t.isSignificant = false ∧ t.isKeyword .TRIGGER = false := by
      intro t ht
      have hi : t.isSignificant = false := by simpa using hblanks t ht
      refine ⟨hi, Bool.eq_false_iff.mpr fun hk => ?_⟩
      rw [significant_of_isKeyword hk] at hi
      contradiction
    have hread : Progress.read {} c = creating := by
      simp [Progress.read, creating, hs, hcreate, hnone]
    rw [List.dropWhile_append_of_pos (fun t ht => by simp [hblank t ht]),
      List.dropWhile_cons_of_pos (by simp [hnone])] at hbodiless
    rw [progress_append, progress_insignificant fun t ht => (hblank t ht).1,
      progress_cons, hread]
    refine progress_creating ?_ hbodiless
    obtain ⟨t, ht, hk⟩ := htrigger
    rcases List.mem_append.mp ht with ht | ht
    · rw [(hblank t ht).2] at hk
      contradiction
    · rcases List.mem_cons.mp ht with rfl | ht
      · rw [hnone] at hk
        contradiction
      · exact ⟨t, ht, hk⟩

/-- Nested blocks leave a block as it was, and no semicolon in them ends the statement. -/
theorem CasesNest.inside {ts : List Token} (h : CasesNest ts) (depth : Nat) :
    StaysOpen (inTrigger (depth + 1)) ts ∧
      progress (inTrigger (depth + 1)) ts = inTrigger (depth + 1) := by
  induction h generalizing depth with
  | nil => exact ⟨trivial, rfl⟩
  | @other t ts hb hc he _ ih =>
    have hread : (inTrigger (depth + 1)).read t = inTrigger (depth + 1) :=
      inTrigger_read hb hc he
    refine ⟨⟨inTrigger_endsAt, ?_⟩, ?_⟩
    · rw [hread]
      exact (ih depth).1
    · rw [progress_cons, hread]
      exact (ih depth).2
  | @block c e inner ts hc _ he _ hin hmore =>
    have hopen : (inTrigger (depth + 1)).read c = inTrigger (depth + 2) := inTrigger_case hc
    have hclose : (inTrigger (depth + 2)).read e = inTrigger (depth + 1) := inTrigger_end he
    refine ⟨⟨inTrigger_endsAt, ?_⟩, ?_⟩
    · rw [hopen]
      refine (hin (depth + 1)).1.append ?_
      rw [(hin (depth + 1)).2]
      refine ⟨inTrigger_endsAt, ?_⟩
      rw [hclose]
      exact (hmore depth).1
    · rw [progress_cons, hopen, progress_append, (hin (depth + 1)).2, progress_cons, hclose]
      exact (hmore depth).2

/-- Behind the semicolon that ends its first statement a text is split as it is alone. -/
theorem statements_ended {sql : Text} {own rest : List Token} {s : Token}
    (hs : tokenize sql = own ++ s :: rest) (ho : StaysOpen {} own)
    (he : (progress {} own).endsAt s = true) :
    (⟨0, own, true⟩ : Statement).stop = s.stop ∧
      statements sql =
        ⟨0, own, true⟩ :: (statements (sql.drop s.stop)).map (shiftStatement s.stop) := by
  have hplaced : Placed 0 (own ++ s :: rest) := hs ▸ placed_tokenize sql
  obtain ⟨hstop, -⟩ := hplaced.behind (text_of_mark (mark_of_endsAt he))
  rw [← stop_ended] at hstop
  have hcut : tokenize sql = (own ++ [s]) ++ rest := by rw [hs, List.append_cons]
  have hlength : (written (own ++ [s])).length = s.stop := by
    rw [length_behind (text_of_mark (mark_of_endsAt he)), hstop, stop_ended, Nat.zero_add]
    rfl
  have hbehind : written rest = sql.drop s.stop := by
    have hsplit : written (own ++ [s]) ++ written rest = sql := by
      rw [← written_append, ← hcut, written_tokenize]
    rw [← hsplit, ← hlength, List.drop_left]
  have hrest : (tokenize (sql.drop s.stop)).map (Token.shift s.stop) = rest := by
    have hread := (tokenize_cut hcut).2
    rwa [hlength, hbehind] at hread
  refine ⟨hstop.symm, ?_⟩
  rw [statements_eq, statements_eq, ← splitAll_shift, hrest, Nat.zero_add, hs, splitAll,
    splitFrom_ended 0 ho he]
  rfl

/-- A statement that creates a trigger goes up to the semicolon behind the body, and what is written
behind that is split as it is alone. -/
theorem trigger_is_one_statement {sql : Text} {head body gap rest : List Token} {b e s : Token}
    (hs : tokenize sql = head ++ b :: (body ++ e :: (gap ++ s :: rest))) (hh : TriggerHead head)
    (hb : TriggerBody b body e) (hg : ∀ t ∈ gap, t.isSignificant = false)
    (hm : s.isMark ';' = true) :
    let first : Statement := ⟨0, head ++ b :: (body ++ e :: gap), true⟩
    first.stop = s.stop ∧
      statements sql = first :: (statements (sql.drop s.stop)).map (shiftStatement s.stop) := by
  intro first
  have hbegin : (inTrigger 0).read b = inTrigger 1 := inTrigger_begin hb.begins
  have hend : (inTrigger 1).read e = inTrigger 0 := inTrigger_end hb.ends
  obtain ⟨hbody, hafter⟩ := hb.nests.inside 0
  have hgap : StaysOpen (inTrigger 0) gap :=
    staysOpen_of_unmarked fun t ht => unmarked_of_insignificant (hg t ht) ';'
  have hopen : StaysOpen {} first.tokens := by
    refine (staysOpen_of_unmarked hh.unmarked).append ?_
    rw [hh.progress]
    refine ⟨?_, ?_⟩
    · rw [Progress.endsAt, unmarked_of_isKeyword hb.begins]
      rfl
    · rw [hbegin]
      refine hbody.append ?_
      rw [hafter]
      exact ⟨inTrigger_endsAt, hend ▸ hgap⟩
  have hended : (progress {} first.tokens).endsAt s = true := by
    rw [progress_append, hh.progress, progress_cons, hbegin, progress_append, hafter,
      progress_cons, hend, progress_insignificant hg, Progress.endsAt, hm]
    rfl
  have htokens : tokenize sql = first.tokens ++ s :: rest := by
    rw [hs]
    simp [first]
  exact statements_ended htokens hopen hended

/-- Neither the END of the CASE nor the semicolon behind it ends the body. -/
theorem trigger_with_case :
    let sql : Text := "CREATE TRIGGER t AFTER INSERT ON a BEGIN SELECT CASE 1 END; END ; SELECT 3"
    let head := placeFrom 0 (lexemes "CREATE TRIGGER t AFTER INSERT ON a ")
    let b : Token := ⟨⟨.keyword .BEGIN, "BEGIN"⟩, 35⟩
    let body := placeFrom 40 (lexemes " SELECT CASE 1 END; ")
    let e : Token := ⟨⟨.keyword .END, "END"⟩, 60⟩
    let gap := placeFrom 63 (lexemes " ")
    let s : Token := ⟨semicolon, 64⟩
    let rest := placeFrom 65 (lexemes " SELECT 3")
    tokenize sql = head ++ b :: (body ++ e :: (gap ++ s :: rest)) ∧ TriggerHead head ∧
    TriggerBody b body e ∧ (∀ t ∈ gap, t.isSignificant = false) ∧ s.isMark ';' = true ∧
    let first : Statement := ⟨0, head ++ b :: (body ++ e :: gap), true⟩
    first.stop = s.stop ∧
      statements sql = first :: (statements (sql.drop s.stop)).map (shiftStatement s.stop) := by
  intro sql head b body e gap s rest
  have htext : tokenize sql = head ++ b :: (body ++ e :: (gap ++ s :: rest)) ∧
      (head.find? (·.isSignificant)).any (·.isKeyword .CREATE) = true ∧
      (∃ t ∈ head, t.isKeyword .TRIGGER = true) ∧ (∀ t ∈ head, t.isMark ';' = false) ∧
      (∀ t ∈ head.dropWhile (fun t => !t.isKeyword .TRIGGER), t.isKeyword .BEGIN = false) ∧
      ∀ t ∈ gap, t.isSignificant = false := by decide +kernel
  obtain ⟨hs, hcreate, htrigger, hunmarked, hbodiless, hg⟩ := htext
  have hh : TriggerHead head := ⟨hcreate, htrigger, hunmarked, hbodiless⟩
  have hnests : CasesNest body := by
    have hbody : body = [⟨⟨.whitespace, " "⟩, 40⟩, ⟨⟨.keyword .SELECT, "SELECT"⟩, 41⟩,
        ⟨⟨.whitespace, " "⟩, 47⟩] ++ ⟨⟨.keyword .CASE, "CASE"⟩, 48⟩ ::
        ([⟨⟨.whitespace, " "⟩, 52⟩, ⟨⟨.number, "1"⟩, 53⟩, ⟨⟨.whitespace, " "⟩, 54⟩] ++
          ⟨⟨.keyword .END, "END"⟩, 55⟩ :: [⟨semicolon, 58⟩, ⟨⟨.whitespace, " "⟩, 59⟩]) := by
      decide +kernel
    have hinner : CasesNest
        [⟨⟨.whitespace, " "⟩, 52⟩, ⟨⟨.number, "1"⟩, 53⟩, ⟨⟨.whitespace, " "⟩, 54⟩] :=
      .other rfl rfl rfl (.other rfl rfl rfl (.other rfl rfl rfl .nil))
    rw [hbody]
    refine .other rfl rfl rfl (.other rfl rfl rfl (.other rfl rfl rfl ?_))
    exact .block rfl hinner rfl (.other rfl rfl rfl (.other rfl rfl rfl .nil))
  have hb : TriggerBody b body e := ⟨rfl, hnests, rfl⟩
  have hm : s.isMark ';' = true := by decide
  exact ⟨hs, hh, hb, hg, hm, trigger_is_one_statement hs hh hb hg hm⟩

end SqlShell.Proofs
