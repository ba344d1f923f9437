import Mathlib.Data.List.TakeWhile
import SqlShell.Proofs.Locality

namespace SqlShell.Proofs

/-- Tokens that hold something, each behind those before it. -/
structure Ordered (ts : List Token) : Prop where
  apart : ts.Pairwise (fun t u => t.stop ≤ u.start)
  filled : ∀ t ∈ ts, t.start < t.stop

theorem Ordered.sublist {ts us : List Token} (h : Ordered us) (hsub : ts.Sublist us) :
    Ordered ts :=
  ⟨h.apart.sublist hsub, fun t ht => h.filled t (hsub.subset ht)⟩

theorem start_of_placed {n : Nat} {ls : List Lexeme} {t : Token} (ht : t ∈ placeFrom n ls) :
    n ≤ t.start := by
  induction ls generalizing n with
  | nil => simp [placeFrom] at ht
  | cons l ls ih =>
    rw [placeFrom] at ht
    rcases List.mem_cons.mp ht with rfl | ht
    · exact Nat.le_refl _
    · exact Nat.le_trans (Nat.le_add_right _ _) (ih ht)

theorem pairwise_placeFrom (n : Nat) (ls : List Lexeme) :
    (placeFrom n ls).Pairwise (fun t u => t.stop ≤ u.start) := by
  induction ls generalizing n with
  | nil => exact List.Pairwise.nil
  | cons l ls ih => exact List.pairwise_cons.mpr ⟨fun u hu => start_of_placed hu, ih _⟩

theorem ordered_tokenize (sql : Text) : Ordered (tokenize sql) := by
  refine ⟨pairwise_placeFrom 0 _, fun t ht => ?_⟩
  have hne := lexeme_nonempty _ (toLexeme_mem ht)
  have hpos := List.length_pos_iff.mpr hne
  rw [Token.stop]
  omega

theorem Split.part (h : Split start ts ss) (hm : s ∈ ss) : s.tokens <:+: ts := by
  induction h with
  | last h =>
    obtain rfl := List.mem_singleton.mp hm
    exact List.infix_rfl
  | @cons body t more ss start h ht _ ih =>
    rcases List.mem_cons.mp hm with rfl | hm
    · exact (List.prefix_append body (t :: more)).isInfix
    · exact (ih hm).trans ((List.suffix_cons t more).isInfix.trans
        (List.suffix_append body (t :: more)).isInfix)

theorem Ordered.compare {ts : List Token} (h : Ordered ts) {i j : Nat} {t u : Token}
    (ht : ts[i]? = some t) (hu : ts[j]? = some u) :
    j < i ∧ u.stop ≤ t.start ∨ j = i ∧ u = t ∨ i < j ∧ t.stop ≤ u.start := by
  obtain ⟨hi, rfl⟩ := List.getElem?_eq_some_iff.mp ht
  obtain ⟨hj, rfl⟩ := List.getElem?_eq_some_iff.mp hu
  have hpairs := List.pairwise_iff_getElem.mp h.apart
  rcases Nat.lt_trichotomy j i with hlt | rfl | hgt
  · exact .inl ⟨hlt, hpairs j i hj hi hlt⟩
  · exact .inr (.inl ⟨rfl, rfl⟩)
  · exact .inr (.inr ⟨hgt, hpairs i j hi hj hgt⟩)

theorem Ordered.start_lt {ts : List Token} (h : Ordered ts) {i : Nat} {t : Token}
    (ht : ts[i]? = some t) : t.start < t.stop :=
  h.filled t (List.mem_of_getElem? ht)

/-- The token that holds a cursor is the one at it. -/
theorem Ordered.atCursor {ts : List Token} (h : Ordered ts) {t : Token} {cursor : Int}
    (ht : t ∈ ts) (hlow : t.start < cursor) (hhigh : cursor ≤ t.stop) :
    Token.atCursor? ts cursor = some t := by
  obtain ⟨before, after, rfl⟩ := List.append_of_mem ht
  obtain ⟨-, hrest, hcross⟩ := List.pairwise_append.mp h.apart
  have hbefore : ∀ u ∈ before, u.stop ≤ t.start := fun u hu => hcross u hu t List.mem_cons_self
  have hafter : ∀ u ∈ after, t.stop ≤ u.start := (List.pairwise_cons.mp hrest).1
  have htaken : (before ++ t :: after).takeWhile (fun u => u.start < cursor) = before ++ [t] := by
    rw [List.takeWhile_append_of_pos, List.takeWhile_cons_of_pos (by simpa using hlow)]
    · cases after with
      | nil => rfl
      | cons u after =>
        have hu := hafter u List.mem_cons_self
        rw [List.takeWhile_cons_of_neg]
        simp only [decide_eq_true_eq]
        omega
    · intro u hu
      have hfilled := h.filled u (List.mem_append_left _ hu)
      have hstop := hbefore u hu
      simp only [decide_eq_true_eq]
      omega
  have hdropped : before.filter (fun u => cursor ≤ u.stop) = [] := by
    rw [List.filter_eq_nil_iff]
    intro u hu
    have hstop := hbefore u hu
    simp only [decide_eq_true_eq]
    omega
  rw [Token.atCursor?, htaken, List.filter_append, hdropped, List.nil_append,
    List.filter_cons_of_pos (by simpa using hhigh)]
  rfl

theorem atCursor_some {ts : List Token} {t : Token} {cursor : Int}
    (h : Token.atCursor? ts cursor = some t) : t ∈ ts ∧ t.start < cursor ∧ cursor ≤ t.stop := by
  rw [Token.atCursor?] at h
  have hm := List.mem_of_getLast? h
  obtain ⟨htaken, hstop⟩ := List.mem_filter.mp hm
  have hstart := List.mem_takeWhile_imp htaken
  simp only [decide_eq_true_eq] at hstop hstart
  exact ⟨(List.takeWhile_sublist _).subset htaken, hstart, hstop⟩

theorem filter_eq_take {p : Token → Bool} {ts : List Token} {n : Nat}
    (h : ∀ i t, ts[i]? = some t → (p t = true ↔ i < n)) : ts.filter p = ts.take n := by
  induction ts generalizing n with
  | nil => simp
  | cons t ts ih =>
    have hfirst := h 0 t rfl
    cases n with
    | zero =>
      have hrest : ts.filter p = ts.take 0 := ih fun i u hu => by simpa using h (i + 1) u hu
      rw [List.filter_cons_of_neg (by simpa using hfirst), hrest]
      rfl
    | succ n =>
      have hrest : ts.filter p = ts.take n := ih fun i u hu => by simpa using h (i + 1) u hu
      rw [List.filter_cons_of_pos (hfirst.mpr (Nat.succ_pos n)), hrest]
      rfl

theorem find?_eq_getElem? {p : Token → Bool} {ts : List Token} {n : Nat}
    (h : ∀ i t, ts[i]? = some t → (p t = true ↔ n ≤ i)) : ts.find? p = ts[n]? := by
  induction ts generalizing n with
  | nil => rfl
  | cons t ts ih =>
    have hfirst := h 0 t rfl
    cases n with
    | zero => rw [List.find?_cons_of_pos (hfirst.mpr (Nat.le_refl 0))]; rfl
    | succ n =>
      have hrest : ts.find? p = ts[n]? := ih fun i u hu => by simpa using h (i + 1) u hu
      rw [List.find?_cons_of_neg (by simpa using hfirst), hrest]
      rfl

/-- What a token is, its text alone tells. -/
theorem lexemes_of_text {sql : Text} {l : Lexeme} (hl : l ∈ lexemes sql) :
    lexemes l.text = [l] := by
  obtain ⟨before, after, hs⟩ := List.append_of_mem hl
  obtain ⟨-, hrest⟩ := lexemes_cut hs
  have hown : lexemes (spell [l]) = [l] := (lexemes_cut hrest).1
  rwa [spell_cons, spell_nil, List.append_nil] at hown

theorem lexeme_eq {sql sql' : Text} {l l' : Lexeme} (hl : l ∈ lexemes sql)
    (hl' : l' ∈ lexemes sql') (h : l.text = l'.text) : l = l' := by
  have hown := lexemes_of_text hl
  rw [h, lexemes_of_text hl'] at hown
  exact (List.cons.inj hown).1.symm

/-- For each token but the last whether it touches the next one. -/
def touches (ts : List Token) : List Bool :=
  List.zipWith (fun t u => decide (t.stop = u.start)) ts ts.tail

/-- The significant tokens agree one by one, and their neighbours in whether they touch. -/
structure SameTokens (s s' : Statement) : Prop where
  texts : s.significant.map (·.text) = s'.significant.map (·.text)
  touching : touches s.significant = touches s'.significant

theorem touches_eq {ts us : List Token} (h : touches ts = touches us) {i : Nat}
    {t t' u u' : Token} (ht : ts[i]? = some t) (ht' : ts[i + 1]? = some t') (hu : us[i]? = some u)
    (hu' : us[i + 1]? = some u') : t.stop = t'.start ↔ u.stop = u'.start := by
  have hi := congrArg (·[i]?) h
  simpa [touches, List.getElem?_zipWith, List.getElem?_tail, ht, ht', hu, hu'] using hi

theorem lexeme_of_statement {sql : Text} {s : Statement} {t : Token} (hs : s ∈ statements sql)
    (ht : t ∈ s.significant) : t.toLexeme ∈ lexemes sql :=
  toLexeme_mem (((split_statements sql).part hs).subset (List.mem_filter.mp ht).1)

theorem lexemes_eq {sql sql' : Text} {ts us : List Token}
    (ht : ∀ t ∈ ts, t.toLexeme ∈ lexemes sql) (hu : ∀ u ∈ us, u.toLexeme ∈ lexemes sql')
    (h : ts.map (·.text) = us.map (·.text)) :
    ts.map Token.toLexeme = us.map Token.toLexeme := by
  induction ts generalizing us with
  | nil => rw [List.map_eq_nil_iff.mp h.symm]
  | cons t ts ih =>
    cases us with
    | nil => simp at h
    | cons u us =>
      obtain ⟨hfirst, hrest⟩ := List.cons.inj h
      have hsame := lexeme_eq (ht t List.mem_cons_self) (hu u List.mem_cons_self) hfirst
      have hmore := ih (fun t hm => ht t (List.mem_cons_of_mem _ hm))
        (fun u hm => hu u (List.mem_cons_of_mem _ hm)) hrest
      rw [List.map_cons, List.map_cons, hsame, hmore]

/-- Takes a token to the front of its text. -/
def unplace (t : Token) : Token := { t with start := 0 }

theorem moves_unplace : Moves unplace := fun _ => rfl

/-- What is told by lexemes and not by places is the same for tokens with the same lexemes. -/
theorem same_of_moves {f : List Token → α} (hf : ∀ ts, f (ts.map unplace) = f ts)
    {ts us : List Token} (h : ts.map Token.toLexeme = us.map Token.toLexeme) : f ts = f us := by
  have hplace (ts : List Token) :
      ts.map unplace = (ts.map Token.toLexeme).map (fun l => ⟨l, 0⟩) := by
    rw [List.map_map]
    rfl
  rw [← hf ts, ← hf us, hplace, hplace, h]

theorem kind_of_significant (s : Statement) :
    s.kind = (Statement.mk 0 s.significant false).kind := by
  have hsame : (Statement.mk 0 s.significant false).significant = s.significant :=
    List.filter_filter.trans (by simp [Statement.significant, Token.significant])
  rw [Statement.kind, Statement.kind, leading_eq, leading_eq, hsame]

/-- What is typed at the cursor belongs to a comment. At its end it does where only the end of the
line or of the text ends the comment. -/
def InComment (s : Statement) (cursor : Int) : Prop :=
  ∃ t ∈ s.tokens, IsComment t.kind ∧ t.start < cursor ∧
    (cursor < t.stop ∨ cursor = t.stop ∧ t.kind ≠ .blockComment true)

/-- A place among significant tokens. -/
inductive Spot where
  /-- In a token or at its end, so many units behind its start. -/
  | within (index offset : Nat)
  /-- Behind so many tokens and not behind the start of the next one. -/
  | behind (count : Nat)

/-- The cursor stands at this place. -/
def Spot.At (s : Statement) (cursor : Int) : Spot → Prop
  | within i k => ∃ t, s.significant[i]? = some t ∧ 0 < k ∧ k ≤ t.text.length ∧
      cursor = t.start + k
  | behind n => ¬ InComment s cursor ∧ (∀ u, s.significant[n]? = some u → cursor ≤ u.start) ∧
      ∀ i, n = i + 1 → ∃ t, s.significant[i]? = some t ∧ t.stop < cursor

/-- How the significant tokens lie about the word at the cursor. -/
structure Lies (ts : List Token) (start after : Int) (n m : Nat) (adjacent : Prop) : Prop where
  enough : n ≤ ts.length
  before : ts.filter (fun t => (t.stop : Int) ≤ start) = ts.take n
  next : ts.find? (fun t => after ≤ (t.start : Int)) = ts[m]?
  adjacent : ∀ i t, n = i + 1 → ts[i]? = some t → ((t.stop : Int) = start ↔ adjacent)

section
variable {ts : List Token} {t : Token} {i : Nat} (h : Ordered ts) (ht : ts[i]? = some t)
include h ht

/-- The tokens that end up to a place in the token at `i`, or up to its end. -/
theorem filter_upto {x : Int} (hlow : t.start ≤ x) (hhigh : x ≤ t.stop) :
    ts.filter (fun u => (u.stop : Int) ≤ x) = ts.take (if x = t.stop then i + 1 else i) := by
  refine filter_eq_take fun j u hu => ?_
  have hheld := h.start_lt hu
  rw [decide_eq_true_eq]
  rcases h.compare ht hu with hleft | ⟨rfl, rfl⟩ | hright
  · split <;> omega
  · split <;> omega
  · split <;> omega

theorem find_from {x : Int} (hlow : t.start < x) (hhigh : x ≤ t.stop) :
    ts.find? (fun u => x ≤ (u.start : Int)) = ts[i + 1]? := by
  refine find?_eq_getElem? fun j u hu => ?_
  have hheld := h.start_lt hu
  rw [decide_eq_true_eq]
  rcases h.compare ht hu with hleft | ⟨rfl, rfl⟩ | hright
  · omega
  · omega
  · omega

theorem lies_at_word :
    Lies ts t.start t.stop i (i + 1) ((touches ts)[i - 1]? = some true) := by
  have hfilled := h.start_lt ht
  obtain ⟨hi, -⟩ := List.getElem?_eq_some_iff.mp ht
  refine ⟨Nat.le_of_lt hi, ?_, find_from h ht (by omega) (Int.le_refl _), ?_⟩
  · rw [filter_upto h ht (Int.le_refl _) (by omega), if_neg (by omega)]
  · rintro j u rfl hu
    have htouch : (touches ts)[j]? = some (decide (u.stop = t.start)) := by
      simp [touches, List.getElem?_zipWith, List.getElem?_tail, hu, ht]
    rw [Nat.add_sub_cancel, htouch, Option.some_inj, decide_eq_true_eq]
    omega

theorem lies_at_mark {k : Nat} (hk : 0 < k) (hl : k ≤ t.text.length) :
    Lies ts (t.start + k) (t.start + k) (if k = t.text.length then i + 1 else i) (i + 1)
      (k = t.text.length) := by
  have hstop : t.stop = t.start + t.text.length := rfl
  have hend : ((t.start + k : Int) = t.stop) = (k = t.text.length) := propext (by omega)
  have hbefore := filter_upto (x := t.start + k) h ht (by omega) (by omega)
  simp only [hend] at hbefore
  obtain ⟨hi, -⟩ := List.getElem?_eq_some_iff.mp ht
  refine ⟨?_, hbefore, find_from h ht (by omega) (by omega), fun j u hj hu => ?_⟩
  · split <;> omega
  · rcases h.compare ht hu with hleft | ⟨rfl, rfl⟩ | hright
    · split at hj <;> omega
    · omega
    · split at hj <;> omega

end

section
variable {ts : List Token} {cursor : Int} {n : Nat} (h : Ordered ts)
  (hafter : ∀ u, ts[n]? = some u → cursor ≤ u.start)
  (hbefore : ∀ i, n = i + 1 → ∃ t, ts[i]? = some t ∧ t.stop < cursor)
include h hafter hbefore

theorem side_of_behind {i : Nat} {u : Token} (hu : ts[i]? = some u) :
    i < n ∧ u.stop < cursor ∨ n ≤ i ∧ cursor ≤ u.start := by
  rcases Nat.lt_or_ge i n with hlt | hle
  · obtain ⟨t, ht, hstop⟩ := hbefore (n - 1) (by omega)
    have hfilled := h.start_lt ht
    rcases h.compare ht hu with hleft | ⟨rfl, rfl⟩ | hright
    · omega
    · omega
    · omega
  · obtain ⟨hi, -⟩ := List.getElem?_eq_some_iff.mp hu
    have ht : ts[n]? = some ts[n] := List.getElem?_eq_getElem (Nat.lt_of_le_of_lt hle hi)
    have hstart := hafter _ ht
    have hfilled := h.start_lt ht
    rcases h.compare ht hu with hleft | ⟨rfl, he⟩ | hright
    · omega
    · exact .inr ⟨hle, he ▸ hstart⟩
    · omega

theorem lies_behind : Lies ts cursor cursor n n False := by
  refine ⟨?_, filter_eq_take fun j u hu => ?_, find?_eq_getElem? fun j u hu => ?_, ?_⟩
  · cases n with
    | zero => exact Nat.zero_le _
    | succ i =>
      obtain ⟨t, ht, -⟩ := hbefore i rfl
      exact (List.getElem?_eq_some_iff.mp ht).1
  · have hheld := h.start_lt hu
    have hside := side_of_behind h hafter hbefore hu
    rw [decide_eq_true_eq]
    omega
  · have hheld := h.start_lt hu
    have hside := side_of_behind h hafter hbefore hu
    rw [decide_eq_true_eq]
    omega
  · intro j u hj hu
    have hside := side_of_behind h hafter hbefore hu
    exact iff_of_false (by omega) id

end

/-- Two contexts in which the same is offered for the same typed word. -/
structure Alike (c d : Context) : Prop where
  suggestions : c.suggestions = d.suggestions
  kind : c.kind = d.kind
  qualifier : c.qualifier = d.qualifier
  statementKind : c.statementKind = d.statementKind
  word : c.word.text = d.word.text

theorem Alike.of_fields {c d : Context} (hp : c.primary = d.primary) (ho : c.others = d.others)
    (hq : c.qualifier = d.qualifier) (hs : c.statementKind = d.statementKind)
    (hw : c.word.text = d.word.text) : Alike c d :=
  ⟨by rw [Context.suggestions, Context.suggestions, hp, ho],
    by rw [Context.kind, Context.kind, hp], hq, hs, hw⟩

section
variable {s s' : Statement}
  (hl : s.significant.map Token.toLexeme = s'.significant.map Token.toLexeme)
include hl

theorem tableRefs_same : s.tableRefs = s'.tableRefs :=
  same_of_moves (f := TableRef.collect none 0) (collect_move moves_unplace none 0) hl

theorem kind_same : s.kind = s'.kind := by
  rw [kind_of_significant s, kind_of_significant s']
  refine same_of_moves (f := fun ts => (Statement.mk 0 ts false).kind) (fun ts => ?_) hl
  exact kind_move moves_unplace (significant_move moves_unplace ts)

end

theorem reverse_take (ts : List Token) {n : Nat} (hn : n + 2 ≤ ts.length) :
    (ts.take (n + 2)).reverse = ts[n + 1] :: ts[n] :: (ts.take n).reverse := by
  have hlast : ts[n + 1]? = some ts[n + 1] := List.getElem?_eq_getElem hn
  have hprev : ts[n]? = some ts[n] := List.getElem?_eq_getElem _
  rw [List.take_add_one, List.take_add_one, hlast, hprev]
  simp

theorem qualifier_few {n : Nat} (start : Int) (ts : List Token) (hn : n < 2) :
    Context.qualifier? start (ts.take n).reverse = none := by
  match n, ts with
  | 0, _ => rfl
  | 1, [] => rfl
  | 1, t :: ts => rfl

section
variable {ts us : List Token} (hl : ts.map Token.toLexeme = us.map Token.toLexeme)
include hl

theorem lexeme_at {i : Nat} {t u : Token} (ht : ts[i]? = some t) (hu : us[i]? = some u) :
    t.toLexeme = u.toLexeme := by
  have hi := congrArg (·[i]?) hl
  simpa [ht, hu] using hi

theorem before_same (n : Nat) :
    (ts.take n).reverse.map Token.toLexeme = (us.take n).reverse.map Token.toLexeme := by
  rw [List.map_reverse, List.map_reverse, List.map_take, List.map_take, hl]

theorem any_same (f : Lexeme → Bool) (i : Nat) :
    ts[i]?.any (fun t => f t.toLexeme) = us[i]?.any (fun t => f t.toLexeme) := by
  have hmap (ts : List Token) :
      ts[i]?.any (fun t => f t.toLexeme) = (ts.map Token.toLexeme)[i]?.any f := by
    rw [List.getElem?_map, Option.any_map]
  rw [hmap, hmap, hl]

/-- A qualifier is read before the one word exactly if it is before the other. -/
theorem qualifier_same {start start' after after' : Int} {n m : Nat} {adjacent : Prop}
    (ht : touches ts = touches us) (hlies : Lies ts start after n m adjacent)
    (hlies' : Lies us start' after' n m adjacent) :
    (∃ q k, Context.qualifier? start (ts.take n).reverse = some (q, (ts.take k).reverse) ∧
      Context.qualifier? start' (us.take n).reverse = some (q, (us.take k).reverse)) ∨
    (Context.qualifier? start (ts.take n).reverse = none ∧
      Context.qualifier? start' (us.take n).reverse = none) := by
  match n with
  | 0 | 1 => exact .inr ⟨qualifier_few _ ts (by omega), qualifier_few _ us (by omega)⟩
  | n + 2 =>
    have hn := hlies.enough
    have hn' := hlies'.enough
    have hdot : ts[n + 1]? = some ts[n + 1] := List.getElem?_eq_getElem hn
    have hdot' : us[n + 1]? = some us[n + 1] := List.getElem?_eq_getElem hn'
    have howner : ts[n]? = some ts[n] := List.getElem?_eq_getElem _
    have howner' : us[n]? = some us[n] := List.getElem?_eq_getElem _
    have hd := lexeme_at hl hdot hdot'
    have ho := lexeme_at hl howner howner'
    have hstart : ((ts[n + 1].stop : Int) = start) = ((us[n + 1].stop : Int) = start') :=
      propext ((hlies.adjacent _ _ rfl hdot).trans (hlies'.adjacent _ _ rfl hdot').symm)
    have htouch : (ts[n].stop = ts[n + 1].start) = (us[n].stop = us[n + 1].start) :=
      propext (touches_eq ht howner hdot howner' hdot')
    rw [reverse_take ts hn, reverse_take us hn']
    simp only [Context.qualifier?, hd, ho, hstart, htouch]
    split
    · exact .inl ⟨_, n, rfl, rfl⟩
    · exact .inr ⟨rfl, rfl⟩

end

theorem ofWord_alike {s s' : Statement} {token token' : Option Token} {cursor cursor' : Int}
    {n m : Nat} {adjacent : Prop}
    (hl : s.significant.map Token.toLexeme = s'.significant.map Token.toLexeme)
    (ht : touches s.significant = touches s'.significant)
    (hlies : Lies s.significant (Context.partialWord token cursor).start
      (token.elim cursor (fun t => (t.stop : Int))) n m adjacent)
    (hlies' : Lies s'.significant (Context.partialWord token' cursor').start
      (token'.elim cursor' (fun t => (t.stop : Int))) n m adjacent)
    (hw : (Context.partialWord token cursor).text = (Context.partialWord token' cursor').text) :
    Alike (Context.ofWord s token cursor) (Context.ofWord s' token' cursor') := by
  have hnext := any_same hl (·.isMark '(') m
  simp only [Context.ofWord, hlies.before, hlies'.before, hlies.next, hlies'.next]
  rcases qualifier_same hl ht hlies hlies' with ⟨q, k, hq, hq'⟩ | ⟨hq, hq'⟩
  · have hqualified := same_of_moves (f := fun ts => Context.qualified s'.tableRefs ts q)
      (fun ts => qualified_move moves_unplace _ ts q) (before_same hl k)
    rw [hq, hq']
    refine .of_fields ?_ rfl rfl (kind_same hl) hw
    rw [tableRefs_same hl]
    exact hqualified
  · have hunqualified := same_of_moves (f := Context.unqualified s'.tableRefs)
      (unqualified_move moves_unplace _) (before_same hl n)
    rw [hq, hq']
    simp only [tableRefs_same hl, hnext, hunqualified]
    exact .of_fields rfl rfl rfl (kind_same hl) hw

theorem isInsideLiteral_eq {ts : List Token} {t : Token} {cursor : Int} {k : Nat} (h : Ordered ts)
    (ht : t ∈ ts) (hk : 0 < k) (hlen : k ≤ t.text.length) (hc : cursor = t.start + k) :
    Token.isInsideLiteral ts cursor = (t.isLiteralOrComment &&
      (k < t.text.length || t.isUnterminated || t.kind == .lineComment)) := by
  have hstop : t.stop = t.start + t.text.length := rfl
  have hin : (cursor < t.stop) = (k < t.text.length) := propext (by omega)
  rw [Token.isInsideLiteral, h.atCursor ht (by omega) (by omega)]
  simp only [hin]

theorem insignificant_cases {l : Lexeme} (h : l.isSignificant = false) :
    l.isWord = false ∧ (l.isLiteralOrComment = false ∨ IsComment l.kind) := by
  obtain ⟨kind, text⟩ := l
  cases kind with
  | whitespace => exact ⟨rfl, .inl rfl⟩
  | lineComment | blockComment => exact ⟨rfl, .inr trivial⟩
  | _ => exact Bool.noConfusion h

/-- Between significant tokens and outside comments there are blanks at most. -/
theorem blank_of_behind {s : Statement} {cursor : Int} {n : Nat} (h : Ordered s.tokens)
    (hc : (Spot.behind n).At s cursor) :
    Token.isInsideLiteral s.tokens cursor = false ∧
      (Token.atCursor? s.tokens cursor).filter (·.isWord) = none := by
  obtain ⟨hout, hafter, hbefore⟩ := hc
  cases ht : Token.atCursor? s.tokens cursor with
  | none =>
    rw [Token.isInsideLiteral, ht]
    exact ⟨rfl, rfl⟩
  | some t =>
    obtain ⟨hm, hlow, hhigh⟩ := atCursor_some ht
    have hinsignificant : t.isSignificant = false := by
      rw [Bool.eq_false_iff]
      intro hs
      have hin : t ∈ s.significant := List.mem_filter.mpr ⟨hm, hs⟩
      obtain ⟨i, hi⟩ := List.getElem?_of_mem hin
      have hside := side_of_behind (h.sublist List.filter_sublist) hafter hbefore hi
      omega
    have hcomment : IsComment t.kind → cursor = t.stop ∧ t.kind = .blockComment true := by
      intro hk
      by_contra hn
      refine hout ⟨t, hm, hk, hlow, ?_⟩
      rcases Int.lt_or_eq_of_le hhigh with hlt | he
      · exact .inl hlt
      · exact .inr ⟨he, fun hclosed => hn ⟨he, hclosed⟩⟩
    obtain ⟨hword, hkind⟩ := insignificant_cases hinsignificant
    rw [Token.isInsideLiteral, ht, Option.filter_some, hword]
    refine ⟨?_, rfl⟩
    rcases hkind with hblank | hk
    · simp only [hblank, Bool.false_and]
    · obtain ⟨rfl, hclosed⟩ := hcomment hk
      simp [Lexeme.isUnterminated, hclosed]

theorem classify_empty (s : Statement) (cursor : Int) :
    classify s cursor .empty = Context.ofSql s cursor := by
  have hnone : classifySpecial? .empty s cursor = none := by
    unfold classifySpecial?
    dsimp only
    split
    · rfl
    · rfl
  rw [classify, hnone]
  rfl

/-- Blanks and comments change no completion: of two statements with the same significant tokens
the context is the same at cursors that stand at the same place among these. -/
theorem same_context {sql sql' : Text} {s s' : Statement} {c c' : Int} {spot : Spot}
    (hs : s ∈ statements sql) (hs' : s' ∈ statements sql') (hsame : SameTokens s s')
    (hc : spot.At s c) (hc' : spot.At s' c') :
    Alike (classify s c .empty) (classify s' c' .empty) := by
  have ho : Ordered s.tokens := (ordered_tokenize sql).sublist
    ((split_statements sql).part hs).sublist
  have ho' : Ordered s'.tokens := (ordered_tokenize sql').sublist
    ((split_statements sql').part hs').sublist
  have hsig : Ordered s.significant := ho.sublist List.filter_sublist
  have hsig' : Ordered s'.significant := ho'.sublist List.filter_sublist
  have hl := lexemes_eq (fun t => lexeme_of_statement hs) (fun t => lexeme_of_statement hs')
    hsame.texts
  rw [classify_empty, classify_empty, Context.ofSql, Context.ofSql]
  cases spot with
  | behind n =>
    obtain ⟨hout, hword⟩ := blank_of_behind ho hc
    obtain ⟨hout', hword'⟩ := blank_of_behind ho' hc'
    rw [hout, hout', hword, hword']
    exact ofWord_alike hl hsame.touching (lies_behind hsig hc.2.1 hc.2.2)
      (lies_behind hsig' hc'.2.1 hc'.2.2) rfl
  | within i k =>
    obtain ⟨t, ht, hk, hlen, rfl⟩ := hc
    obtain ⟨t', ht', -, hlen', rfl⟩ := hc'
    have hm := List.mem_filter.mp (List.mem_of_getElem? ht)
    have hm' := List.mem_filter.mp (List.mem_of_getElem? ht')
    have he := lexeme_at hl ht ht'
    have hstop : t.stop = t.start + t.text.length := rfl
    have hstop' : t'.stop = t'.start + t'.text.length := rfl
    rw [isInsideLiteral_eq ho hm.1 hk hlen rfl, isInsideLiteral_eq ho' hm'.1 hk hlen' rfl,
      ho.atCursor hm.1 (by omega) (by omega), ho'.atCursor hm'.1 (by omega) (by omega), he]
    split
    · exact .of_fields rfl rfl rfl (kind_same hl) rfl
    · -- a word begins at its token, whatever else the cursor is in counts as an empty word
      rw [Option.filter_some, Option.filter_some, he]
      cases t'.isWord with
      | true =>
        have hadjacent : (touches s.significant)[i - 1]? = (touches s'.significant)[i - 1]? := by
          rw [hsame.touching]
        have hlies := lies_at_word hsig ht
        rw [hadjacent] at hlies
        refine ofWord_alike hl hsame.touching hlies (lies_at_word hsig' ht') ?_
        have htyped (n : Nat) : ((n : Int) + k - n).toNat = k := by omega
        simp only [if_true, Context.partialWord, he, htyped]
      | false =>
        have hlies := lies_at_mark hsig ht hk hlen
        rw [he] at hlies
        exact ofWord_alike hl hsame.touching hlies (lies_at_mark hsig' ht' hk hlen') rfl

/-- A comment parts the two words in the one text, a blank in the other. -/
theorem same_context_around_comment :
    let word : Lexeme := ⟨.keyword .FROM, "FROM"⟩
    let name : Lexeme := ⟨.identifier, "a"⟩
    let s : Statement := ⟨0, [⟨word, 0⟩, ⟨⟨.whitespace, " "⟩, 4⟩, ⟨name, 5⟩], false⟩
    let s' : Statement :=
      ⟨0, [⟨word, 0⟩, ⟨⟨.blockComment true, "/*;*/"⟩, 4⟩, ⟨name, 9⟩], false⟩
    s ∈ statements "FROM a" ∧ s' ∈ statements "FROM/*;*/a" ∧ SameTokens s s' ∧
    (Spot.within 1 1).At s 6 ∧ (Spot.within 1 1).At s' 10 ∧
    Alike (classify s 6 .empty) (classify s' 10 .empty) := by
  intro word name s s'
  have hs : s ∈ statements "FROM a" := by decide +kernel
  have hs' : s' ∈ statements "FROM/*;*/a" := by decide +kernel
  have hsame : SameTokens s s' := ⟨rfl, by decide⟩
  have hc : (Spot.within 1 1).At s 6 := ⟨⟨name, 5⟩, rfl, by decide, by decide, by decide⟩
  have hc' : (Spot.within 1 1).At s' 10 := ⟨⟨name, 9⟩, rfl, by decide, by decide, by decide⟩
  exact ⟨hs, hs', hsame, hc, hc', same_context hs hs' hsame hc hc'⟩

end SqlShell.Proofs
