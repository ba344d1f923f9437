import Mathlib.Data.List.Induction
import SqlShell.Proofs.Groups
import SqlShell.Token.Scan

namespace SqlShell.Proofs
open Clause (search)

/-- What is known of the tokens that have been read. -/
structure ForwardReading where
  count : Nat := 0
  last : Option Token := none
  /-- The last word of a clause, without those in groups that are closed by now. -/
  opening : Option (ClauseWord × Nat) := none
  /-- The places of the open parentheses, innermost first, each with what `opening` was there. -/
  opened : List (Nat × Option (ClauseWord × Nat)) := []

namespace ForwardReading

/-- What was read in the innermost parenthesis does not count once it is closed. -/
def close (r : ForwardReading) : ForwardReading :=
  match r.opened with
  | [] => r
  | (_, outside) :: outer => { r with opening := outside, opened := outer }

def note (r : ForwardReading) (t : Token) : ForwardReading :=
  if t.isMark '(' then { r with opened := (r.count, r.opening) :: r.opened }
  else if t.isMark ')' then r.close
  else match (ClauseWord.ofToken? t r.last).filter ClauseWord.opensClause with
    | some w => { r with opening := some (w, r.count) }
    | none => r

def read (r : ForwardReading) (t : Token) : ForwardReading :=
  { r.note t with count := r.count + 1, last := some t }

def of (ts : List Token) : ForwardReading := ts.foldl read {}

/-- Whether the place is behind the word of the clause. -/
def isBehind (r : ForwardReading) (i : Nat) : Bool := r.opening.all (fun c => c.2 < i)

def clause (r : ForwardReading) : Clause :=
  ⟨r.opening, (r.opened.head?.map Prod.fst).filter r.isBehind⟩

section
variable {t : Token} {ts : List Token}

theorem of_concat (ts : List Token) (t : Token) : of (ts ++ [t]) = (of ts).read t := by
  rw [of, List.foldl_append]
  rfl

theorem of_place (ts : List Token) : (of ts).count = ts.length ∧ (of ts).last = ts.getLast? := by
  induction ts using List.reverseRecOn with
  | nil => exact ⟨rfl, rfl⟩
  | append_singleton ts t ih =>
    rw [of_concat, List.length_append, List.getLast?_concat]
    exact ⟨congrArg (· + 1) ih.1, rfl⟩

theorem note_opening (r : ForwardReading) (ho : t.isMark '(' = true) :
    r.note t = { r with opened := (r.count, r.opening) :: r.opened } := if_pos ho

theorem note_closing (r : ForwardReading) (hc : t.isMark ')' = true) : r.note t = r.close := by
  rw [note, not_opening hc, hc]
  rfl

theorem note_opened (r : ForwardReading) (ho : t.isMark '(' = false) (hc : t.isMark ')' = false) :
    (r.note t).opened = r.opened := by
  simp only [note, ho, hc, Bool.false_eq_true, if_false]
  split <;> rfl

theorem opened_of_concat (ho : t.isMark '(' = false) (hc : t.isMark ')' = false) :
    (of (ts ++ [t])).opened = (of ts).opened := by
  rw [of_concat, read]
  exact note_opened _ ho hc

theorem opening_of_word {w : ClauseWord} (hw : clauseAt? t ts.reverse = some w) :
    (of (ts ++ [t])).opening = some (w, ts.length) := by
  obtain ⟨hcount, hlast⟩ := of_place ts
  have hmark := unmarked_of_clause hw
  rw [clauseAt?, List.head?_reverse] at hw
  simp [of_concat, read, note, hmark, hlast, hw, hcount]

theorem opening_of_other (hc : t.isMark ')' = false) (hw : clauseAt? t ts.reverse = none) :
    (of (ts ++ [t])).opening = (of ts).opening := by
  obtain ⟨-, hlast⟩ := of_place ts
  rw [clauseAt?, List.head?_reverse] at hw
  rw [of_concat, read, note, hc, hlast, hw]
  split <;> rfl

theorem opened_of_opening (ho : t.isMark '(' = true) :
    (of (ts ++ [t])).opened = (ts.length, (of ts).opening) :: (of ts).opened := by
  rw [of_concat, read, note_opening _ ho, (of_place ts).1]

end

/-- What is closed behind a parenthesis leaves this open. -/
theorem opened_of_closed {ts : List Token} (h : Closed ts) (r : ForwardReading) :
    (ts.reverse.foldl read r).opened = r.opened := by
  induction h generalizing r with
  | nil => rfl
  | token ho hc _ ih =>
    rw [List.reverse_cons, List.foldl_append]
    exact (note_opened _ ho hc).trans (ih r)
  | @group nested ts c o hc _ ho _ hin hmore =>
    have hinner (r : ForwardReading) : (nested.reverse.foldl read (r.read o)).opened =
        (r.count, r.opening) :: r.opened := by
      rw [hin, read, note_opening _ ho]
    rw [List.reverse_cons, List.reverse_append, List.reverse_cons, List.foldl_append,
      List.foldl_append, List.foldl_append]
    simp only [List.foldl_cons, List.foldl_nil]
    rw [read, note_closing _ hc, close, hinner]
    exact hmore r

/-- Behind a group all is as it was before. -/
theorem of_group {front group : List Token} (h : IsGroup group) :
    (of (front ++ group)).opening = (of front).opening ∧
      (of (front ++ group)).opened = (of front).opened := by
  obtain ⟨o, body, c, rfl, ho, hbody, hc⟩ := h
  have hinner : (body.foldl read ((of front).read o)).opened =
      ((of front).count, (of front).opening) :: (of front).opened := by
    have hkept := opened_of_closed hbody ((of front).read o)
    rw [List.reverse_reverse] at hkept
    rw [hkept, read, note_opening _ ho]
  have hread : of (front ++ o :: (body ++ [c])) =
      (body.foldl read ((of front).read o)).read c := by
    rw [of, List.foldl_append, List.foldl_cons, List.foldl_append]
    rfl
  rw [hread, read, note_closing _ hc, close, hinner]
  exact ⟨rfl, rfl⟩

end ForwardReading

/-- A word that begins a clause, given the tokens before it. -/
def BeginsClause (front : List Token) (t : Token) : Prop :=
  (clauseAt? t front.reverse).isSome = true

def OpensParenthesis (_ : List Token) (t : Token) : Prop := t.isMark '(' = true

/-- The clause that some tokens lead up to, by what stands at their places: the last word of a
clause outside of closed groups, and the last parenthesis behind it that is left open. -/
structure IsClauseBehind (ts : List Token) (c : Clause) : Prop where
  word : ∀ w i, c.opening = some (w, i) →
    StandsAt (fun front t => clauseAt? t front.reverse = some w) ts i
  last : IsLast (StandsOutside BeginsClause ts) (c.opening.map Prod.snd)
  innermost : IsLast (fun i => StandsOutside OpensParenthesis ts i ∧
    ∀ k, c.opening.map Prod.snd = some k → k < i) c.parenthesis

namespace ForwardReading

section
variable {ts : List Token}

theorem not_standsOutside_nil (p : List Token → Token → Prop) (i : Nat) :
    ¬ StandsOutside p [] i := fun h => absurd h.1.lt (Nat.not_lt_zero i)

/-- The word that was read last is the last one outside of closed groups. -/
theorem opening_isLast (h : Grouped ts) :
    IsLast (StandsOutside BeginsClause ts) ((of ts).opening.map Prod.snd) ∧
      ∀ w i, (of ts).opening = some (w, i) →
        StandsAt (fun front t => clauseAt? t front.reverse = some w) ts i := by
  induction h with
  | nil => exact ⟨not_standsOutside_nil _, fun w i hw => nomatch hw⟩
  | @token ts t hc _ ih =>
    obtain ⟨hlast, hword⟩ := ih
    cases hw : clauseAt? t ts.reverse with
    | none =>
      have hnone : ¬ BeginsClause ts t := by simp [BeginsClause, hw]
      rw [opening_of_other hc hw]
      exact ⟨hlast.concat_of_not hc hnone, fun w i hi => (hword w i hi).append [t]⟩
    | some w =>
      rw [opening_of_word hw]
      refine ⟨IsLast.concat_of hc (by simp [BeginsClause, hw]), fun w' i hi => ?_⟩
      obtain ⟨rfl, rfl⟩ := Prod.mk.inj (Option.some.inj hi)
      exact ⟨ts, t, [], rfl, rfl, hw⟩
  | @group front group hg _ ih =>
    obtain ⟨hlast, hword⟩ := ih
    rw [(of_group hg).1]
    exact ⟨hlast.congr fun i => standsOutside_append hg, fun w i hw => (hword w i hw).append group⟩

/-- The parenthesis on top of the stack is the last one outside of closed groups. -/
theorem opened_isLast (h : Grouped ts) :
    IsLast (StandsOutside OpensParenthesis ts) ((of ts).opened.head?.map Prod.fst) := by
  induction h with
  | nil => exact not_standsOutside_nil _
  | @token ts t hc _ ih =>
    cases ho : t.isMark '(' with
    | true =>
      rw [opened_of_opening ho]
      exact IsLast.concat_of hc ho
    | false =>
      rw [opened_of_concat ho hc]
      exact ih.concat_of_not hc (by simp [OpensParenthesis, ho])
  | @group front group hg _ ih =>
    rw [(of_group hg).2]
    exact ih.congr fun i => standsOutside_append hg

theorem isBehind_iff (r : ForwardReading) (i : Nat) :
    r.isBehind i = true ↔ ∀ k, r.opening.map Prod.snd = some k → k < i := by
  rw [isBehind]
  cases r.opening with
  | none => simp
  | some c => simp

theorem clause_isClauseBehind (h : Grouped ts) : IsClauseBehind ts (of ts).clause := by
  obtain ⟨hlast, hword⟩ := opening_isLast h
  refine ⟨hword, hlast, ?_⟩
  have hinner := (opened_isLast h).filter (b := (of ts).isBehind) fun i j hi hij => by
    rw [isBehind_iff] at hi ⊢
    exact fun k hk => Nat.lt_of_lt_of_le (hi k hk) hij
  exact hinner.congr fun i => and_congr_right fun _ => (isBehind_iff _ i).symm

end

section
variable {ts front group : List Token} {t : Token}

theorem clause_congr {r r' : ForwardReading} (h : r.opening = r'.opening)
    (h' : r.opened = r'.opened) : r.clause = r'.clause := by
  have hbehind : r.isBehind = r'.isBehind := by
    funext i
    rw [isBehind, isBehind, h]
  rw [clause, clause, h, h', hbehind]

theorem clause_of_opening (h : Grouped ts) (ho : t.isMark '(' = true) :
    (of (ts ++ [t])).clause = ⟨(of ts).opening, some ts.length⟩ := by
  have hsame : (of (ts ++ [t])).opening = (of ts).opening :=
    opening_of_other (not_closing ho) (clauseAt_mark ho _)
  have hbehind : (of (ts ++ [t])).isBehind ts.length = true := by
    rw [isBehind_iff, hsame]
    intro k hk
    have hlast := (opening_isLast h).1
    rw [hk] at hlast
    exact hlast.1.1.lt
  rw [clause, opened_of_opening ho, hsame, List.head?_cons, Option.map_some,
    Option.filter_some_pos hbehind]

theorem clause_of_word (h : Grouped ts) {w : ClauseWord}
    (hw : clauseAt? t ts.reverse = some w) :
    (of (ts ++ [t])).clause = ⟨some (w, ts.length), none⟩ := by
  have hbehind (i : Nat) (hi : (of ts).opened.head?.map Prod.fst = some i) :
      (of (ts ++ [t])).isBehind i = false := by
    have hlast := opened_isLast h
    rw [hi] at hlast
    have hlt := hlast.1.1.lt
    rw [isBehind, opening_of_word hw]
    simp
    omega
  have hmark := unmarked_of_clause hw
  rw [clause, opening_of_word hw, opened_of_concat (hmark '(') (hmark ')')]
  cases hi : (of ts).opened.head?.map Prod.fst with
  | none => rfl
  | some i => rw [Option.filter_some_neg (by simp [hbehind i hi])]

theorem clause_of_other (ho : t.isMark '(' = false) (hc : t.isMark ')' = false)
    (hw : clauseAt? t ts.reverse = none) : (of (ts ++ [t])).clause = (of ts).clause :=
  clause_congr (opening_of_other hc hw) (opened_of_concat ho hc)

theorem clause_of_group (h : IsGroup group) : (of (front ++ group)).clause = (of front).clause :=
  clause_congr (of_group h).1 (of_group h).2

end

end ForwardReading

section
variable {ts : List Token} {group : List Token}

/-- Once the parenthesis of the place is known, the search only looks for the word. -/
theorem search_known (depth i : Nat) (ts : List Token) :
    search depth (some i) ts = ⟨(search depth none ts).opening, some i⟩ := by
  induction ts generalizing depth i with
  | nil => rfl
  | cons t ts ih =>
    cases hc : t.isMark ')' with
    | true => rw [search_closing hc, search_closing hc, ih]
    | false =>
      cases ho : t.isMark '(' with
      | true =>
        cases depth with
        | zero =>
          rw [search_opening ho, search_opening ho, Option.getD_some, Option.getD_none, ih 0 i,
            ih 0 ts.length]
        | succ depth => rw [search_partner ho, search_partner ho, ih]
      | false =>
        cases depth with
        | succ depth => rw [search_inside ho hc, search_inside ho hc, ih]
        | zero =>
          cases hw : clauseAt? t ts with
          | some w => rw [search_clause hw, search_clause hw]
          | none => rw [search_other ho hc hw, search_other ho hc hw, ih]

/-- Whatever is being stepped over, a group is stepped over as a whole. -/
theorem search_over (h : IsGroup group) (depth : Nat) (parenthesis : Option Nat)
    (far : List Token) :
    search depth parenthesis (group.reverse ++ far) = search depth parenthesis far := by
  obtain ⟨o, body, c, rfl, ho, hbody, hc⟩ := h
  have hreverse : (o :: (body ++ [c])).reverse ++ far = c :: (body.reverse ++ o :: far) := by simp
  rw [hreverse, search_closing hc, search_closed hbody, search_partner ho]

theorem find_reverse (h : Grouped ts) :
    Clause.find ts.reverse = (ForwardReading.of ts).clause := by
  induction h with
  | nil => rfl
  | @token ts t hc hts ih =>
    rw [List.reverse_concat, Clause.find]
    cases ho : t.isMark '(' with
    | true =>
      rw [search_opening ho, Option.getD_none, List.length_reverse, search_known, ← Clause.find,
        ih, ForwardReading.clause_of_opening hts ho]
      rfl
    | false =>
      cases hw : clauseAt? t ts.reverse with
      | some w =>
        rw [search_clause hw, List.length_reverse, ForwardReading.clause_of_word hts hw]
      | none =>
        rw [search_other ho hc hw, ForwardReading.clause_of_other ho hc hw, ← ih, Clause.find]
  | @group front group hg _ ih =>
    rw [List.reverse_append, Clause.find, search_over hg, ForwardReading.clause_of_group hg, ← ih,
      Clause.find]

end

/-- The clause with its places moved. -/
def moveClause (f : Nat → Nat) (c : Clause) : Clause :=
  ⟨c.opening.map fun w => (w.1, f w.2), c.parenthesis.map f⟩

/-- Where a place is moved if the group behind the first `front` tokens is replaced by one of
another length. -/
def moved (front old new : Nat) (i : Nat) : Nat := if i < front then i else i - old + new

theorem clauseAt_of_keyword {t : Token} {before before' : List Token}
    (h : before.head?.bind (·.keyword?) = before'.head?.bind (·.keyword?)) :
    clauseAt? t before = clauseAt? t before' := by
  rw [clauseAt?, clauseAt?, ClauseWord.ofToken?, ClauseWord.ofToken?, h]

section
variable {group group' : List Token} {f : Nat → Nat}

/-- One more token keeps two searches together that differ in their places only. -/
theorem search_together {t : Token} {ts ts' : List Token} (hlength : f ts.length = ts'.length)
    (hword : clauseAt? t ts' = clauseAt? t ts)
    (h : ∀ depth parenthesis,
      search depth (parenthesis.map f) ts' = moveClause f (search depth parenthesis ts))
    (depth : Nat) (parenthesis : Option Nat) :
    search depth (parenthesis.map f) (t :: ts') =
      moveClause f (search depth parenthesis (t :: ts)) := by
  cases hc : t.isMark ')' with
  | true => rw [search_closing hc, search_closing hc, h]
  | false =>
    cases ho : t.isMark '(' with
    | true =>
      cases depth with
      | zero =>
        have hplace : some ((parenthesis.map f).getD ts'.length) =
            (some (parenthesis.getD ts.length)).map f := by
          cases parenthesis with
          | none => exact congrArg some hlength.symm
          | some i => rfl
        rw [search_opening ho, search_opening ho, hplace, h]
      | succ depth => rw [search_partner ho, search_partner ho, h]
    | false =>
      cases depth with
      | succ depth => rw [search_inside ho hc, search_inside ho hc, h]
      | zero =>
        cases hw : clauseAt? t ts with
        | some w =>
          rw [search_clause (hword.trans hw), search_clause hw, moveClause, Option.map_some,
            hlength]
        | none => rw [search_other ho hc (hword.trans hw), search_other ho hc hw, h]

theorem search_moved {ts : List Token} (hf : ∀ i < ts.length, f i = i) (depth : Nat)
    (parenthesis : Option Nat) :
    search depth (parenthesis.map f) ts = moveClause f (search depth parenthesis ts) := by
  induction ts generalizing depth parenthesis with
  | nil => rfl
  | cons t ts ih =>
    have hbehind : ∀ i < ts.length, f i = i := fun i hi => hf i (Nat.lt_succ_of_lt hi)
    exact search_together (hf _ (Nat.lt_succ_self _)) rfl (ih hbehind) depth parenthesis

/-- A word behind a group is read without looking into the group. -/
theorem clauseAt_behind (hg : IsGroup group) (hg' : IsGroup group') (t : Token)
    (near far : List Token) :
    clauseAt? t (near ++ (group'.reverse ++ far)) =
      clauseAt? t (near ++ (group.reverse ++ far)) := by
  cases near with
  | cons u near => exact clauseAt_of_keyword rfl
  | nil =>
    have hnone {group : List Token} (h : IsGroup group) :
        (group.reverse ++ far).head?.bind (·.keyword?) = none := by
      obtain ⟨o, body, c, rfl, -, -, hc⟩ := h
      simp [keyword_of_mark hc]
    exact clauseAt_of_keyword ((hnone hg').trans (hnone hg).symm)

theorem search_replaced (hg : IsGroup group) (hg' : IsGroup group') (near far : List Token)
    (depth : Nat) (parenthesis : Option Nat) :
    search depth (parenthesis.map (moved far.length group.length group'.length))
        (near ++ (group'.reverse ++ far)) =
      moveClause (moved far.length group.length group'.length)
        (search depth parenthesis (near ++ (group.reverse ++ far))) := by
  induction near generalizing depth parenthesis with
  | nil =>
    rw [List.nil_append, List.nil_append, search_over hg, search_over hg']
    exact search_moved (fun i hi => if_pos hi) depth parenthesis
  | cons t near ih =>
    have hlength : moved far.length group.length group'.length
        (near ++ (group.reverse ++ far)).length = (near ++ (group'.reverse ++ far)).length := by
      simp only [List.length_append, List.length_reverse]
      rw [moved, if_neg (by omega)]
      omega
    exact search_together hlength (clauseAt_behind hg hg' t near far) ih depth parenthesis

theorem find_replaced (hg : IsGroup group) (hg' : IsGroup group') (front back : List Token) :
    Clause.find (front ++ (group' ++ back)).reverse =
      moveClause (moved front.length group.length group'.length)
        (Clause.find (front ++ (group ++ back)).reverse) := by
  have hreverse (group : List Token) : (front ++ (group ++ back)).reverse =
      back.reverse ++ (group.reverse ++ front.reverse) := by simp
  rw [hreverse, hreverse]
  have h := search_replaced hg hg' back.reverse front.reverse 0 none
  rwa [List.length_reverse] at h

end

/-- Where each closing parenthesis closes an earlier one, the backward search comes to the clause
that a reading from the first token on comes to with a stack of the open parentheses: the last word
of a clause outside of closed groups, and the innermost parenthesis behind it that is left open. A
closed group in the place of another one moves what stands behind it and changes nothing else. -/
theorem clause_read_forward :
    (∀ ts, ClosesOpened ts → Clause.find ts.reverse = (ForwardReading.of ts).clause ∧
      IsClauseBehind ts (Clause.find ts.reverse)) ∧
    ∀ front group group' back, IsGroup group → IsGroup group' →
      Clause.find (front ++ (group' ++ back)).reverse =
        moveClause (moved front.length group.length group'.length)
          (Clause.find (front ++ (group ++ back)).reverse) := by
  refine ⟨fun ts h => ?_, fun front group group' back hg hg' => find_replaced hg hg' front back⟩
  have hgrouped := grouped_of_closesOpened h
  have hfind := find_reverse hgrouped
  exact ⟨hfind, hfind ▸ ForwardReading.clause_isClauseBehind hgrouped⟩

/-- The words in the closed groups do not count, and the parenthesis of `h` is not the innermost. -/
theorem where_behind_groups :
    let ts := Token.significant
      (tokenize "SELECT (SELECT max(b) FROM t) FROM u WHERE v IN (1, (2)) AND h(w, (")
    let front := Token.significant (tokenize "SELECT a FROM u WHERE v IN")
    let group := Token.significant (tokenize "(1, (2))")
    let group' := Token.significant (tokenize "(SELECT c)")
    let back := Token.significant (tokenize "AND h(w, (")
    ClosesOpened ts ∧ IsGroup group ∧ IsGroup group' ∧
      Clause.find ts.reverse = ⟨some (.keyword .WHERE, 12), some 27⟩ ∧
      Clause.find ts.reverse = (ForwardReading.of ts).clause ∧
      IsClauseBehind ts (Clause.find ts.reverse) ∧
      Clause.find (front ++ (group' ++ back)).reverse =
        moveClause (moved front.length group.length group'.length)
          (Clause.find (front ++ (group ++ back)).reverse) := by
  intro ts front group group' back
  have hcloses : ClosesOpened ts := by decide +kernel
  have hfind : Clause.find ts.reverse = ⟨some (.keyword .WHERE, 12), some 27⟩ := by decide +kernel
  have hg : IsGroup group := by
    refine ⟨⟨⟨.punctuation, "("⟩, 0⟩, [⟨⟨.number, "1"⟩, 1⟩, ⟨⟨.punctuation, ","⟩, 2⟩,
      ⟨⟨.punctuation, "("⟩, 4⟩, ⟨⟨.number, "2"⟩, 5⟩, ⟨⟨.punctuation, ")"⟩, 6⟩],
      ⟨⟨.punctuation, ")"⟩, 7⟩, by decide +kernel, rfl, ?_, rfl⟩
    exact @Closed.group [_] [_, _] _ _ rfl (.token rfl rfl .nil) rfl
      (.token rfl rfl (.token rfl rfl .nil))
  have hg' : IsGroup group' :=
    ⟨⟨⟨.punctuation, "("⟩, 0⟩, [⟨⟨.keyword .SELECT, "SELECT"⟩, 1⟩, ⟨⟨.identifier, "c"⟩, 8⟩],
      ⟨⟨.punctuation, ")"⟩, 9⟩, by decide +kernel, rfl, .token rfl rfl (.token rfl rfl .nil), rfl⟩
  obtain ⟨hread, hbehind⟩ := clause_read_forward.1 ts hcloses
  exact ⟨hcloses, hg, hg', hfind, hread, hbehind,
    clause_read_forward.2 front group group' back hg hg'⟩

end SqlShell.Proofs
