import SqlShell.Context.Clause
import SqlShell.Proofs.LexemeKinds

namespace SqlShell.Proofs
open Clause (search)

/-- Tokens, nearest first, in which each parenthesis has its partner. -/
inductive Closed : List Token → Prop
  | nil : Closed []
  | token (ho : t.isMark '(' = false) (hc : t.isMark ')' = false) (h : Closed ts) :
      Closed (t :: ts)
  | group (hc : c.isMark ')' = true) (hin : Closed nested) (ho : o.isMark '(' = true)
      (h : Closed ts) : Closed (c :: (nested ++ o :: ts))

/-- The clause that a token begins, given the tokens before it. -/
def clauseAt? (t : Token) (before : List Token) : Option ClauseWord :=
  (ClauseWord.ofToken? t before.head?).filter ClauseWord.opensClause

/-- Tokens, nearest first, that begin no clause outside of closed groups. Parentheses are left open
in them only if `opens` says so. -/
inductive Bare (opens : Bool) (far : List Token) : List Token → Prop
  | nil : Bare opens far []
  | token (ho : t.isMark '(' = false) (hc : t.isMark ')' = false)
      (hw : clauseAt? t (ts ++ far) = none) (h : Bare opens far ts) : Bare opens far (t :: ts)
  | opening (hopens : opens = true) (ho : t.isMark '(' = true) (h : Bare opens far ts) :
      Bare opens far (t :: ts)
  | group (hc : c.isMark ')' = true) (hin : Closed nested) (ho : o.isMark '(' = true)
      (h : Bare opens far ts) : Bare opens far (c :: (nested ++ o :: ts))

theorem not_closing {t : Token} (h : t.isMark '(' = true) : t.isMark ')' = false :=
  isMark_unique h (by decide)

theorem not_opening {t : Token} (h : t.isMark ')' = true) : t.isMark '(' = false :=
  isMark_unique h (by decide)

theorem clauseAt_mark {t : Token} {mark : Char} (h : t.isMark mark = true) (before : List Token) :
    clauseAt? t before = none := by
  rw [clauseAt?, ClauseWord.ofToken?, keyword_of_mark h]
  rfl

theorem unmarked_of_clause {t : Token} {before : List Token} {w : ClauseWord}
    (hw : clauseAt? t before = some w) (mark : Char) : t.isMark mark = false := by
  rw [Bool.eq_false_iff]
  intro hm
  rw [clauseAt_mark hm] at hw
  contradiction

section
variable {t : Token} {ts : List Token} {depth : Nat} {parenthesis : Option Nat}

theorem search_closing (hc : t.isMark ')' = true) :
    search depth parenthesis (t :: ts) = search (depth + 1) parenthesis ts := by
  rw [search, if_pos hc]

theorem search_partner (ho : t.isMark '(' = true) :
    search (depth + 1) parenthesis (t :: ts) = search depth parenthesis ts := by
  simp [search, not_closing ho, ho]

theorem search_opening (ho : t.isMark '(' = true) :
    search 0 parenthesis (t :: ts) = search 0 (some (parenthesis.getD ts.length)) ts := by
  simp [search, not_closing ho, ho]

theorem search_inside (ho : t.isMark '(' = false) (hc : t.isMark ')' = false) :
    search (depth + 1) parenthesis (t :: ts) = search (depth + 1) parenthesis ts := by
  simp [search, ho, hc]

theorem search_clause {w : ClauseWord} (hw : clauseAt? t ts = some w) :
    search 0 parenthesis (t :: ts) = ⟨some (w, ts.length), parenthesis⟩ := by
  have hmark := unmarked_of_clause hw
  rw [clauseAt?] at hw
  simp [search, hmark, hw]

theorem search_other (ho : t.isMark '(' = false) (hc : t.isMark ')' = false)
    (hw : clauseAt? t ts = none) :
    search 0 parenthesis (t :: ts) = search 0 parenthesis ts := by
  rw [clauseAt?] at hw
  simp [search, ho, hc, hw]

end

theorem search_closed {nested : List Token} (h : Closed nested) (depth : Nat)
    (parenthesis : Option Nat) (far : List Token) :
    search (depth + 1) parenthesis (nested ++ far) = search (depth + 1) parenthesis far := by
  induction h generalizing depth far with
  | nil => rfl
  | token ho hc _ ih => rw [List.cons_append, search_inside ho hc, ih]
  | group hc _ ho _ hin hmore =>
    rw [List.cons_append, List.append_assoc, List.cons_append, search_closing hc, hin,
      search_partner ho, hmore]

/-- The group that begins with a closing parenthesis is stepped over. -/
theorem search_group {c o : Token} {nested far : List Token} (hc : c.isMark ')' = true)
    (hin : Closed nested) (ho : o.isMark '(' = true) (parenthesis : Option Nat) :
    search 0 parenthesis (c :: (nested ++ o :: far)) = search 0 parenthesis far := by
  rw [search_closing hc, search_closed hin, search_partner ho]

theorem search_bare {opens : Bool} {near far : List Token} {parenthesis : Option Nat}
    (h : Bare opens far near) (hp : opens = true → parenthesis.isSome = true) :
    search 0 parenthesis (near ++ far) = search 0 parenthesis far := by
  induction h with
  | nil => rfl
  | token ho hc hw _ ih => rw [List.cons_append, search_other ho hc hw, ih]
  | @opening t ts hopens ho _ ih =>
    obtain ⟨i, rfl⟩ := Option.isSome_iff_exists.mp (hp hopens)
    rw [List.cons_append, search_opening ho, Option.getD_some, ih]
  | group hc hin ho _ ih =>
    rw [List.cons_append, List.append_assoc, List.cons_append, search_group hc hin ho, ih]

/-- A search that finds a clause from inside a group comes to the parenthesis that opens it. -/
theorem partner_of_search {depth : Nat} {parenthesis : Option Nat} {ts : List Token}
    (h : (search (depth + 1) parenthesis ts).opening.isSome = true) :
    ∃ nested o far, ts = nested ++ o :: far ∧ Closed nested ∧ o.isMark '(' = true := by
  match ts with
  | [] => contradiction
  | t :: ts =>
    cases hc : t.isMark ')' with
    | true =>
      rw [search_closing hc] at h
      -- behind the group inside this one the search goes on, far beyond the next token
      obtain ⟨nested, o, far, rfl, hin, ho⟩ := partner_of_search h
      rw [search_closed hin, search_partner ho] at h
      have hlt : far.length < (t :: (nested ++ o :: far)).length := by simp; omega
      obtain ⟨more, o', far, rfl, hmore, ho'⟩ := partner_of_search h
      exact ⟨t :: (nested ++ o :: more), o', far, by simp, .group hc hin ho hmore, ho'⟩
    | false =>
      cases ho : t.isMark '(' with
      | true => exact ⟨[], t, ts, rfl, .nil, ho⟩
      | false =>
        rw [search_inside ho hc] at h
        obtain ⟨nested, o, far, rfl, hin, ho'⟩ := partner_of_search h
        exact ⟨t :: nested, o, far, rfl, .token ho hc hin, ho'⟩
termination_by ts.length

/-- The search comes to the beginning of a clause, or before to a parenthesis that is left open. -/
theorem bare_of_search (opens : Bool) {parenthesis : Option Nat} {ts : List Token}
    (hp : opens = true → parenthesis.isSome = true)
    (h : (search 0 parenthesis ts).opening.isSome = true) :
    ∃ near t far, ts = near ++ t :: far ∧ Bare opens (t :: far) near ∧
      ((clauseAt? t far).isSome = true ∨ opens = false ∧ t.isMark '(' = true) := by
  match ts with
  | [] => contradiction
  | t :: ts =>
    cases hc : t.isMark ')' with
    | true =>
      rw [search_closing hc] at h
      obtain ⟨nested, o, far, rfl, hin, ho⟩ := partner_of_search h
      rw [search_closed hin, search_partner ho] at h
      have hlt : far.length < (t :: (nested ++ o :: far)).length := by simp; omega
      obtain ⟨near, u, far, rfl, hbare, hu⟩ := bare_of_search opens hp h
      exact ⟨t :: (nested ++ o :: near), u, far, by simp, .group hc hin ho hbare, hu⟩
    | false =>
      cases ho : t.isMark '(' with
      | true =>
        cases opens with
        | false => exact ⟨[], t, ts, rfl, .nil, .inr ⟨rfl, ho⟩⟩
        | true =>
          rw [search_opening ho] at h
          obtain ⟨near, u, far, rfl, hbare, hu⟩ := bare_of_search true (fun _ => rfl) h
          exact ⟨t :: near, u, far, rfl, .opening rfl ho hbare, hu⟩
      | false =>
        cases hw : clauseAt? t ts with
        | some w =>
          refine ⟨[], t, ts, rfl, .nil, .inl ?_⟩
          rw [hw]
          rfl
        | none =>
          rw [search_other ho hc hw] at h
          obtain ⟨near, u, far, rfl, hbare, hu⟩ := bare_of_search opens hp h
          exact ⟨t :: near, u, far, rfl, .token ho hc hw hbare, hu⟩
termination_by ts.length

/-- The parenthesis of a place is the nearest one that is left open, and the clause begins before
it. -/
theorem find_eq_iff {ts : List Token} {w : ClauseWord} {k i : Nat} :
    Clause.find ts = ⟨some (w, k), some i⟩ ↔
      ∃ rest o between u far, ts = rest ++ o :: (between ++ u :: far) ∧
        Bare false (o :: (between ++ u :: far)) rest ∧ o.isMark '(' = true ∧
        Bare true (u :: far) between ∧ clauseAt? u far = some w ∧ k = far.length ∧
        i = (between ++ u :: far).length := by
  have hscan {rest between far : List Token} {o u : Token} {v : ClauseWord}
      (hrest : Bare false (o :: (between ++ u :: far)) rest) (ho : o.isMark '(' = true)
      (hbetween : Bare true (u :: far) between) (hu : clauseAt? u far = some v) :
      Clause.find (rest ++ o :: (between ++ u :: far)) =
        ⟨some (v, far.length), some (between ++ u :: far).length⟩ := by
    rw [Clause.find, search_bare hrest Bool.noConfusion, search_opening ho,
      search_bare hbetween (fun _ => rfl), search_clause hu]
    rfl
  constructor
  · intro h
    have hopen : (search 0 none ts).opening.isSome = true := by
      rw [Clause.find] at h
      rw [h]
      rfl
    obtain ⟨rest, o, more, rfl, hrest, hw | ⟨-, ho⟩⟩ :=
      bare_of_search false Bool.noConfusion hopen
    · -- a clause that begins before any parenthesis leaves none to be found
      obtain ⟨v, hv⟩ := Option.isSome_iff_exists.mp hw
      rw [Clause.find, search_bare hrest Bool.noConfusion, search_clause hv] at h
      exact absurd (Clause.mk.inj h).2 (by simp)
    · rw [search_bare hrest Bool.noConfusion, search_opening ho] at hopen
      obtain ⟨between, u, far, rfl, hbetween, hu | ⟨hn, -⟩⟩ :=
        bare_of_search true (fun _ => rfl) hopen
      · obtain ⟨v, hv⟩ := Option.isSome_iff_exists.mp hu
        rw [hscan hrest ho hbetween hv] at h
        obtain ⟨hclause, hplace⟩ := Clause.mk.inj h
        obtain ⟨rfl, rfl⟩ := Prod.mk.inj (Option.some.inj hclause)
        obtain rfl := Option.some.inj hplace
        exact ⟨rest, o, between, u, far, rfl, hrest, ho, hbetween, hv, rfl, rfl⟩
      · contradiction
  · rintro ⟨rest, o, between, u, far, rfl, hrest, ho, hbetween, hu, rfl, rfl⟩
    exact hscan hrest ho hbetween hu

end SqlShell.Proofs
