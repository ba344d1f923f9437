import Mathlib.Data.List.Basic
import SqlShell.Proofs.Clauses

namespace SqlShell.Proofs

/-- How many parentheses are left open by these tokens; fewer than none if more are closed. -/
def excess (ts : List Token) : Int :=
  (ts.countP (·.isMark '(') : Int) - ts.countP (·.isMark ')')

/-- Each closing parenthesis closes one that was opened before it. -/
def ClosesOpened (ts : List Token) : Prop := ∀ front, front <+: ts → 0 ≤ excess front

instance (ts : List Token) : Decidable (ClosesOpened ts) :=
  decidable_of_iff (∀ n < ts.length + 1, 0 ≤ excess (ts.take n)) <| by
    constructor
    · intro h front hf
      have hfront := h front.length (Nat.lt_succ_of_le hf.length_le)
      rwa [← List.prefix_iff_eq_take.mp hf] at hfront
    · exact fun h n _ => h _ (List.take_prefix n ts)

/-- A parenthesis with its partner and what is between them. -/
def IsGroup (group : List Token) : Prop :=
  ∃ o body c, group = o :: (body ++ [c]) ∧ o.isMark '(' = true ∧ Closed body.reverse ∧
    c.isMark ')' = true

/-- The place is that of a token in a closed group, its parentheses included. -/
def InGroup (ts : List Token) (i : Nat) : Prop :=
  ∃ front group back, ts = front ++ (group ++ back) ∧ IsGroup group ∧ front.length ≤ i ∧
    i < front.length + group.length

section
variable {t : Token} {ts us : List Token}

theorem excess_append (ts us : List Token) : excess (ts ++ us) = excess ts + excess us := by
  simp only [excess, List.countP_append]
  omega

theorem excess_opening (ho : t.isMark '(' = true) : excess [t] = 1 := by
  simp [excess, ho, not_closing ho]

theorem excess_closing (hc : t.isMark ')' = true) : excess [t] = -1 := by
  simp [excess, hc, not_opening hc]

theorem excess_other (ho : t.isMark '(' = false) (hc : t.isMark ')' = false) :
    excess [t] = 0 := by
  simp [excess, ho, hc]

theorem excess_cons (t : Token) (ts : List Token) : excess (t :: ts) = excess [t] + excess ts :=
  excess_append [t] ts

theorem excess_reverse (ts : List Token) : excess ts.reverse = excess ts := by
  simp [excess]

theorem Closed.excess_eq (h : Closed ts) : excess ts = 0 := by
  induction h with
  | nil => rfl
  | token ho hc _ ih => rw [excess_cons, excess_other ho hc, ih, Int.zero_add]
  | @group nested ts c o hc _ ho _ hin hmore =>
    rw [excess_cons c, excess_append, excess_cons o, excess_closing hc, hin, excess_opening ho,
      hmore]
    rfl

/-- From any place in closed tokens on, no more is closed than is open there. -/
theorem Closed.excess_far (h : Closed ts) {far : List Token} (hf : far <:+ ts) :
    0 ≤ excess far := by
  induction h generalizing far with
  | nil =>
    rw [List.suffix_nil.mp hf]
    exact Int.le_refl 0
  | token ho hc hts ih =>
    rcases List.suffix_cons_iff.mp hf with rfl | hf
    · exact Int.le_of_eq (Closed.token ho hc hts).excess_eq.symm
    · exact ih hf
  | @group nested ts c o hc hin ho hts ihin ihts =>
    have hopen : excess (o :: ts) = 1 := by
      rw [excess_cons, excess_opening ho, hts.excess_eq, Int.add_zero]
    rcases List.suffix_cons_iff.mp hf with rfl | ⟨before, hf⟩
    · exact Int.le_of_eq (Closed.group hc hin ho hts).excess_eq.symm
    rcases List.append_eq_append_iff.mp hf with ⟨near, hnear, rfl⟩ | ⟨between, -, hfar⟩
    · have := ihin ⟨before, hnear.symm⟩
      rw [excess_append, hopen]
      omega
    · rcases List.suffix_cons_iff.mp ⟨between, hfar.symm⟩ with rfl | hfar
      · rw [hopen]
        decide
      · exact ihts hfar

end

namespace IsGroup

variable {group : List Token} (h : IsGroup group)
include h

theorem excess_eq : excess group = 0 := by
  obtain ⟨o, body, c, rfl, ho, hbody, hc⟩ := h
  rw [excess_cons, excess_append, excess_opening ho, excess_closing hc, ← excess_reverse body,
    hbody.excess_eq]
  rfl

/-- The first parenthesis of a group is open up to its last token. -/
theorem excess_pos {front back : List Token} (hs : group = front ++ back) (hf : front ≠ [])
    (hb : back ≠ []) : 0 < excess front := by
  obtain ⟨o, body, c, rfl, ho, hbody, hc⟩ := h
  obtain ⟨t, front, rfl⟩ := List.exists_cons_of_ne_nil hf
  obtain ⟨back, u, rfl⟩ := (List.eq_nil_or_concat' back).resolve_left hb
  rw [List.cons_append, ← List.append_assoc] at hs
  obtain ⟨rfl, hinner⟩ := List.cons.inj hs
  have hfront : front.reverse <:+ body.reverse :=
    List.reverse_suffix.mpr ⟨back, (List.append_inj' hinner rfl).1.symm⟩
  have hrest := hbody.excess_far hfront
  rw [excess_reverse] at hrest
  rw [excess_cons, excess_opening ho]
  omega

theorem excess_front {front : List Token} (hf : front <+: group) : 0 ≤ excess front := by
  obtain ⟨back, hs⟩ := hf
  by_cases hnil : front = []
  · rw [hnil]
    exact Int.le_refl 0
  · by_cases hall : back = []
    · rw [hall, List.append_nil] at hs
      exact Int.le_of_eq (hs ▸ h.excess_eq).symm
    · exact Int.le_of_lt (h.excess_pos hs.symm hnil hall)

/-- A group that ends in another one lies within it. -/
theorem not_overlapping {group' near far back : List Token} (h' : IsGroup group')
    (hs' : group' = near ++ far) (hs : group = far ++ back) : near = [] ∨ far = [] := by
  by_cases hn : near = []
  · exact .inl hn
  · refine .inr (Decidable.byContradiction fun hf => ?_)
    have hpos := h'.excess_pos hs' hn hf
    have htotal := h'.excess_eq
    have hfar := h.excess_front ⟨back, hs.symm⟩
    rw [hs', excess_append] at htotal
    omega

end IsGroup

/-- If some parenthesis is left open, then behind the innermost one all groups are closed. -/
theorem partner_of_excess {ts : List Token} (h : 0 < excess ts) :
    ∃ front o body, ts = front ++ o :: body ∧ o.isMark '(' = true ∧ Closed body.reverse := by
  rcases List.eq_nil_or_concat' ts with rfl | ⟨ts, t, rfl⟩
  · contradiction
  · rw [excess_append] at h
    cases hc : t.isMark ')' with
    | true =>
      rw [excess_closing hc] at h
      -- what this token closes is within the parenthesis that is left open
      have hinner : 0 < excess ts := by omega
      obtain ⟨front, o, body, rfl, ho, hbody⟩ := partner_of_excess hinner
      have hone : excess (o :: body) = 1 := by
        rw [excess_cons, excess_opening ho, ← excess_reverse body, hbody.excess_eq]
        rfl
      rw [excess_append, hone] at h
      have houter : 0 < excess front := by omega
      obtain ⟨front, o', body', rfl, ho', hbody'⟩ := partner_of_excess houter
      refine ⟨front, o', body' ++ o :: (body ++ [t]), by simp, ho', ?_⟩
      simpa using Closed.group hc hbody ho hbody'
    | false =>
      cases ho : t.isMark '(' with
      | true => exact ⟨ts, t, [], rfl, ho, .nil⟩
      | false =>
        rw [excess_other ho hc, Int.add_zero] at h
        obtain ⟨front, o, body, rfl, ho', hbody⟩ := partner_of_excess h
        refine ⟨front, o, body ++ [t], by simp, ho', ?_⟩
        simpa using Closed.token ho hc hbody
termination_by ts.length
decreasing_by
  all_goals
    subst_vars
    simp only [List.length_append, List.length_cons, List.length_nil]
    omega

/-- Tokens made up of closed groups and of tokens that close nothing. -/
inductive Grouped : List Token → Prop
  | nil : Grouped []
  | token {ts : List Token} {t : Token} (hc : t.isMark ')' = false) (h : Grouped ts) :
      Grouped (ts ++ [t])
  | group {front group : List Token} (hg : IsGroup group) (h : Grouped front) :
      Grouped (front ++ group)

theorem grouped_of_closesOpened {ts : List Token} (h : ClosesOpened ts) : Grouped ts := by
  rcases List.eq_nil_or_concat' ts with rfl | ⟨ts, t, rfl⟩
  · exact .nil
  · have hfront {front : List Token} (hf : front <+: ts) : ClosesOpened front :=
      fun _ hp => h _ (hp.trans (hf.trans (List.prefix_append ts [t])))
    cases hc : t.isMark ')' with
    | false => exact .token hc (grouped_of_closesOpened (hfront List.prefix_rfl))
    | true =>
      have hopen := h _ List.prefix_rfl
      rw [excess_append, excess_closing hc] at hopen
      have hinner : 0 < excess ts := by omega
      obtain ⟨front, o, body, rfl, ho, hbody⟩ := partner_of_excess hinner
      have hsplit : front ++ o :: body ++ [t] = front ++ o :: (body ++ [t]) := by simp
      rw [hsplit]
      exact .group ⟨o, body, t, rfl, ho, hbody, hc⟩
        (grouped_of_closesOpened (hfront (List.prefix_append front _)))
termination_by ts.length
decreasing_by
  all_goals
    subst_vars
    simp only [List.length_append, List.length_cons, List.length_nil]
    omega

section
variable {front group ts : List Token} {t : Token} {i : Nat}

theorem inGroup_concat (hc : t.isMark ')' = false) : InGroup (ts ++ [t]) i ↔ InGroup ts i := by
  constructor
  · rintro ⟨front, group, back, hs, hg, hlow, hhigh⟩
    rcases List.eq_nil_or_concat' back with rfl | ⟨back, u, rfl⟩
    · obtain ⟨o, body, c, rfl, -, -, hclosing⟩ := hg
      rw [List.append_nil, ← List.cons_append, ← List.append_assoc] at hs
      have htc : t = c := List.singleton_inj.mp (List.append_inj' hs rfl).2
      rw [htc, hclosing] at hc
      contradiction
    · rw [← List.append_assoc, ← List.append_assoc] at hs
      have hts := (List.append_inj' hs rfl).1
      exact ⟨front, group, back, by rw [hts, List.append_assoc], hg, hlow, hhigh⟩
  · rintro ⟨front, group, back, rfl, hg, hlow, hhigh⟩
    exact ⟨front, group, back ++ [t], by simp, hg, hlow, hhigh⟩

theorem inGroup_append (hg : IsGroup group) :
    InGroup (front ++ group) i ↔
      InGroup front i ∨ front.length ≤ i ∧ i < front.length + group.length := by
  constructor
  · rintro ⟨front', group', back, hs, hg', hlow, hhigh⟩
    have htotal := congrArg List.length hs
    simp only [List.length_append] at htotal
    rcases List.append_eq_append_iff.mp hs with ⟨between, rfl, -⟩ | ⟨near, rfl, hmore⟩
    · rw [List.length_append] at hlow
      exact .inr ⟨by omega, by omega⟩
    · rcases List.append_eq_append_iff.mp hmore with ⟨between, rfl, -⟩ | ⟨far, rfl, hgroup⟩
      · exact .inl ⟨front', group', between, rfl, hg', hlow, hhigh⟩
      · rcases hg.not_overlapping hg' rfl hgroup with rfl | rfl
        · rw [List.append_nil]
          rw [List.nil_append] at hhigh
          have := congrArg List.length hgroup
          rw [List.length_append] at this
          exact .inr ⟨hlow, by omega⟩
        · rw [List.append_nil] at hg' hhigh
          exact .inl ⟨front', near, [], by rw [List.append_nil], hg', hlow, hhigh⟩
  · rintro (⟨front', group', back, rfl, hg', hlow, hhigh⟩ | ⟨hlow, hhigh⟩)
    · exact ⟨front', group', back ++ group, by simp, hg', hlow, hhigh⟩
    · exact ⟨front, group, [], by simp, hg, hlow, hhigh⟩

theorem InGroup.lt (h : InGroup ts i) : i < ts.length := by
  obtain ⟨front, group, back, rfl, -, -, hhigh⟩ := h
  simp only [List.length_append]
  omega

end

/-- A token of a kind stands at this place. The kind may depend on the tokens before. -/
def StandsAt (p : List Token → Token → Prop) (ts : List Token) (i : Nat) : Prop :=
  ∃ front t back, ts = front ++ t :: back ∧ front.length = i ∧ p front t

/-- The token stands in no closed group. -/
def StandsOutside (p : List Token → Token → Prop) (ts : List Token) (i : Nat) : Prop :=
  StandsAt p ts i ∧ ¬ InGroup ts i

section
variable {p : List Token → Token → Prop} {front group ts : List Token} {t : Token} {i : Nat}

theorem StandsAt.lt (h : StandsAt p ts i) : i < ts.length := by
  obtain ⟨front, t, back, rfl, rfl, -⟩ := h
  simp

theorem StandsAt.append (h : StandsAt p ts i) (more : List Token) : StandsAt p (ts ++ more) i := by
  obtain ⟨front, t, back, rfl, hi, ht⟩ := h
  exact ⟨front, t, back ++ more, by simp, hi, ht⟩

theorem StandsAt.of_append (h : StandsAt p (front ++ ts) i) (hi : i < front.length) :
    StandsAt p front i := by
  obtain ⟨front', t, back, hs, rfl, ht⟩ := h
  rcases List.append_eq_append_iff.mp hs with ⟨between, rfl, -⟩ | ⟨near, rfl, hmore⟩
  · rw [List.length_append] at hi
    omega
  · cases near with
    | nil => simp at hi
    | cons u near =>
      obtain ⟨rfl, -⟩ := List.cons.inj hmore
      exact ⟨front', t, near, rfl, rfl, ht⟩

theorem standsAt_concat : StandsAt p (ts ++ [t]) i ↔ StandsAt p ts i ∨ i = ts.length ∧ p ts t := by
  constructor
  · intro h
    rcases Nat.lt_or_ge i ts.length with hi | hi
    · exact .inl (h.of_append hi)
    · obtain ⟨front, u, back, hs, rfl, hu⟩ := h
      have hback : back = [] := by
        have hlength := congrArg List.length hs
        simp only [List.length_append, List.length_cons, List.length_nil] at hlength
        exact List.eq_nil_of_length_eq_zero (by omega)
      rw [hback] at hs
      obtain ⟨rfl, hlast⟩ := List.append_inj' hs rfl
      obtain rfl := List.singleton_inj.mp hlast
      exact .inr ⟨rfl, hu⟩
  · rintro (h | ⟨rfl, ht⟩)
    · exact h.append [t]
    · exact ⟨ts, t, [], rfl, rfl, ht⟩

/-- What closes no parenthesis leaves all places where they are. -/
theorem standsOutside_concat (hc : t.isMark ')' = false) :
    StandsOutside p (ts ++ [t]) i ↔ StandsOutside p ts i ∨ i = ts.length ∧ p ts t := by
  rw [StandsOutside, StandsOutside, standsAt_concat, inGroup_concat hc]
  constructor
  · rintro ⟨h | h, hout⟩
    · exact .inl ⟨h, hout⟩
    · exact .inr h
  · rintro (h | ⟨rfl, ht⟩)
    · exact ⟨.inl h.1, h.2⟩
    · exact ⟨.inr ⟨rfl, ht⟩, fun hin => absurd hin.lt (Nat.lt_irrefl _)⟩

/-- A group adds nothing to the places outside of groups. -/
theorem standsOutside_append (hg : IsGroup group) :
    StandsOutside p (front ++ group) i ↔ StandsOutside p front i := by
  rw [StandsOutside, StandsOutside, inGroup_append hg]
  constructor
  · rintro ⟨h, hout⟩
    rw [not_or] at hout
    have hlength := h.lt
    rw [List.length_append] at hlength
    exact ⟨h.of_append (by omega), hout.1⟩
  · rintro ⟨h, hout⟩
    refine ⟨h.append group, ?_⟩
    rintro (hin | ⟨hlow, -⟩)
    · exact hout hin
    · exact absurd h.lt (Nat.not_lt.mpr hlow)

end

/-- The last place of its kind, if there is one at all. -/
def IsLast (p : Nat → Prop) : Option Nat → Prop
  | none => ∀ i, ¬ p i
  | some i => p i ∧ ∀ j, p j → j ≤ i

namespace IsLast

variable {p q : Nat → Prop} {place : Option Nat}

theorem congr (h : IsLast p place) (hpq : ∀ i, q i ↔ p i) : IsLast q place := by
  cases place with
  | none => exact fun i hi => h i ((hpq i).mp hi)
  | some i => exact ⟨(hpq i).mpr h.1, fun j hj => h.2 j ((hpq j).mp hj)⟩

/-- What holds from some place on can be asked of the last place alone. -/
theorem filter (h : IsLast p place) {b : Nat → Bool}
    (hb : ∀ i j, b i = true → i ≤ j → b j = true) :
    IsLast (fun i => p i ∧ b i = true) (place.filter b) := by
  cases place with
  | none => exact fun i hi => h i hi.1
  | some i =>
    cases hi : b i with
    | true =>
      rw [Option.filter_some_pos hi]
      exact ⟨⟨h.1, hi⟩, fun j hj => h.2 j hj.1⟩
    | false =>
      rw [Option.filter_some_neg (by simp [hi])]
      rintro j ⟨hj, hbj⟩
      rw [hb j i hbj (h.2 j hj)] at hi
      contradiction

section
variable {p : List Token → Token → Prop} {ts : List Token} {t : Token}

theorem concat_of (hc : t.isMark ')' = false) (ht : p ts t) :
    IsLast (StandsOutside p (ts ++ [t])) (some ts.length) := by
  refine ⟨(standsOutside_concat hc).mpr (.inr ⟨rfl, ht⟩), fun j hj => ?_⟩
  have hlt := hj.1.lt
  rw [List.length_append, List.length_singleton] at hlt
  omega

theorem concat_of_not (h : IsLast (StandsOutside p ts) place) (hc : t.isMark ')' = false)
    (ht : ¬ p ts t) : IsLast (StandsOutside p (ts ++ [t])) place :=
  h.congr fun i => by rw [standsOutside_concat hc, or_iff_left fun hi => ht hi.2]

end

end IsLast

end SqlShell.Proofs
