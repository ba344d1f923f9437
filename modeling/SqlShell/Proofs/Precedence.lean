import SqlShell.Proofs.Ranking

namespace SqlShell.Proofs

/-- Texts stand in the order of their units. -/
theorem before_iff {s t : Text} : Text.before s t = true ↔ s < t := by
  fun_induction Text.before s t with
  | case1 s => simp
  | case2 v t => simp
  | case3 s v t ih => simp [ih]
  | case4 u s v t h => simp [List.cons_lt_cons_iff, h]

/-- Higher priority first, then by the name that orders a candidate, then by its text. -/
def InOrder (a b : Ranked) : Prop :=
  b.candidate.priority < a.candidate.priority ∨
    a.candidate.priority = b.candidate.priority ∧
      (a.key < b.key ∨ a.key = b.key ∧ a.candidate.text ≤ b.candidate.text)

theorem le_iff {a b : Ranked} : Ranked.le a b = true ↔ InOrder a b := by
  rw [Ranked.le, InOrder]
  by_cases hp : a.candidate.priority = b.candidate.priority
  · by_cases hk : a.key = b.key
    · have hirrefl : ¬ b.key < b.key := Std.lt_irrefl
      have htext : ¬ b.candidate.text < a.candidate.text ↔
          a.candidate.text ≤ b.candidate.text := Std.not_lt
      simp [hp, hk, hirrefl, ← htext, ← before_iff]
    · simp [hp, hk, before_iff]
  · simp [hp]

theorem InOrder.trans {a b c : Ranked} (hab : InOrder a b) (hbc : InOrder b c) : InOrder a c := by
  unfold InOrder at *
  grind

theorem inOrder_total (a b : Ranked) : InOrder a b ∨ InOrder b a := by
  unfold InOrder
  grind

theorem InOrder.priority {a b : Ranked} (h : InOrder a b) :
    b.candidate.priority ≤ a.candidate.priority := by
  rcases h with h | ⟨h, -⟩ <;> omega

theorem ranked_trans (a b c : Ranked) (hab : a.le b = true) (hbc : b.le c = true) :
    a.le c = true := le_iff.mpr ((le_iff.mp hab).trans (le_iff.mp hbc))

theorem ranked_total (a b : Ranked) : (a.le b || b.le a) = true := by
  rw [Bool.or_eq_true, le_iff, le_iff]
  exact inOrder_total a b

theorem sorted_ranked (rs : List Ranked) : (rs.mergeSort Ranked.le).Pairwise InOrder :=
  (List.pairwise_mergeSort ranked_trans ranked_total rs).imp le_iff.mp

section
variable [BEq κ] {key : α → κ}

theorem distinctBy_sublist (items : List α) : (distinctBy key items).Sublist items := by
  induction items with
  | nil => exact .slnil
  | cons a items ih =>
    rw [distinctBy]
    exact (List.filter_sublist.trans ih).cons_cons a

theorem distinctBy_nodup [LawfulBEq κ] (items : List α) :
    ((distinctBy key items).map key).Nodup := by
  induction items with
  | nil => exact List.nodup_nil
  | cons a items ih =>
    rw [distinctBy, List.map_cons, List.nodup_cons]
    constructor
    · intro hm
      obtain ⟨b, hb, he⟩ := List.mem_map.mp hm
      have hne := (List.mem_filter.mp hb).2
      rw [he] at hne
      simp at hne
    · exact (List.filter_sublist.map key).nodup ih

theorem distinctBy_map (f : β → α) (items : List β) :
    distinctBy key (items.map f) = (distinctBy (key ∘ f) items).map f := by
  induction items with
  | nil => rfl
  | cons b items ih =>
    rw [List.map_cons, distinctBy, distinctBy, ih, List.filter_map, List.map_cons]
    rfl

/-- What is kept comes before the others that are the same. -/
theorem first_of_distinctBy [LawfulBEq κ] {R : α → α → Prop} {items : List α} {a b : α}
    (hr : items.Pairwise R) (ha : a ∈ items) (hb : b ∈ distinctBy key items)
    (he : key a = key b) : a = b ∨ R b a := by
  induction items with
  | nil => contradiction
  | cons first items ih =>
    obtain ⟨hfirst, hrest⟩ := List.pairwise_cons.mp hr
    rw [distinctBy] at hb
    rcases List.mem_cons.mp hb with rfl | hb
    · rcases List.mem_cons.mp ha with rfl | ha
      · exact .inl rfl
      · exact .inr (hfirst a ha)
    · obtain ⟨hb, hne⟩ := List.mem_filter.mp hb
      rcases List.mem_cons.mp ha with rfl | ha
      · rw [he] at hne
        simp at hne
      · exact ih hrest ha hb

end

/-- One of the proposals fits the typed word in this way. -/
def Accepted (substrings : Bool) (typed : Text) (proposals : List Proposal) (p : Proposal)
    (m : Candidate.Match) : Prop :=
  p ∈ proposals ∧ p.match? typed substrings = some m

section
variable {casing : KeywordCasing} {substrings : Bool} {typed : Text} {proposals : List Proposal}

theorem bonus_bounds (a : Proposal.Source) : 100 ≤ a.bonus ∧ a.bonus ≤ 400 := by
  cases a <;> decide

/-- The bonus of a source never makes up for a worse match. -/
theorem tier_dominates {m n : Candidate.Match} {a b : Proposal.Source}
    (h : m.tier + a.bonus ≤ n.tier + b.bonus) : m.tier ≤ n.tier := by
  have ha := bonus_bounds a
  have hb := bonus_bounds b
  cases m <;> cases n <;> simp only [Candidate.Match.tier] at h ⊢ <;> omega

/-- The list that is offered, with the names that order it. -/
theorem rank_eq (casing : KeywordCasing) (substrings : Bool) (typed : Text)
    (proposals : List Proposal) :
    Candidate.rank casing substrings typed proposals =
      (distinctBy (fun r => r.candidate.identity)
        ((Candidate.ranked casing substrings typed proposals).mergeSort Ranked.le)).map
          Ranked.candidate :=
  distinctBy_map Ranked.candidate _

theorem accepted_of_rank {c : Candidate}
    (hc : c ∈ Candidate.rank casing substrings typed proposals) :
    ∃ p m, Accepted substrings typed proposals p m ∧ c = p.candidate casing typed m := by
  obtain ⟨p, hp, m, hm, rfl⟩ := proposal_of_rank hc
  exact ⟨p, m, ⟨hp, hm⟩, rfl⟩

theorem rank_of_accepted {p : Proposal} {m : Candidate.Match}
    (h : Accepted substrings typed proposals p m) :
    ∃ c ∈ Candidate.rank casing substrings typed proposals,
      c.identity = (p.candidate casing typed m).identity := by
  have hm : (p.match? typed substrings).isSome = true := by rw [h.2]; rfl
  have hcovers : ∃ c ∈ Candidate.rank casing substrings typed proposals,
      c.kind = (p.candidate casing typed m).kind ∧ c.text = (p.candidate casing typed m).text :=
    rank_covers h.1 (match_isSome.mp hm)
  obtain ⟨c, hc, hkind, htext⟩ := hcovers
  exact ⟨c, hc, Prod.ext htext hkind⟩

/-- Of several proposals for the same offer the one of the highest priority is kept. -/
theorem best_of_rank {c : Candidate} {p : Proposal} {m : Candidate.Match}
    (hc : c ∈ Candidate.rank casing substrings typed proposals)
    (h : Accepted substrings typed proposals p m)
    (he : (p.candidate casing typed m).identity = c.identity) : p.score m ≤ c.priority := by
  rw [rank_eq] at hc
  obtain ⟨r, hr, rfl⟩ := List.mem_map.mp hc
  have hp : ⟨p.name.lower, p.candidate casing typed m⟩ ∈
      (Candidate.ranked casing substrings typed proposals).mergeSort Ranked.le :=
    List.mem_mergeSort.mpr (mem_ranked.mpr ⟨p, h.1, m, h.2, rfl⟩)
  rcases first_of_distinctBy (sorted_ranked _) hp hr he with rfl | hle
  · exact Nat.le_refl _
  · exact hle.priority

theorem front_before_inside {cs : List Candidate}
    (h : cs.Pairwise (fun a b => b.priority ≤ a.priority))
    (hcs : ∀ c ∈ cs, ∃ p m, Accepted substrings typed proposals p m ∧
      c = p.candidate casing typed m) :
    cs.Pairwise (fun a b => b.matched = .front → a.matched ≠ .inside) := by
  refine h.imp_of_mem ?_
  intro a b ha hb hle hfront hinside
  obtain ⟨p, m, -, rfl⟩ := hcs a ha
  obtain ⟨q, n, -, rfl⟩ := hcs b hb
  have htier : n.tier ≤ m.tier := tier_dominates hle
  rw [show n = .front from hfront, show m = .inside from hinside] at htier
  exact absurd htier (by decide)

end

/-- What is offered is what fits the typed word: each offer is made for such a proposal, each such
proposal comes to an offer of its text and kind, and it is made once, with the highest priority it
has. Offers stand by falling priority, so that names which begin with the typed word come before
those that only contain it, and then by the small letters of the name they are made for and by
their text. -/
theorem offers_best_in_order (casing : KeywordCasing) (substrings : Bool) (typed : Text)
    (proposals : List Proposal) :
    let cs := Candidate.rank casing substrings typed proposals
    (∀ c ∈ cs, ∃ p m, Accepted substrings typed proposals p m ∧
      c = p.candidate casing typed m) ∧
    (∀ p m, Accepted substrings typed proposals p m → ∃ c ∈ cs,
      c.identity = (p.candidate casing typed m).identity) ∧
    (cs.map Candidate.identity).Nodup ∧
    (∀ c ∈ cs, ∀ p m, Accepted substrings typed proposals p m →
      (p.candidate casing typed m).identity = c.identity → p.score m ≤ c.priority) ∧
    cs.Pairwise (fun a b => b.priority ≤ a.priority) ∧
    cs.Pairwise (fun a b => b.matched = .front → a.matched ≠ .inside) ∧
    ∃ rs : List Ranked, cs = rs.map Ranked.candidate ∧ rs.Pairwise InOrder ∧
      ∀ r ∈ rs, ∃ p m, Accepted substrings typed proposals p m ∧
        r = ⟨p.name.lower, p.candidate casing typed m⟩ := by
  intro cs
  let sorted := (Candidate.ranked casing substrings typed proposals).mergeSort Ranked.le
  let rs := distinctBy (fun r : Ranked => r.candidate.identity) sorted
  have hcs : cs = rs.map Ranked.candidate := rank_eq casing substrings typed proposals
  have hkept : rs.Sublist sorted := distinctBy_sublist sorted
  have horder : rs.Pairwise InOrder := (sorted_ranked _).sublist hkept
  have hpriority : cs.Pairwise (fun a b => b.priority ≤ a.priority) := by
    rw [hcs, List.pairwise_map]
    exact horder.imp InOrder.priority
  refine ⟨fun c => accepted_of_rank, fun p m => rank_of_accepted, distinctBy_nodup _,
    fun c hc p m => best_of_rank hc, hpriority,
    front_before_inside hpriority (fun c => accepted_of_rank), rs, hcs, horder, ?_⟩
  intro r hr
  obtain ⟨p, hp, m, hm, rfl⟩ := mem_ranked.mp (List.mem_mergeSort.mp (hkept.subset hr))
  exact ⟨p, m, ⟨hp, hm⟩, rfl⟩

end SqlShell.Proofs
