import SqlShell.Proofs.Narrowing

namespace SqlShell.Proofs

/-- What the order of candidates looks at: priority, name and text. -/
def place (r : Ranked) : Nat × Text × Text := (r.candidate.priority, r.key, r.candidate.text)

/-- `InOrder` on places. -/
def PlaceBefore (x y : Nat × Text × Text) : Prop :=
  y.1 < x.1 ∨ x.1 = y.1 ∧ (x.2.1 < y.2.1 ∨ x.2.1 = y.2.1 ∧ x.2.2 ≤ y.2.2)

theorem inOrder_iff_place {a b : Ranked} : InOrder a b ↔ PlaceBefore (place a) (place b) := Iff.rfl

theorem InOrder.refl (a : Ranked) : InOrder a a := .inr ⟨rfl, .inr ⟨rfl, Std.le_refl _⟩⟩

/-- Only candidates of one place may stand either way round. -/
theorem PlaceBefore.antisymm {x y : Nat × Text × Text} (hxy : PlaceBefore x y)
    (hyx : PlaceBefore y x) : x = y := by
  obtain ⟨p, k, t⟩ := x
  obtain ⟨q, l, u⟩ := y
  unfold PlaceBefore at *
  grind

/-- The match of this priority; no bonus reaches from one tier to the next. -/
def matchOfPriority (n : Nat) : Candidate.Match :=
  if 20000 ≤ n then .front else if 10000 ≤ n then .inside else .untyped

theorem matchOfPriority_score (p : Proposal) (m : Candidate.Match) :
    matchOfPriority (p.score m) = m := by
  have hbonus := bonus_bounds p.source
  rw [matchOfPriority, Proposal.score]
  cases m with
  | front => exact if_pos (by simp only [Candidate.Match.tier]; omega)
  | inside =>
    rw [if_neg (by simp only [Candidate.Match.tier]; omega)]
    exact if_pos (by simp only [Candidate.Match.tier]; omega)
  | untyped =>
    rw [if_neg (by simp only [Candidate.Match.tier]; omega)]
    exact if_neg (by simp only [Candidate.Match.tier]; omega)

/-- The first candidate of each text and kind. -/
def firstOffers (rs : List Ranked) : List Ranked :=
  distinctBy (fun r : Ranked => r.candidate.identity) rs

/-- What an offer shows apart from its detail. -/
def offer (r : Ranked) : (Nat × Text × Text) × Candidate.Kind := (place r, r.candidate.kind)

/-- Kept are those that stand before all others of their text and kind, wherever they stood before
the list was sorted. -/
theorem mem_firstOffers {rs : List Ranked} (hs : rs.Pairwise InOrder)
    {x : (Nat × Text × Text) × Candidate.Kind} :
    x ∈ (firstOffers rs).map offer ↔ ∃ r ∈ rs, offer r = x ∧
      ∀ s ∈ rs, s.candidate.identity = r.candidate.identity → InOrder r s := by
  constructor
  · intro hx
    obtain ⟨r, hr, rfl⟩ := List.mem_map.mp hx
    refine ⟨r, mem_distinctBy hr, rfl, fun s hm he => ?_⟩
    rcases first_of_distinctBy hs hm hr he with rfl | h
    · exact .refl s
    · exact h
  · rintro ⟨r, hr, rfl, hfirst⟩
    obtain ⟨kept, hk, he⟩ := distinctBy_covers (fun r : Ranked => r.candidate.identity) hr
    have hback : InOrder kept r := by
      rcases first_of_distinctBy hs hr hk he.symm with rfl | h
      · exact .refl r
      · exact h
    have hplace : place kept = place r :=
      PlaceBefore.antisymm hback (hfirst kept (mem_distinctBy hk) he)
    have hkind : kept.candidate.kind = r.candidate.kind := (Prod.mk.inj he).2
    exact List.mem_map.mpr ⟨kept, hk, Prod.ext hplace hkind⟩

theorem nodup_firstOffers (rs : List Ranked) : ((firstOffers rs).map offer).Nodup := by
  have hidentity : ((firstOffers rs).map (fun r => r.candidate.identity)).Nodup :=
    distinctBy_nodup rs
  rw [List.Nodup, List.pairwise_map] at hidentity ⊢
  refine hidentity.imp fun {a b} hne he => hne ?_
  obtain ⟨hplace, hkind⟩ := Prod.mk.inj he
  have htext : a.candidate.text = b.candidate.text := congrArg (fun x => x.2.2) hplace
  exact Prod.ext htext hkind

section
variable {rs ss : List Ranked}

theorem firstOffers_perm (hr : rs.Pairwise InOrder) (hs : ss.Pairwise InOrder) (h : rs.Perm ss) :
    ((firstOffers rs).map offer).Perm ((firstOffers ss).map offer) := by
  apply (List.perm_ext_iff_of_nodup (nodup_firstOffers rs) (nodup_firstOffers ss)).mpr
  intro x
  rw [mem_firstOffers hr, mem_firstOffers hs]
  simp only [h.mem_iff]

theorem firstOffers_sorted (hr : rs.Pairwise InOrder) :
    ((firstOffers rs).map place).Pairwise PlaceBefore := by
  rw [List.pairwise_map]
  exact (hr.sublist (distinctBy_sublist rs)).imp inOrder_iff_place.mp

/-- Two sorted lists of the same places are the same one by one. -/
theorem firstOffers_places (hr : rs.Pairwise InOrder) (hs : ss.Pairwise InOrder)
    (h : rs.Perm ss) : (firstOffers rs).map place = (firstOffers ss).map place := by
  have hperm := (firstOffers_perm hr hs h).map Prod.fst
  rw [List.map_map, List.map_map] at hperm
  exact hperm.eq_of_pairwise (fun _ _ _ _ => PlaceBefore.antisymm) (firstOffers_sorted hr)
    (firstOffers_sorted hs)

end

section
variable {casing : KeywordCasing} {substrings : Bool} {typed : Text} {proposals : List Proposal}

/-- The proposals that fit, from the best to the worst. -/
def sortedProposals (casing : KeywordCasing) (substrings : Bool) (typed : Text)
    (proposals : List Proposal) : List Ranked :=
  (Candidate.ranked casing substrings typed proposals).mergeSort Ranked.le

theorem sortedProposals_perm {reordered : List Proposal} (h : proposals.Perm reordered) :
    (sortedProposals casing substrings typed proposals).Perm
      (sortedProposals casing substrings typed reordered) :=
  (List.mergeSort_perm _ _).trans ((h.filterMap _).trans (List.mergeSort_perm _ _).symm)

theorem matched_of_sorted {r : Ranked}
    (hr : r ∈ sortedProposals casing substrings typed proposals) :
    r.candidate.matched = matchOfPriority r.candidate.priority := by
  obtain ⟨p, -, m, -, rfl⟩ := mem_ranked.mp (List.mem_mergeSort.mp hr)
  exact (matchOfPriority_score p m).symm

/-- All that is shown of offers but their details can be read off their places and kinds. -/
theorem rank_view (casing : KeywordCasing) (substrings : Bool) (typed : Text)
    (view : Text → Candidate.Kind → Nat → Candidate.Match → α) (proposals : List Proposal) :
    (Candidate.rank casing substrings typed proposals).map
        (fun c => view c.text c.kind c.priority c.matched) =
      ((firstOffers (sortedProposals casing substrings typed proposals)).map offer).map
        (fun x => view x.1.2.2 x.2 x.1.1 (matchOfPriority x.1.1)) := by
  rw [rank_eq, List.map_map, List.map_map]
  apply List.map_congr_left
  intro r hr
  have hmatched := matched_of_sorted (mem_distinctBy hr)
  simp only [Function.comp_apply, hmatched, offer, place]

end

/-- Proposals in another order are offered with the same texts, priorities and matches, one by one,
and all in all with the same kinds. Kinds may change places only among offers of one text and one
priority. -/
theorem rank_reordered (casing : KeywordCasing) (substrings : Bool) (typed : Text)
    {proposals reordered : List Proposal} (h : proposals.Perm reordered) :
    let cs := Candidate.rank casing substrings typed proposals
    let ds := Candidate.rank casing substrings typed reordered
    cs.map (fun c => (c.text, c.priority, c.matched)) =
      ds.map (fun c => (c.text, c.priority, c.matched)) ∧
    (cs.map (fun c => (c.text, c.kind, c.priority, c.matched))).Perm
      (ds.map (fun c => (c.text, c.kind, c.priority, c.matched))) ∧
    ∀ text priority,
      ((cs.filter (fun c => c.text = text ∧ c.priority = priority)).map Candidate.kind).Perm
        ((ds.filter (fun c => c.text = text ∧ c.priority = priority)).map Candidate.kind) := by
  intro cs ds
  have hsorted : (sortedProposals casing substrings typed proposals).Perm
      (sortedProposals casing substrings typed reordered) := sortedProposals_perm h
  have hplaces := firstOffers_places (sorted_ranked _) (sorted_ranked _) hsorted
  have hoffers := firstOffers_perm (sorted_ranked _) (sorted_ranked _) hsorted
  have hviews : (cs.map (fun c => (c.text, c.kind, c.priority, c.matched))).Perm
      (ds.map (fun c => (c.text, c.kind, c.priority, c.matched))) := by
    have hview := rank_view casing substrings typed (fun t k p m => (t, k, p, m))
    rw [hview, hview]
    exact hoffers.map _
  refine ⟨?_, hviews, fun text priority => ?_⟩
  · -- the kinds play no part here, so places are enough
    have hview := rank_view casing substrings typed (fun t _ p m => (t, p, m))
    rw [hview, hview, List.map_map, List.map_map]
    have hone := congrArg (List.map (fun x => (x.2.2, x.1, matchOfPriority x.1))) hplaces
    rw [List.map_map, List.map_map] at hone
    exact hone
  · have hkinds := (hviews.filter (fun x => x.1 = text ∧ x.2.2.1 = priority)).map (fun x => x.2.1)
    rw [List.filter_map, List.filter_map, List.map_map, List.map_map] at hkinds
    exact hkinds

/-- A column of two tables and an alias of its name: the order of the proposals decides whether the
column or the alias comes first and which of the two tables is shown. -/
theorem clashing_names_reordered :
    let keyword : Proposal := ⟨.keyword, "REPLACE", "REPLACE", .keyword, false, none⟩
    let column (table : Text) : Proposal :=
      ⟨.column, "replaced", "replaced", .scope, true, some table⟩
    let aliasName : Proposal := ⟨.aliasName, "replaced", "replaced", .scope, true, some "c"⟩
    let proposals := [keyword, column "a", column "b", aliasName]
    let reordered := [aliasName, column "b", column "a", keyword]
    let cs := Candidate.rank .lower true "rep" proposals
    let ds := Candidate.rank .lower true "rep" reordered
    proposals.Perm reordered ∧
      cs.map (fun c => (c.kind, c.detail)) =
        [(.column, some ("a" : Text)), (.aliasName, some ("c" : Text)), (.keyword, none)] ∧
      ds.map (fun c => (c.kind, c.detail)) =
        [(.aliasName, some ("c" : Text)), (.column, some ("b" : Text)), (.keyword, none)] ∧
      cs.map (fun c => (c.text, c.priority, c.matched)) =
        ds.map (fun c => (c.text, c.priority, c.matched)) := by
  intro keyword column aliasName proposals reordered cs ds
  have hsorted : (Candidate.ranked .lower true "rep" proposals).mergeSort Ranked.le =
      Candidate.ranked .lower true "rep" [column "a", column "b", aliasName, keyword] :=
    mergeSort_behind ranked_trans ranked_total (by decide +kernel) (by decide +kernel)
  have hsorted' : (Candidate.ranked .lower true "rep" reordered).mergeSort Ranked.le =
      Candidate.ranked .lower true "rep" reordered :=
    List.mergeSort_of_pairwise (by decide +kernel)
  refine ⟨by decide +kernel, ?_, ?_, ?_⟩
  · simp only [cs, Candidate.rank, hsorted]
    decide +kernel
  · simp only [ds, Candidate.rank, hsorted']
    decide +kernel
  · exact (rank_reordered .lower true "rep" (by decide +kernel)).1

end SqlShell.Proofs
