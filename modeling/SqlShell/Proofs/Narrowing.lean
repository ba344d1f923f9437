import SqlShell.Proofs.Precedence

namespace SqlShell.Proofs

/-- Items that pass a test can stand before items that fail it in one way only. -/
theorem cut_unique (test : α → Bool) {front back front' back' : List α}
    (h : front ++ back = front' ++ back')
    (hfront : ∀ a ∈ front, test a = true) (hback : ∀ a ∈ back, test a = false)
    (hfront' : ∀ a ∈ front', test a = true) (hback' : ∀ a ∈ back', test a = false) :
    front = front' ∧ back = back' := by
  have hpassing := congrArg (List.filter test) h
  rw [List.filter_append, List.filter_append, List.filter_eq_self.mpr hfront,
    List.filter_eq_self.mpr hfront', List.filter_eq_nil_iff.mpr (by simpa using hback),
    List.filter_eq_nil_iff.mpr (by simpa using hback'), List.append_nil,
    List.append_nil] at hpassing
  subst hpassing
  exact ⟨rfl, List.append_cancel_left h⟩

section
variable {le : α → α → Bool} (trans : ∀ a b c, le a b = true → le b c = true → le a c = true)
  (total : ∀ a b, (le a b || le b a) = true)
include trans total

theorem le_behind {a : α} {items front back : List α}
    (h : items.mergeSort le = front ++ a :: back) : ∀ b ∈ back, (!le a b) = false := by
  intro b hb
  have hsorted := List.pairwise_mergeSort trans total items
  rw [h] at hsorted
  have hle := (List.pairwise_cons.mp (List.pairwise_append.mp hsorted).2.1).1 b hb
  rw [hle]
  rfl

/-- An item that may not stand before any of a sorted list goes to its end. -/
theorem mergeSort_behind {a : α} {items : List α}
    (hsorted : items.Pairwise (fun b c => le b c = true)) (h : ∀ b ∈ items, le a b = false) :
    (a :: items).mergeSort le = items ++ [a] := by
  obtain ⟨front, back, hall, hrest, -⟩ := List.mergeSort_cons trans total a items
  rw [List.mergeSort_of_pairwise hsorted] at hrest
  have hback : back = [] := by
    apply List.eq_nil_iff_forall_not_mem.mpr
    intro b hb
    have hle := le_behind trans total hall b hb
    rw [h b (hrest ▸ List.mem_append_right front hb)] at hle
    contradiction
  rw [hall, hrest, hback, List.append_nil]

/-- Sorting keeps equal items in their order, so it makes no difference whether some items are left
out before or after it. -/
theorem mergeSort_filter (keep : α → Bool) (items : List α) :
    (items.filter keep).mergeSort le = (items.mergeSort le).filter keep := by
  induction items with
  | nil => rw [List.filter_nil, List.mergeSort_nil, List.filter_nil]
  | cons a items ih =>
    obtain ⟨front, back, hall, hrest, hfront⟩ := List.mergeSort_cons trans total a items
    rw [hrest, List.filter_append] at ih
    rw [hall, List.filter_append]
    by_cases hkeep : keep a = true
    · obtain ⟨front', back', hkept, hrest', hfront'⟩ :=
        List.mergeSort_cons trans total a (items.filter keep)
      -- the first item finds its place before all that it is not behind, with or without the others
      obtain ⟨rfl, rfl⟩ := cut_unique (fun b => !le a b) (hrest'.symm.trans ih) hfront'
        (le_behind trans total hkept) (fun b hb => hfront b (List.mem_filter.mp hb).1)
        (fun b hb => le_behind trans total hall b (List.mem_filter.mp hb).1)
      rw [List.filter_cons_of_pos hkeep, List.filter_cons_of_pos hkeep]
      exact hkept
    · rw [List.filter_cons_of_neg hkeep, List.filter_cons_of_neg hkeep, ih]

end

/-- Items that stand behind all that are kept may be left out before duplicates are removed. -/
theorem distinctBy_filter [BEq κ] {key : α → κ} {keep : α → Bool} {items : List α}
    (h : items.Pairwise (fun a b => keep b = true → keep a = true)) :
    distinctBy key (items.filter keep) = (distinctBy key items).filter keep := by
  induction items with
  | nil => rfl
  | cons a items ih =>
    obtain ⟨hfirst, hrest⟩ := List.pairwise_cons.mp h
    by_cases hkeep : keep a = true
    · rw [List.filter_cons_of_pos hkeep, distinctBy, distinctBy, List.filter_cons_of_pos hkeep,
        ih hrest, List.filter_filter, List.filter_filter]
      simp only [Bool.and_comm]
    · have hnone : ∀ b ∈ a :: items, ¬ keep b = true := by
        intro b hb
        rcases List.mem_cons.mp hb with rfl | hb
        · exact hkeep
        · exact fun ht => hkeep (hfirst b hb ht)
      have hkept : (distinctBy key (a :: items)).filter keep = [] :=
        List.filter_eq_nil_iff.mpr (fun b hb => hnone b (mem_distinctBy hb))
      rw [List.filter_eq_nil_iff.mpr hnone, hkept]
      rfl

/-- The typed word is not found inside the name. -/
def notInside (c : Candidate) : Bool := c.matched != .inside

section
variable {casing : KeywordCasing} {substrings : Bool} {typed : Text} {proposals : List Proposal}

/-- What each kind of match says of the typed word and the name. -/
theorem match_cases {p : Proposal} {m : Candidate.Match}
    (h : p.match? typed substrings = some m) :
    m = .untyped ∧ typed = [] ∨ m = .front ∧ typed ≠ [] ∧ typed.lower <+: p.name.lower ∨
      m = .inside ∧ typed ≠ [] ∧ ¬ typed.lower <+: p.name.lower := by
  obtain ⟨hof, -⟩ := Option.filter_eq_some_iff.mp h
  rw [Candidate.Match.of?] at hof
  split at hof
  · rename_i hempty
    exact .inl ⟨(Option.some.inj hof).symm, List.isEmpty_iff.mp hempty⟩
  · rename_i hsome
    rw [List.isEmpty_iff] at hsome
    split at hof
    · rename_i hfront
      exact .inr (.inl ⟨(Option.some.inj hof).symm, hsome, startsWith_iff.mp hfront⟩)
    · rename_i hfront
      rw [startsWith_iff] at hfront
      split at hof
      · exact .inr (.inr ⟨(Option.some.inj hof).symm, hsome, hfront⟩)
      · contradiction

theorem untyped_iff {p : Proposal} {m : Candidate.Match} (h : p.match? typed substrings = some m) :
    m = .untyped ↔ typed = [] := by
  rcases match_cases h with ⟨rfl, hm⟩ | ⟨rfl, hm, -⟩ | ⟨rfl, hm, -⟩ <;> simp [hm]

theorem begins_iff {p : Proposal} {m : Candidate.Match} (h : p.match? typed substrings = some m) :
    typed.lower <+: p.name.lower ↔ m ≠ .inside := by
  rcases match_cases h with ⟨rfl, rfl⟩ | ⟨rfl, -, hm⟩ | ⟨rfl, -, hm⟩
  · exact iff_of_true List.nil_prefix (by simp)
  · exact iff_of_true hm (by simp)
  · exact iff_of_false hm (by simp)

/-- Without substrings just those matches are missing that are inside the name. -/
theorem match_narrow (p : Proposal) (typed : Text) (substrings : Bool) :
    p.match? typed false = (p.match? typed substrings).filter (· != .inside) := by
  have haccepts : p.accepts false = fun m => p.accepts substrings m && m != .inside := by
    funext m
    cases m <;> simp [Proposal.accepts]
  rw [Proposal.match?, Proposal.match?, Option.filter_filter, haccepts]

theorem ranked_narrow (casing : KeywordCasing) (substrings : Bool) (typed : Text)
    (proposals : List Proposal) : Candidate.ranked casing false typed proposals =
      (Candidate.ranked casing substrings typed proposals).filter
        (fun r => notInside r.candidate) := by
  rw [Candidate.ranked, Candidate.ranked, List.filter_filterMap]
  congr 1
  funext p
  rw [match_narrow p typed substrings]
  cases p.match? typed substrings with
  | none => rfl
  | some m => cases m <;> rfl

/-- Once the typed word is only found inside names, it is so for the rest of the order. -/
theorem sorted_narrow :
    ((Candidate.ranked casing substrings typed proposals).mergeSort Ranked.le).Pairwise
      (fun r s => notInside s.candidate = true → notInside r.candidate = true) := by
  refine (sorted_ranked _).imp_of_mem ?_
  intro r s hr hs hle hlater
  obtain ⟨p, -, m, hm, rfl⟩ := mem_ranked.mp (List.mem_mergeSort.mp hr)
  obtain ⟨q, -, n, hn, rfl⟩ := mem_ranked.mp (List.mem_mergeSort.mp hs)
  have htier : n.tier ≤ m.tier := tier_dominates hle.priority
  have huntyped : n = .untyped ↔ m = .untyped := (untyped_iff hn).trans (untyped_iff hm).symm
  change (n != .inside) = true at hlater
  change (m != .inside) = true
  cases m <;> cases n <;> simp_all [Candidate.Match.tier]

/-- Substring matches stand behind all others and keep none of them away, whether they have been
taken up or not. -/
theorem rank_narrow (casing : KeywordCasing) (substrings : Bool) (typed : Text)
    (proposals : List Proposal) : Candidate.rank casing false typed proposals =
      (Candidate.rank casing substrings typed proposals).filter notInside := by
  rw [rank_eq, rank_eq, ranked_narrow casing substrings,
    mergeSort_filter ranked_trans ranked_total, distinctBy_filter sorted_narrow, List.filter_map]
  rfl

end

/-- Asking for no substrings is the same as dropping those offers whose name only contains the typed
word: the others are offered in the same order and with the same details. -/
theorem rank_without_substrings (casing : KeywordCasing) (typed : Text)
    (proposals : List Proposal) : Candidate.rank casing false typed proposals =
      (Candidate.rank casing true typed proposals).filter (fun c => c.matched != .inside) :=
  rank_narrow casing true typed proposals

end SqlShell.Proofs
