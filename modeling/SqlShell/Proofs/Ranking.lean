import SqlShell.Candidate.Rank

namespace SqlShell.Proofs

section
variable [BEq κ] {key : α → κ} {items : List α} {a : α}

theorem mem_distinctBy (h : a ∈ distinctBy key items) : a ∈ items := by
  induction items with
  | nil => exact h
  | cons b items ih =>
    rw [distinctBy] at h
    rcases List.mem_cons.mp h with rfl | h
    · exact List.mem_cons_self
    · exact List.mem_cons_of_mem _ (ih (List.mem_filter.mp h).1)

theorem distinctBy_covers [LawfulBEq κ] (key : α → κ) (h : a ∈ items) :
    ∃ b ∈ distinctBy key items, key b = key a := by
  induction items with
  | nil => contradiction
  | cons first items ih =>
    rw [distinctBy]
    rcases List.mem_cons.mp h with rfl | h
    · exact ⟨a, List.mem_cons_self, rfl⟩
    · obtain ⟨b, hb, he⟩ := ih h
      cases hsame : key b == key first with
      | true => exact ⟨first, List.mem_cons_self, (eq_of_beq hsame).symm.trans he⟩
      | false =>
        have hkept : b ∈ (distinctBy key items).filter (fun c => !(key c == key first)) :=
          List.mem_filter.mpr ⟨hb, by rw [hsame]; rfl⟩
        exact ⟨b, List.mem_cons_of_mem _ hkept, he⟩

end

theorem startsWith_iff {part t : Text} : Text.startsWith part t = true ↔ part <+: t :=
  List.isPrefixOf_iff_prefix

theorem includes_iff {part t : Text} : Text.includes part t = true ↔ part <:+: t := by
  induction t with
  | nil => rw [Text.includes, List.isEmpty_iff, List.infix_nil]
  | cons u t ih =>
    rw [Text.includes, Bool.or_eq_true, startsWith_iff, ih, List.infix_cons_iff]

/-- Letter case aside, the name begins with the typed word, or contains it where that is enough. -/
def Fits (inside : Bool) (typed name : Text) : Prop :=
  typed.lower <+: name.lower ∨ inside = true ∧ typed.lower <:+: name.lower

theorem match_isSome {p : Proposal} {typed : Text} {substrings : Bool} :
    (p.match? typed substrings).isSome = true ↔ Fits (substrings && p.fuzzy) typed p.name := by
  rw [Proposal.match?, Candidate.Match.of?, Fits]
  by_cases htyped : typed.isEmpty = true
  · obtain rfl := List.isEmpty_iff.mp htyped
    exact iff_of_true rfl (.inl (List.nil_prefix))
  · rw [if_neg htyped]
    by_cases hfront : Text.startsWith typed.lower p.name.lower = true
    · rw [if_pos hfront]
      exact iff_of_true rfl (.inl (startsWith_iff.mp hfront))
    · rw [if_neg hfront]
      have hnot : ¬ typed.lower <+: p.name.lower := fun h => hfront (startsWith_iff.mpr h)
      by_cases hinside : Text.includes typed.lower p.name.lower = true
      · rw [if_pos hinside, Option.filter_some]
        have hin := includes_iff.mp hinside
        simp [Proposal.accepts, hnot, hin]
      · rw [if_neg hinside]
        have hout : ¬ typed.lower <:+: p.name.lower := fun h => hinside (includes_iff.mpr h)
        simp [hnot, hout]

section
variable {casing : KeywordCasing} {substrings : Bool} {typed : Text} {proposals : List Proposal}

theorem mem_ranked {r : Ranked} :
    r ∈ Candidate.ranked casing substrings typed proposals ↔
      ∃ p ∈ proposals, ∃ m, p.match? typed substrings = some m ∧
        r = ⟨p.name.lower, p.candidate casing typed m⟩ := by
  rw [Candidate.ranked, List.mem_filterMap]
  simp only [Option.map_eq_some_iff, @eq_comm Ranked r]

theorem proposal_of_rank {c : Candidate}
    (h : c ∈ Candidate.rank casing substrings typed proposals) :
    ∃ p ∈ proposals, ∃ m, p.match? typed substrings = some m ∧ c = p.candidate casing typed m := by
  obtain ⟨r, hr, rfl⟩ := List.mem_map.mp (mem_distinctBy h)
  obtain ⟨p, hp, m, hm, rfl⟩ := mem_ranked.mp (List.mem_mergeSort.mp hr)
  exact ⟨p, hp, m, hm, rfl⟩

theorem rank_singleton {p : Proposal} {m : Candidate.Match}
    (h : p.match? typed substrings = some m) :
    Candidate.rank casing substrings typed [p] = [p.candidate casing typed m] := by
  have hone : Candidate.ranked casing substrings typed [p] =
      [⟨p.name.lower, p.candidate casing typed m⟩] := by
    rw [Candidate.ranked, List.filterMap_cons, h]
    rfl
  rw [Candidate.rank, hone, List.mergeSort_singleton]
  rfl

theorem rank_covers {p : Proposal} (hp : p ∈ proposals)
    (hfits : Fits (substrings && p.fuzzy) typed p.name) :
    ∃ c ∈ Candidate.rank casing substrings typed proposals, c.kind = p.kind ∧
      c.text = if p.followsCasing then casing.apply typed p.text else p.text := by
  obtain ⟨m, hm⟩ := Option.isSome_iff_exists.mp (match_isSome.mpr hfits)
  have hr : ⟨p.name.lower, p.candidate casing typed m⟩ ∈
      Candidate.ranked casing substrings typed proposals := mem_ranked.mpr ⟨p, hp, m, hm, rfl⟩
  have hsorted : p.candidate casing typed m ∈
      ((Candidate.ranked casing substrings typed proposals).mergeSort Ranked.le).map
        Ranked.candidate :=
    List.mem_map_of_mem (f := Ranked.candidate) (List.mem_mergeSort.mpr hr)
  obtain ⟨c, hc, he⟩ := distinctBy_covers Candidate.identity hsorted
  obtain ⟨htext, hkind⟩ := Prod.mk.inj he
  exact ⟨c, hc, hkind, htext⟩

end

end SqlShell.Proofs
