import SqlShell.Proofs.CodePoints
import SqlShell.Proofs.Precedence
import SqlShell.Token.Name

namespace SqlShell.Proofs
open Text

/-- The capital letter with two small forms, one of them for the end of a word. -/
def sigma : CodeUnit := unit '\u03A3'

/-- A capital sigma of the typed part ends a word there, but not in the whole text, of which `rest`
comes behind. The code points `seen` come before, nearest first. -/
def EndsWordEarly (seen : List Nat) (typed rest : Text) : Prop :=
  ∃ before after, typed = before ++ sigma :: after ∧
    meetsCased ((points before).reverse ++ seen) = true ∧ meetsCased (points after) = false ∧
    meetsCased (points (after ++ rest)) = true

theorem meetsCased_cons {n : Nat} {ns ms : List Nat}
    (h : meetsCased ns = true → meetsCased ms = true) (hn : meetsCased (n :: ns) = true) :
    meetsCased (n :: ms) = true := by
  rw [meetsCased] at hn ⊢
  by_cases hskip : inRanges n caseIgnorableRanges = true
  · rw [if_pos hskip] at hn ⊢
    exact h hn
  · rw [if_neg hskip] at hn ⊢
    exact hn

/-- A cased letter that comes first does so whatever stands behind it. -/
theorem meetsCased_append {t : Text} (rest : Text) (h : meetsCased (points t) = true) :
    meetsCased (points (t ++ rest)) = true := by
  induction t using points_induction with
  | nil => contradiction
  | single u t ht ih =>
    rw [points_cons ht] at h
    by_cases hp : OpensPair u (t ++ rest)
    · obtain ⟨rfl, hu, -⟩ := opensPair_append ht hp
      have hbounds := high_iff.mp hu
      have hout := surrogate_uncased hbounds.1 (by omega)
      simp [meetsCased, hout] at h
    · rw [List.cons_append, points_cons hp]
      exact meetsCased_cons ih h
  | pair u v t hu hv ih =>
    rw [points_pair hu hv] at h
    rw [List.cons_append, List.cons_append, points_pair hu hv]
    exact meetsCased_cons ih h

section
variable {u v : CodeUnit} {seen : List Nat} {typed rest : Text}

theorem not_opensPair_front {before after : Text} (h : ¬ OpensPair u (before ++ after)) :
    ¬ OpensPair u before := by
  rintro ⟨hu, hv⟩
  cases before with
  | nil => contradiction
  | cons v before => exact h ⟨hu, hv⟩

theorem sigma_not_surrogate : isHighSurrogate sigma = false ∧ isLowSurrogate sigma = false := by
  decide +kernel

theorem not_early_nil : ¬ EndsWordEarly seen [] rest := by
  rintro ⟨before, after, h, -⟩
  simp at h

theorem early_cons (h : ¬ OpensPair u typed) : EndsWordEarly seen (u :: typed) rest ↔
    (u = sigma ∧ meetsCased seen = true ∧ meetsCased (points typed) = false ∧
      meetsCased (points (typed ++ rest)) = true) ∨
    EndsWordEarly (u.toNat :: seen) typed rest := by
  constructor
  · rintro ⟨before, after, hsplit, hseen, hend, hmore⟩
    rcases List.cons_eq_append_iff.mp hsplit with ⟨rfl, hfirst⟩ | ⟨before, rfl, rfl⟩
    · obtain ⟨rfl, rfl⟩ := List.cons.inj hfirst
      exact .inl ⟨rfl, hseen, hend, hmore⟩
    · refine .inr ⟨before, after, rfl, ?_, hend, hmore⟩
      rw [points_cons (not_opensPair_front h), List.reverse_cons, List.append_assoc] at hseen
      exact hseen
  · rintro (⟨rfl, hseen, hend, hmore⟩ | ⟨before, after, rfl, hseen, hend, hmore⟩)
    · exact ⟨[], typed, rfl, hseen, hend, hmore⟩
    · refine ⟨u :: before, after, rfl, ?_, hend, hmore⟩
      rw [points_cons (not_opensPair_front h), List.reverse_cons, List.append_assoc]
      exact hseen

theorem early_pair (hu : isHighSurrogate u = true) (hv : isLowSurrogate v = true) :
    EndsWordEarly seen (u :: v :: typed) rest ↔
      EndsWordEarly (pairPoint u v :: seen) typed rest := by
  constructor
  · rintro ⟨before, after, hsplit, hseen, hend, hmore⟩
    rcases List.cons_eq_append_iff.mp hsplit with ⟨rfl, hfirst⟩ | ⟨before, rfl, hsecond⟩
    · obtain ⟨rfl, -⟩ := List.cons.inj hfirst
      simp [sigma_not_surrogate] at hu
    · rcases List.cons_eq_append_iff.mp hsecond with ⟨rfl, hfirst⟩ | ⟨before, rfl, rfl⟩
      · obtain ⟨rfl, -⟩ := List.cons.inj hfirst
        simp [sigma_not_surrogate] at hv
      · rw [points_pair hu hv, List.reverse_cons, List.append_assoc] at hseen
        exact ⟨before, after, rfl, hseen, hend, hmore⟩
  · rintro ⟨before, after, rfl, hseen, hend, hmore⟩
    refine ⟨u :: v :: before, after, rfl, ?_, hend, hmore⟩
    rw [points_pair hu hv, List.reverse_cons, List.append_assoc]
    exact hseen

theorem ofPoints_append (ms ns : List Nat) : ofPoints (ms ++ ns) = ofPoints ms ++ ofPoints ns :=
  List.flatMap_append

/-- The first half of a pair is its own small letter, also where it stands alone. -/
theorem lower_high (hu : isHighSurrogate u = true) :
    ofPoints (lowerAfter seen [u.toNat]) = [u] := by
  have hbounds := high_iff.mp hu
  rw [lowerAfter, if_neg (by omega), lowerPoint_surrogate hbounds.1 (by omega), lowerAfter,
    List.append_nil, ofPoints, List.flatMap_singleton, ofPoint_unit]

theorem lower_of_pair (hu : isHighSurrogate u = true) (hv : isLowSurrogate v = true) :
    ∃ w, ofPoints (lowerPoint (pairPoint u v)) = [u, w] := by
  obtain ⟨hpair, hhalf⟩ := pairPoint_bounds hu hv
  obtain ⟨m, hm, hbeyond, hsame⟩ := lowerPoint_pair hpair
  obtain ⟨w, hw⟩ := ofPoint_pair hbeyond
  have hbounds := high_iff.mp hu
  have hfirst : 0xD800 + (m - 0x10000) / 0x400 = u.toNat := by omega
  refine ⟨w, ?_⟩
  rw [hm, ofPoints, List.flatMap_singleton, hw, hfirst]
  simp

theorem sigma_iff : u.toNat = 0x3A3 ↔ u = sigma :=
  ⟨fun h => UInt16.toNat_inj.mp h, fun h => h ▸ rfl⟩

/-- A sigma that ends a word for both or for neither has one small form, and two different ones
otherwise. -/
theorem sigma_forms {ns ms : List Nat} (h : meetsCased ns = true → meetsCased ms = true)
    {s t : Text} :
    ofPoints (if meetsCased seen && !meetsCased ns then [0x3C2] else [0x3C3]) ++ s <+:
        ofPoints (if meetsCased seen && !meetsCased ms then [0x3C2] else [0x3C3]) ++ t ↔
      ¬ (meetsCased seen = true ∧ meetsCased ns = false ∧ meetsCased ms = true) ∧ s <+: t := by
  cases hseen : meetsCased seen <;> cases hn : meetsCased ns <;> cases hm : meetsCased ms <;>
    simp_all [ofPoints, ofPoint]

/-- The small letters of the beginning of a text are the beginning of its small letters, unless a
sigma ends a word too early. -/
theorem lower_begins_iff (seen : List Nat) (typed rest : Text) :
    ofPoints (lowerAfter seen (points typed)) <+:
        ofPoints (lowerAfter seen (points (typed ++ rest))) ↔
      ¬ EndsWordEarly seen typed rest := by
  induction typed using points_induction generalizing seen with
  | nil => exact iff_of_true List.nil_prefix not_early_nil
  | single u t ht ih =>
    by_cases hp : OpensPair u (t ++ rest)
    · obtain ⟨rfl, hu, v, more, rfl, hv⟩ := opensPair_append ht hp
      have hbounds := high_iff.mp hu
      have hmain : ofPoints (lowerAfter seen (points [u])) <+:
          ofPoints (lowerAfter seen (points ([u] ++ v :: more))) := by
        have hpoint := (pairPoint_bounds hu hv).1
        obtain ⟨w, hw⟩ := lower_of_pair hu hv
        rw [List.singleton_append, points_pair hu hv, points_cons ht, points, lower_high hu,
          lowerAfter, if_neg (by omega), ofPoints_append, hw]
        exact ⟨_, rfl⟩
      refine iff_of_true hmain (fun h => ?_)
      rcases (early_cons ht).mp h with ⟨rfl, -⟩ | h
      · simp [sigma_not_surrogate] at hu
      · exact not_early_nil h
    · rw [points_cons ht, List.cons_append, points_cons hp, lowerAfter, lowerAfter,
        ofPoints_append, ofPoints_append, early_cons ht, not_or]
      by_cases hu : u.toNat = 0x3A3
      · rw [if_pos hu, if_pos hu, sigma_forms (meetsCased_append rest), ih]
        simp only [sigma_iff.mp hu, true_and]
      · rw [if_neg hu, if_neg hu, List.prefix_append_right_inj, ih]
        have hsigma : u ≠ sigma := fun h => hu (sigma_iff.mpr h)
        simp only [hsigma, false_and, not_false_eq_true, true_and]
  | pair u v t hu hv ih =>
    have hpoint : pairPoint u v ≠ 0x3A3 := by
      have := (pairPoint_bounds hu hv).1
      omega
    rw [List.cons_append, List.cons_append, points_pair hu hv, points_pair hu hv, lowerAfter,
      lowerAfter, if_neg hpoint, if_neg hpoint, ofPoints_append, ofPoints_append,
      List.prefix_append_right_inj, ih, early_pair hu hv]

end

/-- The name is taken to begin with the typed word, and whatever else is proposed, something with
the text and the kind of this proposal is offered. -/
structure StaysOffered (p : Proposal) (typed : Text) : Prop where
  begins : Candidate.Match.of? p.name typed = some .front
  accepted : ∀ substrings, p.match? typed substrings = some .front
  offered : ∀ casing substrings proposals, p ∈ proposals →
    ∃ c ∈ Candidate.rank casing substrings typed proposals,
      c.identity = (p.candidate casing typed .front).identity

theorem front_iff {name typed : Text} (h : typed ≠ []) :
    Candidate.Match.of? name typed = some .front ↔ typed.lower <+: name.lower := by
  have hempty : typed.isEmpty = false := by simpa using h
  rw [Candidate.Match.of?, hempty, if_neg Bool.false_ne_true, startsWith_iff.symm]
  constructor
  · intro hfront
    split at hfront
    · assumption
    · split at hfront <;> simp at hfront
  · exact fun hprefix => if_pos hprefix

theorem staysOffered_of_front {p : Proposal} {typed : Text}
    (h : Candidate.Match.of? p.name typed = some .front) : StaysOffered p typed := by
  have haccepted (substrings : Bool) : p.match? typed substrings = some .front := by
    rw [Proposal.match?, h]
    rfl
  exact ⟨h, haccepted, fun casing substrings proposals hp =>
    rank_of_accepted ⟨hp, haccepted substrings⟩⟩

/-- While its own name is being typed a proposal stays among the offers, unless a capital sigma ends
a word at that moment that goes on in the name. -/
theorem stays_offered_iff {p : Proposal} {typed rest : Text} (hname : p.name = typed ++ rest)
    (htyped : typed ≠ []) : StaysOffered p typed ↔ ¬ EndsWordEarly [] typed rest := by
  have hbegins := lower_begins_iff [] typed rest
  have hfront : Candidate.Match.of? p.name typed = some .front ↔ typed.lower <+: p.name.lower :=
    front_iff htyped
  rw [hname] at hfront
  constructor
  · intro h
    have hof := h.begins
    rw [hname] at hof
    exact hbegins.mp (hfront.mp hof)
  · intro h
    apply staysOffered_of_front
    rw [hname]
    exact hfront.mpr (hbegins.mpr h)

/-- A sigma in front of an underscore ends a word in the typed part and in the name. -/
theorem street_stays_offered :
    let p : Proposal := ⟨.table, "ΟΔΟΣ_ΝΕΑ", escapeName "ΟΔΟΣ_ΝΕΑ", .schema, true, some "table"⟩
    p.name = Text.ofString "ΟΔΟΣ" ++ "_ΝΕΑ" ∧ Text.ofString "ΟΔΟΣ" ≠ [] ∧
      StaysOffered p "ΟΔΟΣ" := by
  intro p
  have hname : p.name = Text.ofString "ΟΔΟΣ" ++ "_ΝΕΑ" := by decide +kernel
  have htyped : Text.ofString "ΟΔΟΣ" ≠ [] := by decide +kernel
  exact ⟨hname, htyped, (stays_offered_iff hname htyped).mpr
    ((lower_begins_iff [] "ΟΔΟΣ" "_ΝΕΑ").mp (by decide +kernel))⟩

/-- A sigma inside a name is typed as the last letter for a moment, and then the name is offered no
more. -/
theorem sigma_hides_name :
    let p : Proposal := ⟨.table, "ΚΟΣΜΟΣ", escapeName "ΚΟΣΜΟΣ", .schema, true, some "table"⟩
    p.name = Text.ofString "ΚΟΣ" ++ "ΜΟΣ" ∧ Text.ofString "ΚΟΣ" ≠ [] ∧
      Candidate.Match.of? p.name "ΚΟΣ" = none ∧
      ∀ casing substrings, Candidate.rank casing substrings "ΚΟΣ" [p] = [] := by
  intro p
  have hnone : Candidate.Match.of? p.name "ΚΟΣ" = none := by decide +kernel
  refine ⟨by decide +kernel, by decide +kernel, hnone, fun casing substrings => ?_⟩
  rw [List.eq_nil_iff_forall_not_mem]
  intro c hc
  obtain ⟨q, m, ⟨hq, hm⟩, -⟩ := accepted_of_rank hc
  rw [List.mem_singleton.mp hq, Proposal.match?, hnone] at hm
  contradiction

end SqlShell.Proofs
