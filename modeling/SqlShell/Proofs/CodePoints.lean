import SqlShell.Text.Case

namespace SqlShell.Proofs
open Text

/-- The unit and the one behind it are the halves of one code point. -/
def OpensPair (u : CodeUnit) (behind : Text) : Prop :=
  isHighSurrogate u = true ∧ behind.head?.any isLowSurrogate = true

/-- The code point of a surrogate pair. -/
def pairPoint (u v : CodeUnit) : Nat := 0x10000 + (u.toNat - 0xD800) * 0x400 + (v.toNat - 0xDC00)

theorem points_cons {u : CodeUnit} {rest : Text} (h : ¬ OpensPair u rest) :
    points (u :: rest) = u.toNat :: points rest := by
  cases rest with
  | nil => rfl
  | cons v rest =>
    have hpair : ¬ (isHighSurrogate u && isLowSurrogate v) = true := by
      simpa [OpensPair] using h
    rw [points, if_neg hpair]

theorem points_pair {u v : CodeUnit} {rest : Text} (hu : isHighSurrogate u = true)
    (hv : isLowSurrogate v = true) : points (u :: v :: rest) = pairPoint u v :: points rest := by
  rw [points, hu, hv]
  rfl

theorem high_iff {u : CodeUnit} :
    isHighSurrogate u = true ↔ 0xD800 ≤ u.toNat ∧ u.toNat ≤ 0xDBFF := by
  simp [isHighSurrogate, UInt16.le_iff_toNat_le]

theorem low_iff {u : CodeUnit} :
    isLowSurrogate u = true ↔ 0xDC00 ≤ u.toNat ∧ u.toNat ≤ 0xDFFF := by
  simp [isLowSurrogate, UInt16.le_iff_toNat_le]

/-- The first half of a pair tells the stretch of 0x400 code points that it lies in. -/
theorem pairPoint_bounds {u v : CodeUnit} (hu : isHighSurrogate u = true)
    (hv : isLowSurrogate v = true) :
    0x10000 ≤ pairPoint u v ∧ (pairPoint u v - 0x10000) / 0x400 = u.toNat - 0xD800 := by
  rw [high_iff] at hu
  rw [low_iff] at hv
  unfold pairPoint
  omega

/-- Texts are read by single units and by surrogate pairs. -/
theorem points_induction {P : Text → Prop} (nil : P [])
    (single : ∀ u t, ¬ OpensPair u t → P t → P (u :: t))
    (pair : ∀ u v t, isHighSurrogate u = true → isLowSurrogate v = true → P t → P (u :: v :: t))
    (t : Text) : P t := by
  fun_induction points t with
  | case1 => exact nil
  | case2 u => exact single u [] (by simp [OpensPair]) nil
  | case3 u v t hpair ih =>
    rw [Bool.and_eq_true] at hpair
    exact pair u v t hpair.1 hpair.2 ih
  | case4 u v t hpair ih => exact single u (v :: t) (by simpa [OpensPair] using hpair) ih

/-- A unit that is alone in a text can only become the first half of a pair at the end of it. -/
theorem opensPair_append {u : CodeUnit} {t rest : Text} (ht : ¬ OpensPair u t)
    (h : OpensPair u (t ++ rest)) : t = [] ∧ isHighSurrogate u = true ∧
      ∃ v more, rest = v :: more ∧ isLowSurrogate v = true := by
  cases t with
  | cons v t => exact absurd h ht
  | nil =>
    cases rest with
    | nil => exact absurd h ht
    | cons v more => exact ⟨rfl, h.1, v, more, rfl, by simpa [OpensPair] using h.2⟩

theorem range_of_inRanges {n : Nat} {ranges : List (Nat × Nat)} (h : inRanges n ranges = true) :
    ∃ r ∈ ranges, r.1 ≤ n ∧ n ≤ r.2 := by
  induction ranges with
  | nil => contradiction
  | cons r ranges ih =>
    obtain ⟨lo, hi⟩ := r
    simp only [inRanges, Bool.and_eq_true, Bool.or_eq_true, decide_eq_true_eq] at h
    obtain ⟨hlo, hhi | hmore⟩ := h
    · exact ⟨_, List.mem_cons_self, hlo, hhi⟩
    · obtain ⟨r, hr, hn⟩ := ih hmore
      exact ⟨r, List.mem_cons_of_mem _ hr, hn⟩

theorem run_of_applyRuns (n : Nat) (runs : List CaseRun) :
    applyRuns n runs = n ∨
      ∃ r ∈ runs, r.first ≤ n ∧ n ≤ r.last ∧ applyRuns n runs = (n + r.change).toNat := by
  induction runs with
  | nil => exact .inl rfl
  | cons r runs ih =>
    rw [applyRuns]
    split
    · exact .inl rfl
    · split
      · rename_i hfirst hmaps
        rw [CaseRun.maps, Bool.and_eq_true, decide_eq_true_eq] at hmaps
        exact .inr ⟨r, List.mem_cons_self, Nat.not_lt.mp hfirst, hmaps.1, rfl⟩
      · rcases ih with h | ⟨r', hr', hn⟩
        · exact .inl h
        · exact .inr ⟨r', List.mem_cons_of_mem _ hr', hn⟩

/-- A run of the table leaves surrogates out and stays on the pairs with one first half. -/
def KeepsSurrogates (r : CaseRun) : Prop :=
  r.last < 0xD800 ∨ 0xE000 ≤ r.first ∧ r.last < 0x10000 ∨
    0x10000 ≤ r.first ∧ 0 ≤ r.change ∧
      (r.first - 0x10000) / 0x400 = (r.last + r.change.toNat - 0x10000) / 0x400

instance (r : CaseRun) : Decidable (KeepsSurrogates r) :=
  inferInstanceAs (Decidable (_ ∨ _ ∨ _))

theorem lowerRuns_keep : ∀ r ∈ lowerRuns, KeepsSurrogates r := by decide +kernel

theorem ranges_skip_surrogates :
    ∀ r ∈ caseIgnorableRanges ++ casedRanges, r.2 < 0xD800 ∨ 0xE000 ≤ r.1 := by decide +kernel

theorem lowerPoint_single {n : Nat} (h : n ≠ 0x130) : lowerPoint n = [applyRuns n lowerRuns] := by
  have hnone : expansion? n lowerExpansions = none := by
    simp [lowerExpansions, expansion?, h]
  rw [lowerPoint, hnone]
  rfl

theorem lowerPoint_surrogate {n : Nat} (hlow : 0xD800 ≤ n) (hhigh : n ≤ 0xDFFF) :
    lowerPoint n = [n] := by
  rw [lowerPoint_single (by omega)]
  rcases run_of_applyRuns n lowerRuns with h | ⟨r, hr, hfirst, hlast, -⟩
  · rw [h]
  · have := lowerRuns_keep r hr
    unfold KeepsSurrogates at this
    omega

/-- The small form of a code point beyond the basic plane is written with the same first unit. -/
theorem lowerPoint_pair {n : Nat} (hn : 0x10000 ≤ n) :
    ∃ m, lowerPoint n = [m] ∧ 0x10000 ≤ m ∧ (m - 0x10000) / 0x400 = (n - 0x10000) / 0x400 := by
  refine ⟨applyRuns n lowerRuns, lowerPoint_single (by omega), ?_⟩
  rcases run_of_applyRuns n lowerRuns with h | ⟨r, hr, hfirst, hlast, h⟩
  · rw [h]
    exact ⟨hn, rfl⟩
  · have := lowerRuns_keep r hr
    unfold KeepsSurrogates at this
    rw [h]
    omega

theorem ofPoint_unit (u : CodeUnit) : ofPoint u.toNat = [u] := by
  have hu := u.toNat_lt
  rw [ofPoint, if_pos (by omega)]
  simp

theorem ofPoint_pair {m : Nat} (hm : 0x10000 ≤ m) :
    ∃ v, ofPoint m = [(0xD800 + (m - 0x10000) / 0x400).toUInt16, v] :=
  ⟨_, if_neg (by omega)⟩

theorem surrogate_uncased {n : Nat} (hlow : 0xD800 ≤ n) (hhigh : n ≤ 0xDFFF) :
    inRanges n caseIgnorableRanges = false ∧ inRanges n casedRanges = false := by
  have hskip : ∀ ranges ⊆ caseIgnorableRanges ++ casedRanges, inRanges n ranges = false := by
    intro ranges hsub
    apply Bool.eq_false_iff.mpr
    intro h
    obtain ⟨r, hr, hfirst, hlast⟩ := range_of_inRanges h
    have := ranges_skip_surrogates r (hsub hr)
    omega
  exact ⟨hskip _ (List.subset_append_left _ _), hskip _ (List.subset_append_right _ _)⟩

end SqlShell.Proofs
