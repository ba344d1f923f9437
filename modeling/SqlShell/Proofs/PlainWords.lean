import Mathlib.Tactic.MkIffOfInductiveProp
import SqlShell.Candidate.Rank
import SqlShell.Proofs.CodePoints
import SqlShell.Token.Name

namespace SqlShell.Proofs
open Text

/-- ASCII units only. -/
def IsPlain (t : Text) : Prop := ∀ u ∈ t, u.toNat < 0x80

instance : DecidablePred IsPlain := fun t =>
  List.decidableBAll (fun u : CodeUnit => u.toNat < 0x80) t

def smallForm (u : CodeUnit) : CodeUnit := if unit 'A' ≤ u ∧ u ≤ unit 'Z' then u + 32 else u

def capitalForm (u : CodeUnit) : CodeUnit := if unit 'a' ≤ u ∧ u ≤ unit 'z' then u - 32 else u

/-- The unit has one small form and one capital form, whatever stands around it, and neither of
them makes a quote of it. -/
@[mk_iff]
structure ChangesAlone (u : CodeUnit) : Prop where
  single : isHighSurrogate u = false
  noSigma : u.toNat ≠ 0x3A3
  lower : lowerPoint u.toNat = [(smallForm u).toNat]
  upper : upperPoint u.toNat = [(capitalForm u).toNat]
  smallPlain : (smallForm u).toNat < 0x80
  capitalPlain : (capitalForm u).toNat < 0x80
  smallTwice : smallForm (smallForm u) = smallForm u
  smallOfCapital : smallForm (capitalForm u) = smallForm u
  smallQuote : closingQuote? (smallForm u) = closingQuote? u
  capitalQuote : closingQuote? (capitalForm u) = closingQuote? u

instance (u : CodeUnit) : Decidable (ChangesAlone u) :=
  decidable_of_iff' _ (changesAlone_iff u)

theorem changesAlone {u : CodeUnit} (hu : u.toNat < 0x80) : ChangesAlone u := by
  have hall : ∀ n < 0x80, ChangesAlone n.toUInt16 := by decide +kernel
  have h := hall u.toNat hu
  rwa [Nat.toUInt16_eq, UInt16.ofNat_toNat] at h

section
variable {t : Text}

theorem points_plain (h : IsPlain t) : points t = t.map UInt16.toNat := by
  induction t with
  | nil => rfl
  | cons u t ih =>
    obtain ⟨hu, ht⟩ := List.forall_mem_cons.mp h
    have hhigh := (changesAlone hu).single
    rw [points_cons (by simp [OpensPair, hhigh]), ih ht, List.map_cons]

theorem ofPoints_units (t : Text) : ofPoints (t.map UInt16.toNat) = t := by
  rw [ofPoints, List.flatMap_map]
  simp only [ofPoint_unit, List.flatMap_singleton']

theorem lower_plain (h : IsPlain t) : t.lower = t.map smallForm := by
  have hsmall (seen : List Nat) :
      lowerAfter seen (t.map UInt16.toNat) = (t.map smallForm).map UInt16.toNat := by
    induction t generalizing seen with
    | nil => rfl
    | cons u t ih =>
      obtain ⟨hu, ht⟩ := List.forall_mem_cons.mp h
      have hunit := changesAlone hu
      rw [List.map_cons, lowerAfter, if_neg hunit.noSigma, hunit.lower, ih ht]
      rfl
  rw [lower, points_plain h, hsmall, ofPoints_units]

theorem upper_plain (h : IsPlain t) : t.upper = t.map capitalForm := by
  have hcapital :
      (t.map UInt16.toNat).flatMap upperPoint = (t.map capitalForm).map UInt16.toNat := by
    induction t with
    | nil => rfl
    | cons u t ih =>
      obtain ⟨hu, ht⟩ := List.forall_mem_cons.mp h
      rw [List.map_cons, List.flatMap_cons, (changesAlone hu).upper, ih ht]
      rfl
  rw [upper, points_plain h, hcapital, ofPoints_units]

/-- The text begins with a mark that opens a quoted name. -/
def BeginsQuoted (t : Text) : Prop := t.head?.any (fun u => (closingQuote? u).isSome) = true

instance : DecidablePred BeginsQuoted := fun _ => inferInstanceAs (Decidable (_ = true))

theorem unquote_unquoted (h : ¬ BeginsQuoted t) : unquote t = t := by
  cases t with
  | nil => rfl
  | cons u t =>
    have hnone : closingQuote? u = none := by simpa [BeginsQuoted] using h
    rw [unquote, hnone]

theorem beginsQuoted_map {f : CodeUnit → CodeUnit}
    (hf : ∀ u ∈ t, closingQuote? (f u) = closingQuote? u) :
    BeginsQuoted (t.map f) ↔ BeginsQuoted t := by
  cases t with
  | nil => exact Iff.rfl
  | cons u t => simp [BeginsQuoted, hf u List.mem_cons_self]

theorem lower_lower_plain (h : IsPlain t) : t.lower.lower = t.lower := by
  have hsmall : IsPlain (t.map smallForm) :=
    List.forall_mem_map.mpr (fun u hu => (changesAlone (h u hu)).smallPlain)
  rw [lower_plain h, lower_plain hsmall, List.map_map]
  exact List.map_congr_left (fun u hu => (changesAlone (h u hu)).smallTwice)

theorem lower_upper_plain (h : IsPlain t) : t.upper.lower = t.lower := by
  have hcapital : IsPlain (t.map capitalForm) :=
    List.forall_mem_map.mpr (fun u hu => (changesAlone (h u hu)).capitalPlain)
  rw [upper_plain h, lower_plain hcapital, lower_plain h, List.map_map]
  exact List.map_congr_left (fun u hu => (changesAlone (h u hu)).smallOfCapital)

theorem apply_cases (casing : KeywordCasing) (typed t : Text) :
    casing.apply typed t = t.upper ∨ casing.apply typed t = t.lower := by
  cases casing with
  | upper => exact .inl rfl
  | lower => exact .inr rfl
  | auto =>
    dsimp only [KeywordCasing.apply]
    split
    · exact .inr rfl
    · exact .inl rfl

/-- A keyword is read as itself in whatever letter case it is inserted. -/
theorem recased_plain (casing : KeywordCasing) (typed : Text) (h : IsPlain t)
    (hquote : ¬ BeginsQuoted t) : (unquote (casing.apply typed t)).lower = t.lower := by
  rcases apply_cases casing typed t with happly | happly
  · have hopen : ¬ BeginsQuoted t.upper := by
      rwa [upper_plain h, beginsQuoted_map (fun u hu => (changesAlone (h u hu)).capitalQuote)]
    rw [happly, unquote_unquoted hopen, lower_upper_plain h]
  · have hopen : ¬ BeginsQuoted t.lower := by
      rwa [lower_plain h, beginsQuoted_map (fun u hu => (changesAlone (h u hu)).smallQuote)]
    rw [happly, unquote_unquoted hopen, lower_lower_plain h]

end

end SqlShell.Proofs
