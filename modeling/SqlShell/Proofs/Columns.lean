import Mathlib.Data.List.Nodup
import SqlShell.Proofs.PlainWords
import SqlShell.Schema.Snapshot

namespace SqlShell.Proofs
open Text

/-- A name as a connection compares it. -/
def foldPlain (t : Text) : Text := t.map smallForm

theorem foldPlain_cons (u : CodeUnit) (t : Text) :
    foldPlain (u :: t) = smallForm u :: foldPlain t := rfl

def smallPoint (n : Nat) : Nat := if 0x41 ≤ n ∧ n ≤ 0x5A then n + 32 else n

theorem toNat_smallForm (u : CodeUnit) : (smallForm u).toNat = smallPoint u.toNat := by
  have hfirst : (unit 'A').toNat = 0x41 := by decide
  have hlast : (unit 'Z').toNat = 0x5A := by decide
  simp only [smallForm, smallPoint, UInt16.le_iff_toNat_le, hfirst, hlast]
  split
  · rw [UInt16.toNat_add]
    have hstep : (32 : CodeUnit).toNat = 32 := by decide
    omega
  · rfl

theorem smallPoint_beyond {n : Nat} (h : 0x5A < n) : smallPoint n = n := by
  rw [smallPoint, if_neg (by omega)]

theorem surrogate_smallForm (u : CodeUnit) :
    isHighSurrogate (smallForm u) = isHighSurrogate u ∧
      isLowSurrogate (smallForm u) = isLowSurrogate u := by
  constructor
  · rw [Bool.eq_iff_iff, high_iff, high_iff, toNat_smallForm, smallPoint]
    split
    · omega
    · rfl
  · rw [Bool.eq_iff_iff, low_iff, low_iff, toNat_smallForm, smallPoint]
    split
    · omega
    · rfl

theorem smallForm_beyond {u : CodeUnit} (h : 0x5A < u.toNat) : smallForm u = u :=
  UInt16.toNat_inj.mp ((toNat_smallForm u).trans (smallPoint_beyond h))

theorem points_foldPlain (t : Text) : points (foldPlain t) = (points t).map smallPoint := by
  induction t using points_induction with
  | nil => rfl
  | single u t hu ih =>
    have hfold : ¬ OpensPair (smallForm u) (foldPlain t) := by
      cases t with
      | nil => exact fun h => Bool.noConfusion h.2
      | cons v t => simpa [OpensPair, foldPlain_cons, surrogate_smallForm] using hu
    rw [points_cons hu, foldPlain_cons, points_cons hfold, toNat_smallForm, List.map_cons, ih]
  | pair u v t hu hv ih =>
    have hlow := high_iff.mp hu
    have hlow' := low_iff.mp hv
    have hbound := (pairPoint_bounds hu hv).1
    rw [points_pair hu hv, foldPlain_cons, foldPlain_cons, smallForm_beyond (by omega),
      smallForm_beyond (by omega), points_pair hu hv, List.map_cons, smallPoint_beyond (by omega),
      ih]

/-- What the tables of letter case say of a point and of its small form. -/
structure SamePoint (n m : Nat) : Prop where
  lower : lowerPoint n = lowerPoint m
  sigma : n = 0x3A3 ↔ m = 0x3A3
  ignorable : inRanges n caseIgnorableRanges = inRanges m caseIgnorableRanges
  cased : inRanges n casedRanges = inRanges m casedRanges

theorem samePoint (n : Nat) : SamePoint (smallPoint n) n := by
  rcases Nat.lt_or_ge n 0x80 with hplain | hbeyond
  · have hall : ∀ n < 0x80, lowerPoint (smallPoint n) = lowerPoint n ∧
        (smallPoint n = 0x3A3 ↔ n = 0x3A3) ∧
        inRanges (smallPoint n) caseIgnorableRanges = inRanges n caseIgnorableRanges ∧
        inRanges (smallPoint n) casedRanges = inRanges n casedRanges := by decide +kernel
    obtain ⟨hlower, hsigma, hignorable, hcased⟩ := hall n hplain
    exact ⟨hlower, hsigma, hignorable, hcased⟩
  · rw [smallPoint_beyond (by omega)]
    exact ⟨rfl, Iff.rfl, rfl, rfl⟩

theorem meetsCased_small (ns : List Nat) : meetsCased (ns.map smallPoint) = meetsCased ns := by
  induction ns with
  | nil => rfl
  | cons n ns ih =>
    have hn := samePoint n
    rw [List.map_cons, meetsCased, meetsCased, hn.ignorable, hn.cased, ih]

theorem lowerAfter_small (seen ns : List Nat) :
    lowerAfter (seen.map smallPoint) (ns.map smallPoint) = lowerAfter seen ns := by
  induction ns generalizing seen with
  | nil => rfl
  | cons n ns ih =>
    have hn := samePoint n
    have hrest := ih (n :: seen)
    rw [List.map_cons] at hrest
    simp only [List.map_cons, lowerAfter, hn.lower, hn.sigma, meetsCased_small, hrest]

/-- The case of ASCII letters is lost in small letters. -/
theorem lower_foldPlain (t : Text) : (foldPlain t).lower = t.lower := by
  rw [lower, lower, points_foldPlain]
  exact congrArg ofPoints (lowerAfter_small [] (points t))

theorem lower_of_folded {t t' : Text} (h : foldPlain t = foldPlain t') : t.lower = t'.lower := by
  rw [← lower_foldPlain t, h, lower_foldPlain]

/-- A table or a view with its columns in order. -/
abbrev Relation := Text × List Text

/-- The relations of a connection are told apart by their names. -/
def KeptApart (s : SchemaSnapshot) : Prop :=
  (s.relations.map (fun r => foldPlain r.1)).Nodup

instance (s : SchemaSnapshot) : Decidable (KeptApart s) :=
  inferInstanceAs (Decidable (List.Nodup _))

/-- The last relation whose name is this one in small letters. -/
def LastNamed (s : SchemaSnapshot) (q : Relation) (key : Text) : Prop :=
  ∃ before after, s.relations = before ++ q :: after ∧ q.1.lower = key ∧
    ∀ p ∈ after, p.1.lower ≠ key

/-- The relation stands last of those that a snapshot takes to be of one name, and to the
connection it has another name. -/
def Hides (s : SchemaSnapshot) (q r : Relation) : Prop :=
  LastNamed s q r.1.lower ∧ foldPlain q.1 ≠ foldPlain r.1

section
variable {s : SchemaSnapshot} {q r : Relation} {name : Text}

theorem columns_of_last (h : LastNamed s q name.lower) : s.columns name = q.2 := by
  obtain ⟨before, after, hs, hq, hafter⟩ := h
  have hfound : s.relations.reverse.find? (fun p => p.1.lower == name.lower) = some q := by
    rw [List.find?_eq_some_iff_append]
    refine ⟨beq_iff_eq.mpr hq, after.reverse, before.reverse, by simp [hs], fun p hp => ?_⟩
    simpa using hafter p (List.mem_reverse.mp hp)
  rw [SchemaSnapshot.columns, hfound]
  rfl

theorem exists_last (hr : r ∈ s.relations) : ∃ q ∈ s.relations, LastNamed s q r.1.lower := by
  have hsome : (s.relations.reverse.find? (fun p => p.1.lower == r.1.lower)).isSome = true :=
    List.find?_isSome.mpr ⟨r, List.mem_reverse.mpr hr, beq_self_eq_true _⟩
  obtain ⟨q, hq⟩ := Option.isSome_iff_exists.mp hsome
  have hm := List.mem_reverse.mp (List.mem_of_find?_eq_some hq)
  obtain ⟨hname, before, after, hs, hbefore⟩ := List.find?_eq_some_iff_append.mp hq
  refine ⟨q, hm, after.reverse, before.reverse, ?_, beq_iff_eq.mp hname, fun p hp => ?_⟩
  · rw [← List.reverse_reverse s.relations, hs]
    simp
  · simpa using hbefore p (List.mem_reverse.mp hp)

theorem KeptApart.unique (h : KeptApart s) (hq : q ∈ s.relations) (hr : r ∈ s.relations)
    (hname : foldPlain q.1 = foldPlain r.1) : q = r :=
  List.inj_on_of_nodup_map h hq hr hname

/-- Names of ASCII units only are the same to a snapshot if they are to the connection. -/
theorem not_hides_plain (hq : IsPlain q.1) (hr : IsPlain r.1) : ¬ Hides s q r := by
  rintro ⟨⟨-, -, -, hlower, -⟩, hname⟩
  rw [lower_plain hq, lower_plain hr] at hlower
  exact hname hlower

/-- A table or view has its own columns under its name in every case of the ASCII letters, unless
another one that stands behind it and has the same name in small letters has other columns. Only
names with other letters than those of ASCII can clash so. -/
theorem columns_own_iff_not_hidden (h : KeptApart s) (hr : r ∈ s.relations) :
    ((∀ name, foldPlain name = foldPlain r.1 → s.columns name = r.2) ↔
      ∀ q, Hides s q r → q.2 = r.2) ∧
    ∀ q, Hides s q r → ¬ (IsPlain q.1 ∧ IsPlain r.1) := by
  refine ⟨⟨fun hown q hq => ?_, fun hhidden name hname => ?_⟩,
    fun q hq hplain => not_hides_plain hplain.1 hplain.2 hq⟩
  · rw [← columns_of_last hq.1]
    exact hown r.1 rfl
  · obtain ⟨q, hm, hlast⟩ := exists_last hr
    have hcolumns : s.columns name = q.2 :=
      columns_of_last (by rwa [lower_of_folded hname])
    by_cases hsame : foldPlain q.1 = foldPlain r.1
    · rw [hcolumns, h.unique hm hr hsame]
    · rw [hcolumns, hhidden q ⟨hlast, hsame⟩]

end

/-- Under the name of the later one of two clashing tables its own columns are found. -/
theorem columns_of_later_table :
    let earlier : Relation := ("\u00c9", ["a"])
    let later : Relation := ("\u00e9", ["b"])
    let snapshot : SchemaSnapshot := .ofLists [earlier, later] [] [] [] [] [] 0
    KeptApart snapshot ∧ later ∈ snapshot.relations ∧
      ∀ name, foldPlain name = foldPlain later.1 → snapshot.columns name = later.2 := by
  intro earlier later snapshot
  have hapart : KeptApart snapshot := by decide +kernel
  have hlater : later ∈ snapshot.relations := by decide +kernel
  have hown : snapshot.columns later.1 = later.2 := by decide +kernel
  refine ⟨hapart, hlater, (columns_own_iff_not_hidden hapart hlater).1.mpr fun q hq => ?_⟩
  rw [← columns_of_last hq.1, hown]

/-- Under the name of the earlier one the columns of the later one are found. -/
theorem columns_of_earlier_table :
    let earlier : Relation := ("\u00c9", ["a"])
    let later : Relation := ("\u00e9", ["b"])
    let snapshot : SchemaSnapshot := .ofLists [earlier, later] [] [] [] [] [] 0
    KeptApart snapshot ∧ earlier ∈ snapshot.relations ∧
      snapshot.columns earlier.1 = later.2 ∧ later.2 ≠ earlier.2 := by
  decide +kernel

end SqlShell.Proofs
