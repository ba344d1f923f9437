import Mathlib.Data.List.DropRight
import SqlShell.Text.Blank

namespace SqlShell.Proofs

theorem dropEnd_of_last {p : CodeUnit → Bool} {t : Text}
    (h : ∀ u, t.getLast? = some u → p u = false) : Text.dropEndWhile p t = t := by
  refine List.rdropWhile_eq_self_iff.mpr fun hne hlast => ?_
  rw [h _ (List.getLast?_eq_some_getLast hne)] at hlast
  contradiction

theorem trimEnd_of_last {t : Text} (h : ∀ u, t.getLast? = some u → u.isBlank = false) :
    Text.trimEnd t = t := dropEnd_of_last h

theorem trimEnd_blank {t : Text} (h : ∀ u ∈ t, u.isBlank = true) : Text.trimEnd t = [] :=
  List.rdropWhile_eq_nil_iff.mpr h

theorem trimEnd_append {head : Text} (rest : Text)
    (h : ∀ u, head.getLast? = some u → u.isBlank = false) :
    Text.trimEnd (head ++ rest) = head ++ Text.trimEnd rest := by
  rw [Text.trimEnd, Text.trimEnd, Text.dropEndWhile, Text.dropEndWhile, List.reverse_append,
    List.dropWhile_append]
  split
  · rename_i hnil
    have hrest : rest.reverse.dropWhile CodeUnit.isBlank = [] := List.isEmpty_iff.mp hnil
    rw [hrest, List.reverse_nil, List.append_nil]
    exact trimEnd_of_last h
  · rw [List.reverse_append, List.reverse_reverse]

theorem trimStart_append {lead rest : Text} (hlead : ∀ u ∈ lead, u.isBlank = true)
    (hrest : ∀ v, rest.head? = some v → v.isBlank = false) :
    Text.trimStart (lead ++ rest) = rest := by
  rw [Text.trimStart, List.dropWhile_append_of_pos hlead]
  cases rest with
  | nil => rfl
  | cons v rest => rw [List.dropWhile_cons, hrest v rfl]; rfl

theorem trimStart_of_first {t : Text} (h : ∀ u, t.head? = some u → u.isBlank = false) :
    Text.trimStart t = t :=
  trimStart_append (fun _ hu => absurd hu List.not_mem_nil) h

theorem trimStart_within {t : Text} (more : Text) (h : Text.trimStart t ≠ []) :
    Text.trimStart (t ++ more) = Text.trimStart t ++ more := by
  rw [Text.trimStart] at h
  rw [Text.trimStart, List.dropWhile_append, if_neg (mt List.isEmpty_iff.mp h), Text.trimStart]

theorem trimEnd_front (t : Text) : Text.trimEnd t <+: t := List.rdropWhile_prefix _ t

theorem trimEnd_trimEnd (t : Text) : Text.trimEnd (Text.trimEnd t) = Text.trimEnd t :=
  List.rdropWhile_idempotent _ t

/-- What is trimmed at the start begins with no blank. -/
theorem head_trimStart {t : Text} {u : CodeUnit} (h : (Text.trimStart t).head? = some u) :
    u.isBlank = false := by
  have hno := List.head?_dropWhile_not CodeUnit.isBlank t
  rw [← Text.trimStart, h] at hno
  simpa using hno

theorem trim_trim (t : Text) : Text.trim (Text.trim t) = Text.trim t := by
  have hstart : Text.trimStart (Text.trimEnd (Text.trimStart t)) =
      Text.trimEnd (Text.trimStart t) := by
    have hhead : ∀ v, (Text.trimEnd (Text.trimStart t)).head? = some v → v.isBlank = false := by
      intro v hv
      obtain ⟨more, hmore⟩ := trimEnd_front (Text.trimStart t)
      refine head_trimStart (t := t) ?_
      rw [← hmore, List.head?_append, hv]
      rfl
    exact trimStart_of_first hhead
  rw [Text.trim, Text.trim, hstart, trimEnd_trimEnd]

theorem trimStart_blank {u : CodeUnit} (hu : u.isBlank = true) (t : Text) :
    Text.trimStart (u :: t) = Text.trimStart t := by
  rw [Text.trimStart, List.dropWhile_cons, hu]
  rfl

theorem trim_trimEnd (t : Text) : Text.trim (Text.trimEnd t) = Text.trim t := by
  induction t with
  | nil => rfl
  | cons u t ih =>
    cases hu : u.isBlank with
    | false =>
      have hlast : ∀ v, List.getLast? [u] = some v → v.isBlank = false := by
        intro v hv
        obtain rfl := Option.some.inj hv
        exact hu
      have hend : Text.trimEnd (u :: t) = u :: Text.trimEnd t := trimEnd_append t hlast
      have hstart (more : Text) : Text.trimStart (u :: more) = u :: more := by
        rw [Text.trimStart, List.dropWhile_cons, hu]
        rfl
      rw [Text.trim, Text.trim, hstart, hend, hstart, ← hend, trimEnd_trimEnd]
    | true =>
      have hskip : Text.trim (u :: t) = Text.trim t := by
        rw [Text.trim, Text.trim, trimStart_blank hu]
      rw [hskip, ← ih, Text.trimEnd, Text.dropEndWhile, List.reverse_cons, List.dropWhile_append]
      split
      · rename_i hnil
        have hrest : Text.trimEnd t = [] := by
          rw [Text.trimEnd, Text.dropEndWhile, List.isEmpty_iff.mp hnil]
          rfl
        rw [hrest, List.dropWhile_cons, hu]
        rfl
      · rw [List.reverse_append]
        show Text.trim (u :: Text.trimEnd t) = _
        rw [Text.trim, trimStart_blank hu, ← Text.trim]

theorem trim_subset (t : Text) : Text.trim t ⊆ t := fun _ hu =>
  (List.dropWhile_suffix _).subset ((trimEnd_front _).subset hu)

theorem trim_last {t : Text} {u : CodeUnit} (h : (Text.trim t).getLast? = some u) :
    u.isBlank = false := by
  rw [Text.trim, Text.trimEnd, Text.dropEndWhile, List.getLast?_reverse] at h
  have hd := List.head?_dropWhile_not CodeUnit.isBlank (Text.trimStart t).reverse
  rw [h] at hd
  simpa using hd

theorem trim_eq_nil {t : Text} : Text.trim t = [] ↔ ∀ u ∈ t, u.isBlank = true := by
  change List.rdropWhile CodeUnit.isBlank (t.dropWhile CodeUnit.isBlank) = [] ↔ _
  rw [List.rdropWhile_eq_nil_iff]
  constructor
  · intro h u hu
    rw [← List.takeWhile_append_dropWhile (p := CodeUnit.isBlank) (l := t)] at hu
    rcases List.mem_append.mp hu with hu | hu
    · exact List.mem_takeWhile_imp hu
    · exact h u hu
  · intro h u hu
    exact h u ((List.dropWhile_suffix _).subset hu)

end SqlShell.Proofs
