import SqlShell.Client.Launch

namespace SqlShell.Proofs
open Prompt (placeholder expand renderFrom)

/-- A template cut at each placeholder, from the left; a placeholder belongs to no piece. -/
def pieces : Text → List Text
  | u :: v :: rest =>
    if u = unit '\\' && v = unit 'd' then [] :: pieces rest
    else (pieces (v :: rest)).modifyHead (u :: ·)
  | t => [t]

/-- The template with the name as it is for each placeholder. -/
def literalPrompt (template name : Text) : Text := Text.join name (pieces template)

/-- The marks that make a dollar sign before them a reference: to a dollar sign, to the placeholder,
and to what stands before and behind it. -/
def referenceMarks : List CodeUnit := [unit '$', unit '&', unit '\x60', unit '\x27']

def HasReference (name : Text) : Prop := ∃ mark ∈ referenceMarks, [unit '$', mark] <:+: name

theorem placeholder_eq : placeholder = [unit '\\', unit 'd'] := rfl

theorem pieces_ne_nil (t : Text) : pieces t ≠ [] := by
  fun_induction pieces t with
  | case1 u v rest h ih => simp
  | case2 u v rest h ih => simpa using ih
  | case3 t h => simp

theorem join_single (r p : Text) : Text.join r [p] = p := List.intercalate_singleton

theorem join_cons (r p q : Text) (ps : List Text) :
    Text.join r (p :: q :: ps) = p ++ (r ++ Text.join r (q :: ps)) := by
  simp [Text.join]

theorem join_nil (r : Text) {ps : List Text} (h : ps ≠ []) :
    Text.join r ([] :: ps) = r ++ Text.join r ps := by
  obtain ⟨p, ps, rfl⟩ := List.exists_cons_of_ne_nil h
  rw [join_cons, List.nil_append]

theorem join_modifyHead (r : Text) (u : CodeUnit) {ps : List Text} (h : ps ≠ []) :
    Text.join r (ps.modifyHead (u :: ·)) = u :: Text.join r ps := by
  obtain ⟨p, ps, rfl⟩ := List.exists_cons_of_ne_nil h
  rw [List.modifyHead_cons]
  cases ps with
  | nil => rw [join_single, join_single]
  | cons q ps => rw [join_cons, join_cons, List.cons_append]

theorem join_pieces (t : Text) : Text.join placeholder (pieces t) = t := by
  fun_induction pieces t with
  | case1 u v rest h ih =>
    obtain ⟨rfl, rfl⟩ : u = unit '\\' ∧ v = unit 'd' := by simpa using h
    rw [join_nil _ (pieces_ne_nil rest), ih]
    rfl
  | case2 u v rest h ih => rw [join_modifyHead _ _ (pieces_ne_nil _), ih]
  | case3 t h => exact join_single placeholder t

/-- The first piece ends where the template goes on with its first placeholder. -/
theorem first_piece {t p : Text} {ps : List Text} (h : pieces t = p :: ps) : p <+: t := by
  have hj := join_pieces t
  rw [h] at hj
  cases ps with
  | nil =>
    rw [join_single] at hj
    exact hj ▸ List.prefix_rfl
  | cons q ps =>
    rw [join_cons] at hj
    exact ⟨_, hj⟩

theorem pieces_absent (t : Text) : ∀ p ∈ pieces t, ¬ placeholder <:+: p := by
  fun_induction pieces t with
  | case1 u v rest h ih =>
    intro p hp
    rcases List.mem_cons.mp hp with rfl | hp
    · decide
    · exact ih p hp
  | case2 u v rest h ih =>
    obtain ⟨p, ps, hps⟩ := List.exists_cons_of_ne_nil (pieces_ne_nil (v :: rest))
    rw [hps] at ih ⊢
    intro q hq
    rcases List.mem_cons.mp hq with rfl | hq
    · rw [List.infix_cons_iff, not_or]
      refine ⟨?_, ih p List.mem_cons_self⟩
      -- a placeholder here would begin with the first two units of the template
      rintro ⟨more, hmore⟩
      rw [placeholder_eq, List.cons_append] at hmore
      obtain ⟨hu, hp⟩ := List.cons.inj hmore
      obtain ⟨behind, hrest⟩ := first_piece hps
      rw [← hp] at hrest
      have hv : unit 'd' = v := (List.cons.inj hrest).1
      exact h (by simp [← hu, ← hv])
    · exact ih q (List.mem_cons_of_mem _ hq)
  | case3 t h =>
    intro p hp hin
    obtain rfl := List.mem_singleton.mp hp
    have hlength := hin.length_le
    match p with
    | [] | [_] => simp [placeholder_eq] at hlength
    | u :: v :: rest => exact h u v rest rfl

theorem pieces_of_absent {t : Text} (h : ¬ placeholder <:+: t) : pieces t = [t] := by
  fun_induction pieces t with
  | case1 u v rest hu ih =>
    obtain ⟨rfl, rfl⟩ : u = unit '\\' ∧ v = unit 'd' := by simpa using hu
    exact absurd ⟨[], rest, rfl⟩ h
  | case2 u v rest hu ih =>
    rw [List.infix_cons_iff, not_or] at h
    rw [ih h.2]
    rfl
  | case3 t ht => rfl

theorem length_join (r p : Text) (ps : List Text) :
    (Text.join r (p :: ps)).length = (Text.join [] (p :: ps)).length + ps.length * r.length := by
  induction ps generalizing p with
  | nil => simp [join_single]
  | cons q ps ih =>
    rw [join_cons, join_cons]
    simp only [List.length_append, List.length_cons, List.length_nil, Nat.succ_mul, ih q]
    omega

section
variable {before after name : Text}

theorem HasReference.cons {u : CodeUnit} (h : HasReference name) : HasReference (u :: name) := by
  obtain ⟨mark, hmark, hin⟩ := h
  exact ⟨mark, hmark, hin.trans (List.suffix_cons u name).isInfix⟩

theorem hasReference_cons {u v : CodeUnit} (h : u = unit '$' → v ∉ referenceMarks) :
    HasReference (u :: v :: name) ↔ HasReference (v :: name) := by
  refine ⟨fun hr => ?_, .cons⟩
  obtain ⟨mark, hmark, hin⟩ := hr
  rcases List.infix_cons_iff.mp hin with hfront | hin
  · obtain ⟨hu, hv, -⟩ : unit '$' = u ∧ mark = v ∧ True := by simpa using hfront
    exact absurd (hv ▸ hmark) (h hu.symm)
  · exact ⟨mark, hmark, hin⟩

theorem hasReference_here {mark : CodeUnit} (h : mark ∈ referenceMarks) :
    HasReference (unit '$' :: mark :: name) := ⟨mark, h, [], name, rfl⟩

theorem expand_plain (h : ¬ HasReference name) : expand before after name = name := by
  fun_induction expand before after name with
  | case1 | case2 => rfl
  | case3 u v rest hu ih => rw [ih (mt HasReference.cons h)]
  | case4 u rest hu ih | case5 u rest hu _ ih | case6 u rest hu _ _ ih
  | case7 u rest hu _ _ _ ih =>
    obtain rfl : u = unit '$' := by simpa using hu
    exact absurd (hasReference_here (by decide)) h
  | case8 u v rest hu _ _ _ _ ih => rw [ih (mt HasReference.cons h)]

/-- With nothing around it, no reference gives more than two units. -/
theorem length_expand_alone (name : Text) : (expand [] [] name).length ≤ name.length := by
  fun_induction expand [] [] name with
  | case1 | case2 => exact Nat.le_refl _
  | case3 u v rest hu ih | case8 u v rest hu _ _ _ _ ih => exact Nat.succ_le_succ ih
  | case4 u rest hu ih | case5 u rest hu _ ih | case6 u rest hu _ _ ih
  | case7 u rest hu _ _ _ ih =>
    simp [placeholder_eq]
    omega

theorem expand_alone_iff : expand [] [] name = name ↔ ¬ HasReference name := by
  refine ⟨fun h => ?_, expand_plain⟩
  fun_induction expand [] [] name with
  | case1 | case2 =>
    rintro ⟨mark, -, hin⟩
    simpa using hin.length_le
  | case3 u v rest hu ih =>
    rw [hasReference_cons fun hd => absurd hd (by simpa using hu)]
    exact ih (List.cons.inj h).2
  | case8 u v rest hu hdollar hwhole hbefore hafter ih =>
    rw [hasReference_cons fun _ => by simp [referenceMarks, hdollar, hwhole, hbefore, hafter]]
    exact ih (List.cons.inj h).2
  | case4 u rest hu ih | case6 u rest hu _ _ ih | case7 u rest hu _ _ _ ih =>
    -- the reference is shorter than its two units, and nothing behind it makes up for that
    have hshort := length_expand_alone rest
    have hlength := congrArg List.length h
    simp at hlength
    omega
  | case5 u rest hu _ ih =>
    obtain rfl : u = unit '$' := by simpa using hu
    exact absurd (List.cons.inj h).1 (by decide)

/-- If a name is expanded to the same text everywhere, then this stands for each placeholder. -/
theorem renderFrom_fixed {text : Text} (h : ∀ before after, expand before after name = text)
    (before t : Text) : renderFrom name before t = Text.join text (pieces t) := by
  fun_induction renderFrom name before t with
  | case1 before u v rest hu ih =>
    obtain ⟨rfl, rfl⟩ : u = unit '\\' ∧ v = unit 'd' := by simpa using hu
    rw [h, ih]
    exact (join_nil text (pieces_ne_nil rest)).symm
  | case2 before u v rest hu ih =>
    have hpieces : pieces (u :: v :: rest) = (pieces (v :: rest)).modifyHead (u :: ·) := by
      rw [pieces, if_neg hu]
    rw [ih, hpieces, join_modifyHead text u (pieces_ne_nil _)]
  | case3 before t ht =>
    match t with
    | [] | [_] => exact (join_single text _).symm
    | u :: v :: rest => exact absurd rfl (ht u v rest)

theorem render_plain (h : ¬ HasReference name) (template : Text) :
    Prompt.render template name = literalPrompt template name :=
  renderFrom_fixed (fun _ _ => expand_plain h) [] template

theorem renderFrom_absent {t : Text} (h : ¬ placeholder <:+: t) :
    renderFrom name before t = t := by
  fun_induction renderFrom name before t with
  | case1 before u v rest hu ih =>
    obtain ⟨rfl, rfl⟩ : u = unit '\\' ∧ v = unit 'd' := by simpa using hu
    exact absurd ⟨[], rest, rfl⟩ h
  | case2 before u v rest hu ih =>
    rw [List.infix_cons_iff, not_or] at h
    rw [ih h.2]
  | case3 before t ht => rfl

/-- The lone placeholder shows what becomes of a name. -/
theorem render_placeholder (name : Text) :
    Prompt.render placeholder name = expand [] [] name ∧ literalPrompt placeholder name = name := by
  constructor
  · have hrender : Prompt.render placeholder name = expand [] [] name ++ [] := rfl
    rw [hrender, List.append_nil]
  · have hpieces : pieces placeholder = [[], []] := by decide
    rw [literalPrompt, hpieces]
    rw [join_cons, join_single, List.append_nil, List.nil_append]

/-- A name that is shortened wherever it stands shortens each template with a placeholder. -/
theorem absent_of_shortened {text : Text} (h : ∀ before after, expand before after name = text)
    (hlt : text.length < name.length) {template : Text}
    (heq : Prompt.render template name = literalPrompt template name) :
    ¬ placeholder <:+: template := by
  obtain ⟨p, ps, hps⟩ := List.exists_cons_of_ne_nil (pieces_ne_nil template)
  rw [Prompt.render, renderFrom_fixed h, literalPrompt, hps] at heq
  have hshort := length_join text p ps
  have hlong := length_join name p ps
  rw [heq] at hshort
  have hone : ps.length = 0 := Nat.eq_zero_of_not_pos fun hpos => by
    have hgap := Nat.mul_lt_mul_of_pos_left hlt hpos
    omega
  rw [List.eq_nil_of_length_eq_zero hone] at hps
  have hwhole := join_pieces template
  rw [hps, join_single] at hwhole
  rw [← hwhole]
  exact pieces_absent template p (by rw [hps]; exact List.mem_cons_self)

end

/-- What the database is called is put into a prompt as it is, whatever the template, exactly if no
dollar sign in it is a reference; and into a template whatever the database is called exactly if the
template has no placeholder. -/
theorem prompt_literal_iff (template name : Text) :
    ((∀ other, Prompt.render other name = literalPrompt other name) ↔
      ¬ HasReference name) ∧
    ((∀ details : DatabaseDetails,
        Prompt.render template details.name = literalPrompt template details.name) ↔
      ¬ placeholder <:+: template) := by
  refine ⟨⟨fun h => ?_, render_plain⟩, ⟨fun h => ?_, fun h details => ?_⟩⟩
  · obtain ⟨hrender, hliteral⟩ := render_placeholder name
    exact expand_alone_iff.mp (by rw [← hrender, h, hliteral])
  · -- a file can be called by two dollar signs, which are one wherever they are put
    have hname : (⟨"$$", false, 5000⟩ : DatabaseDetails).name = "$$" := by decide
    have hone (before after : Text) : expand before after "$$" = "$" := rfl
    exact absent_of_shortened hone (by decide) (hname ▸ h ⟨"$$", false, 5000⟩)
  · rw [Prompt.render, renderFrom_absent h, literalPrompt, pieces_of_absent h, join_single]

/-- One of the two dollar signs in the name of the file is lost. -/
theorem dollars_in_name_lost :
    let details : DatabaseDetails := { path := "/data/a$$b.db" }
    details.name = "a$$b.db" ∧ literalPrompt "\\d> " details.name = "a$$b.db> " ∧
      Prompt.render "\\d> " details.name = "a$b.db> " := by
  decide +kernel

end SqlShell.Proofs
