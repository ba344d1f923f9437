import SqlShell.Proofs.CommandWords

namespace SqlShell.Proofs

/-- A text that neither begins nor ends with something that is taken off a line. Blanks and
semicolons may stand within it, and it may be empty. -/
structure IsUnpadded (t : Text) : Prop where
  first : ∀ u, t.head? = some u → u.isBlank = false
  last : ∀ u, t.getLast? = some u → u.isBlank = false ∧ u ≠ unit ';'

/-- A word of which nothing is taken off when it is read as a command. -/
structure IsWholeCommand (word : Text) : Prop where
  nonempty : word ≠ []
  filled : ∀ u ∈ word, u.isBlank = false
  last : ∀ u, word.getLast? = some u → u ≠ unit '+' ∧ u ≠ unit '-' ∧ u ≠ unit ';'

/-- A command with the sign that asks for more detail, or without it. -/
def signedCommand (word : Text) (verbose : Bool) : Text :=
  word ++ if verbose then [unit '+'] else []

/-- What stands behind a command: blanks and the argument, or nothing if there is none. -/
def argumentText (between argument : Text) : Text :=
  if argument = [] then [] else between ++ argument

def commandText (word : Text) (verbose : Bool) (between argument : Text) : Text :=
  signedCommand word verbose ++ argumentText between argument

/-- The part of a line that is read: the line without the blanks and semicolons around it. -/
def commandBody (line : Text) : Text :=
  Text.trim (Text.dropEndWhile (· == unit ';') (Text.trim line))

theorem parse_of_body {line line' : Text} (h : commandBody line = commandBody line') :
    CommandLine.parse line = CommandLine.parse line' := by
  rw [commandBody, commandBody] at h
  rw [CommandLine.parse, CommandLine.parse, h]

/-- Trimming reaches over the blanks at the end only up to the semicolons, if there are any. -/
theorem trimEnd_semicolons {gap trail : Text} (semicolons : Nat)
    (hgap : ∀ u ∈ gap, u.isBlank = true) (htrail : ∀ u ∈ trail, u.isBlank = true) :
    ∃ kept, (∀ u ∈ kept, u.isBlank = true) ∧
      Text.trimEnd (gap ++ (List.replicate semicolons (unit ';') ++ trail)) =
        kept ++ List.replicate semicolons (unit ';') := by
  cases semicolons with
  | zero =>
    refine ⟨[], fun u hu => absurd hu List.not_mem_nil, trimEnd_blank fun u hu => ?_⟩
    rcases List.mem_append.mp hu with hu | hu
    · exact hgap u hu
    · exact htrail u hu
  | succ n =>
    have hlast : ∀ u, (gap ++ List.replicate (n + 1) (unit ';')).getLast? = some u →
        u.isBlank = false := by
      intro u hu
      rw [List.replicate_succ', ← List.append_assoc, List.getLast?_concat] at hu
      obtain rfl := Option.some.inj hu
      decide
    refine ⟨gap, hgap, ?_⟩
    rw [← List.append_assoc, trimEnd_append trail hlast, trimEnd_blank htrail, List.append_nil]

theorem drop_semicolons {t : Text} (semicolons : Nat) (h : t.getLast? ≠ some (unit ';')) :
    Text.dropEndWhile (· == unit ';') (t ++ List.replicate semicolons (unit ';')) = t := by
  have hall : ∀ u ∈ (List.replicate semicolons (unit ';')).reverse, (u == unit ';') = true := by
    intro u hu
    rw [List.reverse_replicate] at hu
    rw [List.eq_of_mem_replicate hu]
    exact beq_self_eq_true _
  rw [Text.dropEndWhile, List.reverse_append, List.dropWhile_append_of_pos hall]
  exact dropEnd_of_last fun u hu => beq_eq_false_iff_ne.mpr fun hs => h (hs ▸ hu)

theorem IsUnpadded.trim {t : Text} (h : IsUnpadded t) : Text.trim t = t := by
  rw [Text.trim, trimStart_of_first h.first]
  exact trimEnd_of_last fun u hu => (h.last u hu).1

/-- Among blanks and semicolons an unpadded text is found again. -/
theorem IsUnpadded.body {core lead gap trail : Text} (h : IsUnpadded core) (hne : core ≠ [])
    (semicolons : Nat) (hlead : ∀ u ∈ lead, u.isBlank = true) (hgap : ∀ u ∈ gap, u.isBlank = true)
    (htrail : ∀ u ∈ trail, u.isBlank = true) :
    commandBody (lead ++ (core ++ (gap ++ (List.replicate semicolons (unit ';') ++ trail)))) =
      core := by
  have hstart (rest : Text) : Text.trimStart (lead ++ (core ++ rest)) = core ++ rest := by
    refine trimStart_append hlead fun v hv => h.first v ?_
    rwa [List.head?_append_of_ne_nil _ hne] at hv
  have hend (rest : Text) : Text.trimEnd (core ++ rest) = core ++ Text.trimEnd rest :=
    trimEnd_append rest fun u hu => (h.last u hu).1
  obtain ⟨kept, hkept, hbehind⟩ := trimEnd_semicolons semicolons hgap htrail
  have hline : Text.trim
      (lead ++ (core ++ (gap ++ (List.replicate semicolons (unit ';') ++ trail)))) =
        (core ++ kept) ++ List.replicate semicolons (unit ';') := by
    rw [Text.trim, hstart, hend, hbehind, List.append_assoc]
  have hsemicolon : (core ++ kept).getLast? ≠ some (unit ';') := by
    intro hl
    rw [List.getLast?_append] at hl
    cases hk : kept.getLast? with
    | none =>
      rw [hk, Option.none_or] at hl
      exact (h.last _ hl).2 rfl
    | some u =>
      rw [hk, Option.some_or] at hl
      have hblank := hkept u (List.mem_of_getLast? hk)
      rw [Option.some.inj hl] at hblank
      exact absurd hblank (by decide)
  have hkeep : Text.trim (core ++ kept) = core := by
    have hnone : Text.trimEnd (core ++ kept) = core := by
      rw [hend, trimEnd_blank hkept, List.append_nil]
    rw [← trim_trimEnd, hnone, h.trim]
  rw [commandBody, hline, drop_semicolons semicolons hsemicolon, hkeep]

section
variable {word argument between : Text} (hword : IsWholeCommand word) (verbose : Bool)
include hword

/-- Of a whole command only the sign is taken off, even if the command has but one unit. -/
theorem split_signedCommand (argument : Text) :
    CommandLine.split (signedCommand word verbose) argument = ⟨word, argument, verbose⟩ := by
  cases verbose with
  | true =>
    have hsigned : signedCommand word true = word ++ [unit '+'] := rfl
    have hlong : ¬ (word ++ [unit '+']).length ≤ 1 := by
      have hpos := List.length_pos_iff.mpr hword.nonempty
      rw [List.length_append, List.length_singleton]
      omega
    rw [hsigned, CommandLine.split, if_neg hlong, List.getLast?_concat]
    dsimp only
    rw [if_pos rfl, List.dropLast_concat]
  | false =>
    have hsigned : signedCommand word false = word := List.append_nil word
    rw [hsigned, CommandLine.split]
    split
    · rfl
    · cases hl : word.getLast? with
      | none => rfl
      | some u =>
        obtain ⟨hplus, hminus, -⟩ := hword.last u hl
        dsimp only
        rw [if_neg hplus, if_neg hminus]

theorem signedCommand_filled : ∀ u ∈ signedCommand word verbose, u.isBlank = false := by
  intro u hu
  rcases List.mem_append.mp hu with hu | hu
  · exact hword.filled u hu
  · cases verbose with
    | true =>
      obtain rfl := List.mem_singleton.mp hu
      decide
    | false => exact absurd hu List.not_mem_nil

theorem last_of_signedCommand {u : CodeUnit} (hu : (signedCommand word verbose).getLast? = some u) :
    u ≠ unit ';' := by
  cases verbose with
  | true =>
    have hsigned : signedCommand word true = word ++ [unit '+'] := rfl
    rw [hsigned, List.getLast?_concat] at hu
    obtain rfl := Option.some.inj hu
    decide
  | false =>
    have hsigned : signedCommand word false = word := List.append_nil word
    rw [hsigned] at hu
    exact (hword.last u hu).2.2

theorem commandText_ne_nil : commandText word verbose between argument ≠ [] := by
  simp [commandText, signedCommand, hword.nonempty]

variable (hargument : IsUnpadded argument)
include hargument

theorem commandText_unpadded : IsUnpadded (commandText word verbose between argument) where
  first u hu := by
    rw [commandText, signedCommand, List.append_assoc,
      List.head?_append_of_ne_nil _ hword.nonempty] at hu
    exact hword.filled u (List.mem_of_mem_head? hu)
  last u hu := by
    rw [commandText, argumentText] at hu
    split at hu
    · rw [List.append_nil] at hu
      exact ⟨signedCommand_filled hword verbose u (List.mem_of_getLast? hu),
        last_of_signedCommand hword verbose hu⟩
    · rename_i hne
      rw [← List.append_assoc, List.getLast?_append_of_ne_nil _ hne] at hu
      exact hargument.last u hu

/-- The command ends at the first blank, and behind the blanks there everything is the argument. -/
theorem parse_commandText (hne : between ≠ []) (hblank : ∀ u ∈ between, u.isBlank = true) :
    CommandLine.parse (commandText word verbose between argument) =
      ⟨word, argument, verbose⟩ := by
  have hline : IsUnpadded (commandText word verbose between argument) :=
    commandText_unpadded hword verbose hargument
  have hstart : Text.trimStart (commandText word verbose between argument) =
      signedCommand word verbose ++ argumentText between argument :=
    trimStart_of_first hline.first
  have hbehind : ∀ v, (argumentText between argument).head? = some v → v.isBlank = true := by
    intro v hv
    rw [argumentText] at hv
    split at hv
    · contradiction
    · rw [List.head?_append_of_ne_nil _ hne] at hv
      exact hblank v (List.mem_of_mem_head? hv)
  have hlast : (Text.trim (commandText word verbose between argument)).getLast? ≠
      some (unit ';') := by
    rw [hline.trim]
    exact fun hl => (hline.last _ hl).2 rfl
  have hrest : Text.trim (argumentText between argument) = argument := by
    rw [argumentText]
    split
    · rename_i hnil
      rw [hnil]
      rfl
    · rw [Text.trim, trimStart_append hblank hargument.first]
      exact trimEnd_of_last fun u hu => (hargument.last u hu).1
  rw [parse_words hstart (signedCommand_filled hword verbose) hbehind hlast, hrest,
    split_signedCommand hword]

end

/-- A line reads as its command, its argument and its sign, whatever blanks stand around and between
them, and however many semicolons end the line. -/
theorem parse_padded {word argument lead between gap trail : Text} (verbose : Bool)
    (semicolons : Nat) (hword : IsWholeCommand word) (hargument : IsUnpadded argument)
    (hne : between ≠ [])
    (hblank : ∀ t ∈ [lead, between, gap, trail], ∀ u ∈ t, u.isBlank = true) :
    CommandLine.parse (lead ++ (commandText word verbose between argument ++
        (gap ++ (List.replicate semicolons (unit ';') ++ trail)))) =
      ⟨word, argument, verbose⟩ := by
  simp only [List.forall_mem_cons] at hblank
  obtain ⟨hlead, hbetween, hgap, htrail, -⟩ := hblank
  have hnone : ∀ u ∈ ([] : Text), u.isBlank = true := fun u hu => absurd hu List.not_mem_nil
  have hcore : IsUnpadded (commandText word verbose between argument) :=
    commandText_unpadded hword verbose hargument
  have hfilled : commandText word verbose between argument ≠ [] := commandText_ne_nil hword verbose
  have hbare : commandBody (commandText word verbose between argument) =
      commandText word verbose between argument := by
    simpa using hcore.body hfilled 0 hnone hnone hnone
  have hbody := (hcore.body hfilled semicolons hlead hgap htrail).trans hbare.symm
  rw [parse_of_body hbody, parse_commandText hword verbose hargument hne hbetween]

/-- A command of one unit is read with its sign although an ideographic space follows, and the
semicolon within its argument stays. -/
theorem question_padded :
    let word : Text := "?"
    let argument : Text := "a ; b"
    let lead : Text := [0x2028, 0x20]
    let between : Text := [0x3000]
    let gap : Text := [0x20]
    let trail : Text := [0xFEFF, 0x0A]
    IsWholeCommand word ∧ IsUnpadded argument ∧ between ≠ [] ∧
      (∀ t ∈ [lead, between, gap, trail], ∀ u ∈ t, u.isBlank = true) ∧
      CommandLine.parse (lead ++ (commandText word true between argument ++
        (gap ++ (List.replicate 2 (unit ';') ++ trail)))) = ⟨word, argument, true⟩ := by
  intro word argument lead between gap trail
  have hword : IsWholeCommand word := by
    refine ⟨by decide, List.forall_mem_singleton.mpr (by decide), fun u hu => ?_⟩
    obtain rfl : unit '?' = u := Option.some.inj hu
    decide
  have hargument : IsUnpadded argument := by
    refine ⟨fun u hu => ?_, fun u hu => ?_⟩
    · obtain rfl : unit 'a' = u := Option.some.inj hu
      decide
    · obtain rfl : unit 'b' = u := Option.some.inj hu
      decide
  have hne : between ≠ [] := by decide
  have hblank : ∀ t ∈ [lead, between, gap, trail], ∀ u ∈ t, u.isBlank = true := by
    have hall : [lead, between, gap, trail].all (·.all CodeUnit.isBlank) = true := by decide
    exact fun t ht => List.all_eq_true.mp (List.all_eq_true.mp hall t ht)
  exact ⟨hword, hargument, hne, hblank, parse_padded true 2 hword hargument hne hblank⟩

end SqlShell.Proofs
