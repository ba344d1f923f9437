import SqlShell.Command.Builtin
import SqlShell.Proofs.Locality
import SqlShell.Proofs.Trimming

namespace SqlShell.Proofs

/-- A line whose first word is `head` is read as this word and what is behind it. -/
theorem parse_words {line head rest : Text} (hline : Text.trimStart line = head ++ rest)
    (hhead : ∀ u ∈ head, u.isBlank = false)
    (hrest : ∀ v, rest.head? = some v → v.isBlank = true)
    (hlast : (Text.trim line).getLast? ≠ some (unit ';')) :
    CommandLine.parse line = CommandLine.split head (Text.trim rest) := by
  have hbody : Text.trim line = head ++ Text.trimEnd rest := by
    rw [Text.trim, hline]
    exact trimEnd_append rest fun u hu => hhead u (List.mem_of_getLast? hu)
  have hbehind : ∀ v, (Text.trimEnd rest).head? = some v → v.isBlank = true := by
    intro v hv
    obtain ⟨more, hmore⟩ := trimEnd_front rest
    refine hrest v ?_
    rw [← hmore, List.head?_append, hv]
    rfl
  have hkept : Text.dropEndWhile (· == unit ';') (Text.trim line) = Text.trim line :=
    dropEnd_of_last fun u hu => beq_eq_false_iff_ne.mpr fun hs => hlast (hs ▸ hu)
  have htake : (head ++ Text.trimEnd rest).takeWhile (fun u => !u.isBlank) = head := by
    rw [List.takeWhile_append_of_pos fun u hu => by rw [hhead u hu]; rfl]
    cases hr : Text.trimEnd rest with
    | nil => simp
    | cons v more => simp [hbehind v (by rw [hr]; rfl)]
  have hdrop : (head ++ Text.trimEnd rest).dropWhile (fun u => !u.isBlank) =
      Text.trimEnd rest := by
    rw [List.dropWhile_append_of_pos fun u hu => by rw [hhead u hu]; rfl]
    cases hr : Text.trimEnd rest with
    | nil => rfl
    | cons v more => simp [hbehind v (by rw [hr]; rfl)]
  rw [CommandLine.parse, hkept, trim_trim, hbody, htake, hdrop, trim_trimEnd]

theorem sigil_cases {word : Text} (h : hasSigil word = true) :
    ∃ u rest, word = u :: rest ∧ (u = unit '.' ∨ u = unit '\\') := by
  cases word with
  | nil => contradiction
  | cons u rest =>
    refine ⟨u, rest, rfl, ?_⟩
    simpa [hasSigil, commandSigils] using h

theorem split_argument (head argument : Text) :
    (CommandLine.split head argument).argument = argument := by
  rw [CommandLine.split]
  split
  · rfl
  · split
    · split
      · rfl
      · split
        · rfl
        · rfl
    · rfl

/-- A sign is dropped from the word by both of its readers. -/
theorem command_split {word : Text} (argument : Text) (h : hasSigil word = true) :
    (CommandLine.split word argument).command = dropSign word := by
  obtain ⟨u, rest, rfl, hu⟩ := sigil_cases h
  have hsign : u ≠ unit '+' ∧ u ≠ unit '-' ∧ unit '-' ≠ unit '+' := by
    rcases hu with rfl | rfl
    · decide
    · decide
  cases rest with
  | nil => simp [CommandLine.split, dropSign, hsign]
  | cons v rest =>
    have hlong : ¬ (u :: v :: rest).length ≤ 1 := by simp
    rw [CommandLine.split, dropSign, if_neg hlong]
    cases hl : (u :: v :: rest).getLast? with
    | none => simp at hl
    | some w =>
      by_cases hplus : w = unit '+'
      · simp [hplus]
      · by_cases hminus : w = unit '-'
        · simp [hminus, hsign]
        · simp [hplus, hminus]

theorem hasSigil_dropSign {word : Text} (h : hasSigil word = true) :
    hasSigil (dropSign word) = true := by
  obtain ⟨u, rest, rfl, hu⟩ := sigil_cases h
  rw [dropSign]
  split
  · rename_i hsign
    cases rest with
    | nil =>
      rcases hu with rfl | rfl
      · contradiction
      · contradiction
    | cons v rest => exact h
  · exact h

theorem hasSigil_of_dropSign {word : Text} (h : hasSigil (dropSign word) = true) :
    hasSigil word = true := by
  cases word with
  | nil => contradiction
  | cons u rest =>
    cases rest with
    | nil =>
      rw [dropSign] at h
      split at h
      · contradiction
      · exact h
    | cons v rest =>
      rw [dropSign] at h
      split at h
      · exact h
      · exact h

theorem mem_dropSign {word : Text} {u : CodeUnit} (h : u ∈ word) :
    u ∈ dropSign word ∨ u = unit '+' ∨ u = unit '-' := by
  rw [dropSign]
  split
  · rename_i hsign
    obtain ⟨shorter, v, rfl⟩ := (List.eq_nil_or_concat' word).resolve_left (List.ne_nil_of_mem h)
    rw [List.getLast?_concat, Bool.or_eq_true, decide_eq_true_eq, decide_eq_true_eq] at hsign
    rw [List.dropLast_concat]
    rcases List.mem_append.mp h with h | h
    · exact .inl h
    · obtain rfl := List.mem_singleton.mp h
      exact .inr (hsign.imp Option.some.inj Option.some.inj)
  · exact .inl h

/-- The unit is its own small letter, wherever it stands. -/
def IsUncased (u : CodeUnit) : Prop :=
  Text.isHighSurrogate u = false ∧ Text.isLowSurrogate u = false ∧ u.toNat ≠ 0x3A3 ∧
    Text.lowerPoint u.toNat = [u.toNat] ∧ Text.ofPoint u.toNat = [u]

instance (u : CodeUnit) : Decidable (IsUncased u) := inferInstanceAs (Decidable (_ ∧ _))

theorem points_mark {u : CodeUnit} (hu : IsUncased u) (rest : Text) :
    Text.points (u :: rest) = u.toNat :: Text.points rest := by
  cases rest with
  | nil => rfl
  | cons v rest => simp [Text.points, hu.1]

theorem mem_points {u : CodeUnit} (hu : IsUncased u) {t : Text} (h : u ∈ t) :
    u.toNat ∈ Text.points t := by
  fun_induction Text.points t with
  | case1 => contradiction
  | case2 v => exact List.mem_singleton.mpr (congrArg UInt16.toNat (List.mem_singleton.mp h))
  | case3 v w rest hpair ih =>
    -- neither half of a surrogate pair is uncased
    simp only [Bool.and_eq_true] at hpair
    rcases List.mem_cons.mp h with rfl | h
    · exact absurd hpair.1 (by simp [hu.1])
    · rcases List.mem_cons.mp h with rfl | h
      · exact absurd hpair.2 (by simp [hu.2.1])
      · exact List.mem_cons_of_mem _ (ih h)
  | case4 v w rest hpair ih =>
    rcases List.mem_cons.mp h with rfl | h
    · exact List.mem_cons_self
    · exact List.mem_cons_of_mem _ (ih h)

theorem mem_lowerAfter {n : Nat} (hn : n ≠ 0x3A3) (hlower : Text.lowerPoint n = [n])
    {ns : List Nat} (seen : List Nat) (h : n ∈ ns) : n ∈ Text.lowerAfter seen ns := by
  induction ns generalizing seen with
  | nil => contradiction
  | cons m ns ih =>
    rw [Text.lowerAfter]
    rcases List.mem_cons.mp h with rfl | h
    · rw [if_neg hn, hlower]
      exact List.mem_cons_self
    · exact List.mem_append_right _ (ih (m :: seen) h)

theorem mem_lower {u : CodeUnit} (hu : IsUncased u) {t : Text} (h : u ∈ t) : u ∈ t.lower := by
  have hm := mem_lowerAfter hu.2.2.1 hu.2.2.2.1 [] (mem_points hu h)
  refine List.mem_flatMap.mpr ⟨_, hm, ?_⟩
  rw [hu.2.2.2.2]
  exact List.mem_singleton_self u

/-- A mark at the front stays there. -/
theorem hasSigil_lower {word : Text} (h : hasSigil word = true) : hasSigil word.lower = true := by
  obtain ⟨u, rest, rfl, hu⟩ := sigil_cases h
  have hmark : IsUncased u ∧ commandSigils.contains u = true := by
    rcases hu with rfl | rfl
    · decide +kernel
    · decide +kernel
  obtain ⟨huncased, hsigil⟩ := hmark
  rw [Text.lower, points_mark huncased, Text.lowerAfter, if_neg huncased.2.2.1,
    huncased.2.2.2.1, List.singleton_append, Text.ofPoints, List.flatMap_cons, huncased.2.2.2.2]
  exact hsigil

/-- The objects that an argument of this kind names. -/
def objectsOf : ArgumentKind → Option (List SchemaObject)
  | .table => some [.table, .view]
  | .view => some [.view]
  | .index => some [.index]
  | .none | .text => none

/-- The objects whose names are offered. -/
def offeredObjects (c : Context) : Option (List SchemaObject) :=
  c.suggestions.findSome? fun
    | .table _ objects => some objects
    | _ => none

/-- The word is a name of the command but for its letter case, and the case matters. -/
def IsMiscased (b : Builtin) (word : Text) : Prop :=
  b.entry.caseSensitive = true ∧ word ∉ b.entry.names ∧ word.lower ∈ b.entry.names

/-- Lookups of keys that pass a test do not see the other keys. -/
theorem lookup_filter_map [DecidableEq α] {p : α → Bool} {f : β → γ} {key : α}
    (hk : p key = true) (entries : List (α × β)) :
    ((entries.filter (fun e => p e.1)).map (fun e => (e.1, f e.2))).lookup key =
      (entries.lookup key).map f := by
  induction entries with
  | nil => rfl
  | cons e entries ih =>
    obtain ⟨k, v⟩ := e
    by_cases hkey : key = k
    · subst hkey
      simp [hk]
    · cases hp : p k with
      | true => simp [hp, List.lookup_cons, beq_false_of_ne hkey, ih]
      | false => simp [hp, List.lookup_cons, beq_false_of_ne hkey, ih]

theorem vocabulary_entries : Builtin.registry.vocabulary.entries =
    (Builtin.registry.byName.entries.filter (fun e => hasSigil e.1)).map
      (fun e => (e.1, e.2.spec)) := by decide +kernel

theorem vocabulary_lookup {word : Text} (h : hasSigil word = true) :
    Builtin.registry.vocabulary.lookup word =
      (Builtin.registry.byName.lookup word).map (fun c => c.spec) := by
  rw [OrderedMap.lookup, vocabulary_entries]
  exact lookup_filter_map (p := hasSigil) (f := fun c : Command Builtin => c.spec) h _

/-- The vocabulary knows a word that is filed, and one whose small letters are. -/
theorem vocabulary_find {word : Text} (h : hasSigil word = true) :
    Builtin.registry.vocabulary.find? word =
      ((Builtin.registry.byName.lookup word).or
        (Builtin.registry.byName.lookup word.lower)).map (fun c => c.spec) := by
  rw [Vocabulary.find?, vocabulary_lookup h, vocabulary_lookup (hasSigil_lower h)]
  cases Builtin.registry.byName.lookup word with
  | none => rfl
  | some c => rfl

theorem filed_of_found {word : Text} {c : Command Builtin}
    (h : Builtin.registry.find? word = some c) :
    (Builtin.registry.byName.lookup word).or (Builtin.registry.byName.lookup word.lower) =
      some c := by
  rw [Registry.find?] at h
  cases hexact : Builtin.registry.byName.lookup word with
  | some c' =>
    rw [hexact] at h
    exact h
  | none =>
    rw [hexact] at h
    exact (Option.filter_eq_some_iff.mp h).1

/-- The commands that are filed in the registry, each under its own names in small letters. -/
theorem filed_entries : ∀ e ∈ Builtin.registry.byName.entries,
    e.2.toCommandEntry = e.2.action.entry ∧ e.1.lower = e.1 ∧
      (e.2.action.entry.caseSensitive = true → e.1 ∈ e.2.action.entry.names) := by
  decide +kernel

theorem filed_names : ∀ b ∈ Builtin.all, b.entry.caseSensitive = true → ∀ n ∈ b.entry.names,
    (Builtin.registry.byName.lookup n).map (fun c => c.action) = some b := by
  decide +kernel

theorem mem_of_lookup [DecidableEq α] {entries : List (α × β)} {key : α} {value : β}
    (h : entries.lookup key = some value) : (key, value) ∈ entries := by
  obtain ⟨before, after, rfl, -⟩ := List.lookup_eq_some_iff.mp h
  simp

theorem mem_all (b : Builtin) : b ∈ Builtin.all := by
  cases b <;> decide

theorem filed_of_miscased {b : Builtin} {word : Text} (h : IsMiscased b word) :
    ∃ c, Builtin.registry.byName.lookup word.lower = some c ∧ c.toCommandEntry = b.entry := by
  obtain ⟨hcase, -, hname⟩ := h
  obtain ⟨c, hc, rfl⟩ := Option.map_eq_some_iff.mp (filed_names b (mem_all b) hcase _ hname)
  exact ⟨c, hc, (filed_entries _ (mem_of_lookup hc)).1⟩

/-- The vocabulary knows the objects of the registry, and those of miscased commands. -/
theorem objects_agree_iff {word : Text} (h : hasSigil word = true) :
    (Builtin.registry.vocabulary.find? word).bind (fun c => objectsOf c.argument) =
        (Builtin.registry.find? word).bind (fun c => objectsOf c.argument) ↔
      ∀ b, IsMiscased b word → objectsOf b.entry.argument = none := by
  rw [vocabulary_find h, Registry.find?]
  cases hexact : Builtin.registry.byName.lookup word with
  | some c =>
    -- names are filed in small letters, so that none of them is miscased
    have hlower : word.lower = word := (filed_entries _ (mem_of_lookup hexact)).2.1
    refine iff_of_true rfl fun b hb => absurd hb.2.2 ?_
    rw [hlower]
    exact hb.2.1
  | none =>
    cases hfolded : Builtin.registry.byName.lookup word.lower with
    | none =>
      refine iff_of_true rfl fun b hb => ?_
      obtain ⟨c, hc, -⟩ := filed_of_miscased hb
      rw [hfolded] at hc
      contradiction
    | some c =>
      obtain ⟨hentry, -, hnames⟩ := filed_entries _ (mem_of_lookup hfolded)
      dsimp only at hentry hnames
      cases hcase : c.caseSensitive with
      | false =>
        have hkept : (some c).filter (fun c => !c.caseSensitive) = some c := by
          rw [Option.filter_some, hcase]
          rfl
        refine iff_of_true (by rw [hkept]; rfl) fun b hb => ?_
        obtain ⟨c', hc, hb'⟩ := filed_of_miscased hb
        obtain rfl := Option.some.inj (hfolded.symm.trans hc)
        rw [hb', hb.1] at hcase
        contradiction
      | true =>
        have hmiscased : IsMiscased c.action word := by
          rw [hentry] at hcase
          refine ⟨hcase, fun hname => ?_, hnames hcase⟩
          have hfiled := filed_names c.action (mem_all _) hcase word hname
          rw [hexact] at hfiled
          contradiction
        have hdropped : (some c).filter (fun c => !c.caseSensitive) = none := by
          rw [Option.filter_some, hentry, hmiscased.1]
          rfl
        rw [hdropped]
        show objectsOf c.argument = none ↔ _
        constructor
        · intro hnone b hb
          obtain ⟨c', hc, hb'⟩ := filed_of_miscased hb
          obtain rfl := Option.some.inj (hfolded.symm.trans hc)
          rwa [hb'] at hnone
        · intro hall
          rw [hentry]
          exact hall _ hmiscased

/-- No command has a semicolon in its name. -/
theorem semicolon_not_found {word : Text} {c : Command Builtin}
    (h : Builtin.registry.find? word = some c) : unit ';' ∉ word := by
  have hkeys : ∀ e ∈ Builtin.registry.byName.entries, unit ';' ∉ e.1 := by decide +kernel
  intro hm
  rcases Option.or_eq_some_iff.mp (filed_of_found h) with hc | ⟨-, hc⟩
  · exact hkeys _ (mem_of_lookup hc) hm
  · exact hkeys _ (mem_of_lookup hc) (mem_lower (by decide +kernel) hm)

theorem offered_argument (v : Vocabulary) (command text : Text) (start stop : Int) :
    offeredObjects (specialContext (argumentSuggestion v command) text start stop) =
      (v.find? command).bind (fun c => objectsOf c.argument) := by
  rw [argumentSuggestion]
  cases v.find? command with
  | none => rfl
  | some c =>
    rw [Option.map_some, Option.bind_some]
    cases c.argument with
    | none | table | view | index | text => rfl

/-- Behind a word that begins with the mark of a command its argument is due. -/
theorem classify_argument {v : Vocabulary} {s : Statement} {cursor : Int} {u : CodeUnit}
    {typed : Text} (ht : Text.trimStart (Text.firstItems (cursor - s.start) s.text) = typed)
    (hfirst : typed.head? = some u) (hu : v.sigils.contains u = true)
    (hb : typed.any CodeUnit.isBlank = true) :
    classify s cursor v = specialContext
      (argumentSuggestion v (dropSign (typed.takeWhile (fun u => !u.isBlank))))
      (Text.takeEndWhile (fun u => !u.isBlank) typed)
      (cursor - (Text.takeEndWhile (fun u => !u.isBlank) typed).length) cursor := by
  rw [classify, classifySpecial?]
  dsimp only
  rw [ht, hfirst]
  dsimp only
  rw [if_pos hu, if_pos hb]
  rfl

/-- Up to the first blank nothing but a command is completed. -/
theorem classify_command {v : Vocabulary} {s : Statement} {cursor : Int} {u : CodeUnit}
    {typed : Text} (ht : Text.trimStart (Text.firstItems (cursor - s.start) s.text) = typed)
    (hfirst : typed.head? = some u) (hu : v.sigils.contains u = true)
    (hb : typed.any CodeUnit.isBlank = false) :
    (classify s cursor v).suggestions = [.special none] := by
  rw [classify, classifySpecial?]
  dsimp only
  rw [ht, hfirst]
  dsimp only
  rw [if_pos hu, hb]
  rfl

theorem firstItems_all (t : Text) : Text.firstItems ((t.length : Int) - (0 : Nat)) t = t := by
  rw [show (t.length : Int) - (0 : Nat) = Int.ofNat t.length by simp]
  exact List.take_length

theorem sigils_vocabulary {u : CodeUnit} (hu : u = unit '.' ∨ u = unit '\\') :
    Builtin.registry.vocabulary.sigils.contains u = true := by
  rcases hu with rfl | rfl
  · decide +kernel
  · decide +kernel

/-- The word begins with the mark of a command and goes on to the next blank. -/
def IsCommandWord (word : Text) : Prop :=
  hasSigil word = true ∧ ∀ u ∈ word, u.isBlank = false ∧ u ≠ unit ';'

instance (word : Text) : Decidable (IsCommandWord word) :=
  decidable_of_iff
    (hasSigil word = true ∧ word.all (fun u => !u.isBlank && u != unit ';') = true)
    (by simp [IsCommandWord, List.all_eq_true])

/-- A line that begins with a command and its argument. -/
def typedCommand (word argument : Text) : Text := word ++ unit ' ' :: argument

/-- At the end of a command line just those objects are offered that the registry finds for the
command that it reads from the line, unless the command is one whose letter case matters, and it is
written in another one. -/
theorem offered_objects_agree_iff {word argument : Text} (h : IsCommandWord word)
    (hargument : unit ';' ∉ argument) :
    let line := typedCommand word argument
    let command := (CommandLine.parse line).command
    offeredObjects (classify (statementAt line line.length) line.length
        Builtin.registry.vocabulary) =
        (Builtin.registry.find? command).bind (fun c => objectsOf c.argument) ↔
      ∀ b, IsMiscased b command → objectsOf b.entry.argument = none := by
  intro line command
  obtain ⟨hs, hword⟩ := h
  obtain ⟨u, rest, hcons, hu⟩ := sigil_cases hs
  have hline : line = u :: (rest ++ unit ' ' :: argument) := by
    rw [show line = word ++ unit ' ' :: argument from rfl, hcons]
    rfl
  have hfilled : ∀ v ∈ word, v.isBlank = false := fun v hv => (hword v hv).1
  have hstart : Text.trimStart line = line := by
    have hfirst : u.isBlank = false := hfilled u (by rw [hcons]; exact List.mem_cons_self)
    rw [hline, Text.trimStart, List.dropWhile_cons, hfirst]
    rfl
  have habsent : unit ';' ∉ line := by
    intro hm
    rcases List.mem_append.mp hm with hm | hm
    · exact (hword _ hm).2 rfl
    · rcases List.mem_cons.mp hm with hm | hm
      · exact absurd hm (by decide)
      · exact hargument hm
  have hblank : (unit ' ').isBlank = true := by decide
  have hcommand : command = dropSign word := by
    have hlast : (Text.trim line).getLast? ≠ some (unit ';') := fun hl =>
      habsent (trim_subset line (List.mem_of_getLast? hl))
    have hbehind : ∀ v, (unit ' ' :: argument).head? = some v → v.isBlank = true := by
      intro v hv
      obtain rfl := Option.some.inj hv
      exact hblank
    rw [show command = (CommandLine.parse line).command from rfl,
      parse_words hstart hfilled hbehind hlast, command_split _ hs]
  have hhead : line.takeWhile (fun v => !v.isBlank) = word := by
    rw [show line = word ++ unit ' ' :: argument from rfl,
      List.takeWhile_append_of_pos fun v hv => by rw [hfilled v hv]; rfl]
    simp [hblank]
  have htyped : Text.trimStart (Text.firstItems ((line.length : Int) - (0 : Nat))
      (⟨0, tokenize line, false⟩ : Statement).text) = line := by
    rw [text_whole, firstItems_all, hstart]
  have hany : line.any CodeUnit.isBlank = true :=
    List.any_eq_true.mpr ⟨unit ' ', List.mem_append_right _ List.mem_cons_self, hblank⟩
  rw [statementAt_unmarked (unmarked_of_absent habsent),
    classify_argument htyped (by rw [hline]; rfl) (sigils_vocabulary hu) hany, hhead,
    offered_argument, hcommand]
  exact objects_agree_iff (hasSigil_dropSign hs)

/-- Written as it is filed, a command has its objects from both. -/
theorem schema_argument_agrees :
    let word : Text := ".schema"
    let line := typedCommand word "t"
    IsCommandWord word ∧ unit ';' ∉ Text.ofString "t" ∧
      offeredObjects (classify (statementAt line line.length) line.length
        Builtin.registry.vocabulary) =
        (Builtin.registry.find? (CommandLine.parse line).command).bind
          (fun c => objectsOf c.argument) := by
  intro word line
  have hword : IsCommandWord word := by decide
  have hargument : unit ';' ∉ Text.ofString "t" := by decide
  have hcommand : (CommandLine.parse line).command = word := by decide +kernel
  have hlower : word.lower = word := by decide +kernel
  refine ⟨hword, hargument, (offered_objects_agree_iff hword hargument).mpr ?_⟩
  rintro b ⟨-, hno, hname⟩
  rw [hcommand] at hno hname
  rw [hlower] at hname
  exact absurd hname hno

/-- In capitals it is no command, and its tables are offered all the same. -/
theorem capital_schema_disagrees :
    let word : Text := ".SCHEMA"
    let line := typedCommand word ""
    IsCommandWord word ∧
      offeredObjects (classify (statementAt line line.length) line.length
        Builtin.registry.vocabulary) = some [.table, .view] ∧
      (Builtin.registry.find? (CommandLine.parse line).command).isNone = true := by
  decide +kernel

end SqlShell.Proofs
