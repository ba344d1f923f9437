import SqlShell.Proofs.CommandWords
import SqlShell.Proofs.Scope

namespace SqlShell.Proofs

theorem last_of_name {before name : Text} {u : CodeUnit}
    (h : (before ++ escapeName name).getLast? = some u) : u.isBlank = false ∧ u ≠ unit ';' := by
  rw [List.getLast?_append_of_ne_nil _ (escapeName_ne_nil name)] at h
  exact last_of_escapeName h

theorem trimEnd_name (before name : Text) :
    Text.trimEnd (before ++ escapeName name) = before ++ escapeName name :=
  trimEnd_of_last fun _ hu => (last_of_name hu).1

theorem trimStart_name (name : Text) : Text.trimStart (escapeName name) = escapeName name := by
  have hfirst : ∀ v, (escapeName name).head? = some v → v.isBlank = false := by
    intro v hv
    rw [← List.append_nil (escapeName name)] at hv
    exact (not_blank_or_digit_of_name hv).1
  exact trimStart_of_first hfirst

/-- A bare name behind blanks is the argument itself; what is longer than the name is not. -/
theorem argument_eq_iff {between name : Text} :
    Text.trim (between ++ escapeName name) = name ↔
      IsWrittenBare name ∧ ∀ u ∈ between, u.isBlank = true := by
  have hlong := length_le_escapeName name
  by_cases hblank : ∀ u ∈ between, u.isBlank = true
  · have hname : Text.trim (between ++ escapeName name) = escapeName name := by
      rw [Text.trim, Text.trimStart, List.dropWhile_append_of_pos hblank, ← Text.trimStart,
        trimStart_name]
      exact trimEnd_name [] name
    rw [hname]
    constructor
    · intro h
      refine ⟨Decidable.byContradiction fun hquoted => ?_, hblank⟩
      have := length_lt_escapeName hquoted
      rw [h] at this
      exact absurd this (Nat.lt_irrefl _)
    · exact fun h => escapeName_bare h.1
  · have hmore : Text.trimStart between ≠ [] := by
      rwa [Text.trimStart, ne_eq, List.dropWhile_eq_nil_iff]
    have hname : Text.trim (between ++ escapeName name) =
        Text.trimStart between ++ escapeName name := by
      rw [Text.trim, trimStart_within _ hmore, trimEnd_name]
    rw [hname]
    refine iff_of_false (fun h => ?_) fun h => hblank h.2
    have hlength := congrArg List.length h
    have hpos := List.length_pos_iff.mpr hmore
    rw [List.length_append] at hlength
    omega

/-- The command that a text begins with. -/
def writtenCommand (t : Text) : Text :=
  dropSign ((Text.trimStart t).takeWhile (fun u => !u.isBlank))

/-- Apart from blanks the text is a command that nothing follows. -/
def IsCommandAlone (t : Text) : Prop := ∀ u ∈ Text.trim t, u.isBlank = false

instance (t : Text) : Decidable (IsCommandAlone t) :=
  decidable_of_iff ((Text.trim t).all (fun u => !u.isBlank) = true)
    (by simp [IsCommandAlone, List.all_eq_true])

/-- The last statement of a text begins at `start` and calls the command, which is handed this
argument. -/
def EndsInCall (sql : Text) (start : Nat) (c : Command Builtin) (argument : Text) : Prop :=
  ∃ x, (statements sql).getLast? = some x ∧ x.start = start ∧
    Builtin.registry.isCommand (Text.trim x.text) = true ∧
    Builtin.registry.resolve (Text.trim x.text) = .ok c ∧
    (CommandLine.parse (Text.trim x.text)).argument = argument

/-- The parts of a text that begins with a command: the blanks before it, the command and what is
behind it, from the first blank on. -/
structure CommandParts (lead head between : Text) : Prop where
  blank : ∀ u ∈ lead, u.isBlank = true
  filled : ∀ u ∈ head, u.isBlank = false
  sigil : hasSigil (dropSign head) = true
  behind : ∃ b more, between = b :: more ∧ b.isBlank = true

namespace CommandParts

variable {lead head between name : Text} {c : Command Builtin} (h : CommandParts lead head between)
include h

theorem trimStart (rest : Text) : Text.trimStart (lead ++ (head ++ rest)) = head ++ rest := by
  refine trimStart_append h.blank fun v hv => ?_
  obtain ⟨u, more, rfl, -⟩ := sigil_cases (hasSigil_of_dropSign h.sigil)
  obtain rfl := Option.some.inj hv
  exact h.filled u List.mem_cons_self

theorem trim_named : Text.trim (lead ++ (head ++ (between ++ escapeName name))) =
    head ++ (between ++ escapeName name) := by
  rw [Text.trim, h.trimStart, ← List.append_assoc, trimEnd_name]

/-- A command with a name behind it is read as the command and what follows it. -/
theorem parse_named :
    CommandLine.parse (Text.trim (lead ++ (head ++ (between ++ escapeName name)))) =
      CommandLine.split head (Text.trim (between ++ escapeName name)) := by
  have hstart : Text.trimStart (Text.trim (lead ++ (head ++ (between ++ escapeName name)))) =
      head ++ (between ++ escapeName name) := by
    have hbare : CommandParts [] head between :=
      ⟨fun _ hu => absurd hu List.not_mem_nil, h.filled, h.sigil, h.behind⟩
    rw [h.trim_named]
    exact hbare.trimStart _
  have hblank : ∀ v, (between ++ escapeName name).head? = some v → v.isBlank = true := by
    intro v hv
    obtain ⟨b, more, rfl, hb⟩ := h.behind
    obtain rfl := Option.some.inj hv
    exact hb
  refine parse_words hstart h.filled hblank ?_
  rw [trim_trim, h.trim_named, ← List.append_assoc]
  exact fun hl => (last_of_name hl).2 rfl

theorem alone_iff :
    IsCommandAlone (lead ++ (head ++ between)) ↔ ∀ u ∈ between, u.isBlank = true := by
  have htrim : Text.trim (lead ++ (head ++ between)) = head ++ Text.trimEnd between := by
    rw [Text.trim, h.trimStart]
    exact trimEnd_append between fun u hu => h.filled u (List.mem_of_getLast? hu)
  rw [IsCommandAlone, htrim]
  constructor
  · intro hall
    -- what is left behind the command would begin with its blank
    have hnil : Text.trimEnd between = [] := by
      cases hr : Text.trimEnd between with
      | nil => rfl
      | cons v rest =>
        obtain ⟨b, more, rfl, hb⟩ := h.behind
        obtain ⟨tail, ht⟩ := trimEnd_front (b :: more)
        rw [hr] at ht
        obtain ⟨rfl, -⟩ := List.cons.inj ht
        have hv := hall v (List.mem_append_right _ (by rw [hr]; exact List.mem_cons_self))
        rw [hb] at hv
        contradiction
    exact List.rdropWhile_eq_nil_iff.mp hnil
  · intro hblank
    rw [trimEnd_blank hblank, List.append_nil]
    exact h.filled

theorem no_semicolon (hc : Builtin.registry.find? (dropSign head) = some c)
    (hname : IsWrittenBare name) (hblank : ∀ u ∈ between, u.isBlank = true) :
    unit ';' ∉ lead ++ (head ++ (between ++ escapeName name)) := by
  have hfilled : (unit ';').isBlank = false := by decide
  have hpart : Lexeme.isWordPart (unit ';') = false := by decide +kernel
  simp only [List.mem_append, escapeName_bare hname]
  rintro (hm | hm | hm | hm)
  · rw [h.blank _ hm] at hfilled
    contradiction
  · rcases mem_dropSign hm with hm | hm | hm
    · exact semicolon_not_found hc hm
    · exact absurd hm (by decide)
    · exact absurd hm (by decide)
  · rw [hblank _ hm] at hfilled
    contradiction
  · rw [wordPart_of_bare (bare_of_plain hname.1) _ hm] at hpart
    contradiction

theorem endsInCall_iff {front : Text} (hfront : EndsEmpty (statements front))
    (hc : Builtin.registry.find? (dropSign head) = some c) :
    EndsInCall (front ++ (lead ++ (head ++ (between ++ escapeName name)))) front.length c name ↔
      IsWrittenBare name ∧ ∀ u ∈ between, u.isBlank = true := by
  have hparse : CommandLine.parse (Text.trim (lead ++ (head ++ (between ++ escapeName name)))) =
      CommandLine.split head (Text.trim (between ++ escapeName name)) := h.parse_named
  have hcommand := congrArg CommandLine.command hparse
  have hargument := congrArg CommandLine.argument hparse
  rw [command_split _ (hasSigil_of_dropSign h.sigil)] at hcommand
  rw [split_argument] at hargument
  constructor
  · rintro ⟨x, hx, hstart, -, -, hx'⟩
    obtain ⟨front', hsql, hstart', -⟩ := last_statement hx
    obtain ⟨-, htext⟩ := List.append_inj hsql (hstart ▸ hstart')
    rw [← htext, hargument] at hx'
    exact argument_eq_iff.mp hx'
  · rintro ⟨hname, hblank⟩
    have hone := statements_unmarked (unmarked_of_absent (h.no_semicolon hc hname hblank))
    have hlast := List.getLast?_concat (l := (statements front).filter (·.terminated))
      (a := shiftStatement front.length
        ⟨0, tokenize (lead ++ (head ++ (between ++ escapeName name))), false⟩)
    rw [← List.map_singleton, ← hone, ← statements_join _ hfront] at hlast
    refine ⟨_, hlast, Nat.zero_add _, ?_⟩
    rw [text_shift, text_whole, hargument, Registry.isCommand, Registry.resolve, hcommand, hc]
    refine ⟨?_, rfl, argument_eq_iff.mpr ⟨hname, hblank⟩⟩
    obtain ⟨u, rest, hu, -⟩ := sigil_cases h.sigil
    rw [hu]
    rfl

end CommandParts

/-- The text with another one in the place of the word. -/
def replaceWord (sql : Text) (word : PartialWord) (text : Text) : Text :=
  sql.take word.start.toNat ++ text ++ sql.drop word.stop.toNat

/-- What is typed behind a command falls into the blanks and words behind it and the last word. -/
theorem typed_parts {typed : Text} (hb : typed.any CodeUnit.isBlank = true) :
    ∃ between, typed = typed.takeWhile (fun u => !u.isBlank) ++
        (between ++ Text.takeEndWhile (fun u => !u.isBlank) typed) ∧
      ∃ b more, between = b :: more ∧ b.isBlank = true := by
  obtain ⟨b, more, hrest, hblank⟩ : ∃ b more, typed.dropWhile (fun u => !u.isBlank) = b :: more ∧
      b.isBlank = true := by
    cases hr : typed.dropWhile (fun u => !u.isBlank) with
    | nil =>
      obtain ⟨u, hu, hblank⟩ := List.any_eq_true.mp hb
      have hno := List.dropWhile_eq_nil_iff.mp hr u hu
      rw [hblank] at hno
      contradiction
    | cons b more =>
      have hno := List.head?_dropWhile_not (fun u : CodeUnit => !u.isBlank) typed
      rw [hr, List.head?_cons] at hno
      exact ⟨b, more, rfl, by simpa using hno⟩
  have hsplit : typed = typed.takeWhile (fun u => !u.isBlank) ++ b :: more := by
    rw [← hrest, List.takeWhile_append_dropWhile]
  have hword : Text.takeEndWhile (fun u => !u.isBlank) typed =
      List.rtakeWhile (fun u : CodeUnit => !u.isBlank) (b :: more) := by
    have hfewer : ((b :: more).reverse.takeWhile (fun u : CodeUnit => !u.isBlank)).length ≠
        (b :: more).reverse.length := by
      intro hl
      have hall := (List.takeWhile_prefix _).eq_of_length hl
      have hm : b ∈ (b :: more).reverse := List.mem_reverse.mpr List.mem_cons_self
      rw [← hall] at hm
      have hno := List.mem_takeWhile_imp hm
      rw [hblank] at hno
      contradiction
    rw [Text.takeEndWhile]
    conv_lhs => rw [hsplit]
    rw [List.reverse_append, List.takeWhile_append, if_neg hfewer]
    rfl
  have hparts : List.rdropWhile (fun u : CodeUnit => !u.isBlank) (b :: more) ++
      List.rtakeWhile (fun u : CodeUnit => !u.isBlank) (b :: more) = b :: more :=
    List.rdropWhile_append_rtakeWhile
  cases hbetween : List.rdropWhile (fun u : CodeUnit => !u.isBlank) (b :: more) with
  | nil =>
    have hno := List.rdropWhile_eq_nil_iff.mp hbetween b List.mem_cons_self
    rw [hblank] at hno
    contradiction
  | cons v rest =>
    rw [hbetween] at hparts
    obtain ⟨rfl, -⟩ := List.cons.inj hparts
    exact ⟨v :: rest, by rw [hword, hparts]; exact hsplit, v, rest, rfl, hblank⟩

theorem line_parts {t : Text} (hs : hasSigil (writtenCommand t) = true)
    (hb : (Text.trimStart t).any CodeUnit.isBlank = true) :
    ∃ lead head between, CommandParts lead head between ∧ writtenCommand t = dropSign head ∧
      t = lead ++ (head ++ (between ++
        Text.takeEndWhile (fun u => !u.isBlank) (Text.trimStart t))) := by
  obtain ⟨between, hsplit, hbehind⟩ := typed_parts hb
  refine ⟨t.takeWhile CodeUnit.isBlank, (Text.trimStart t).takeWhile (fun u => !u.isBlank),
    between, ⟨fun _ hu => List.mem_takeWhile_imp hu, fun _ hu => ?_, hs, hbehind⟩, rfl, ?_⟩
  · simpa using List.mem_takeWhile_imp hu
  · rw [← hsplit, Text.trimStart, List.takeWhile_append_dropWhile]

/-- A candidate that is a table is proposed for objects of the schema. -/
theorem object_of_candidate {casing : KeywordCasing} {substrings : Bool} {typed : Text}
    {schema : Option SchemaSnapshot} {v : Vocabulary} {x : Suggestion} {k : Candidate}
    (hk : k ∈ Candidate.rank casing substrings typed (Proposal.ofSuggestions schema v [x]))
    (hkind : k.kind = .table) :
    ∃ snapshot qualifier objects o name, schema = some snapshot ∧ x = .table qualifier objects ∧
      o ∈ objects ∧ name ∈ Proposal.objectNames snapshot o ∧ k.text = escapeName name := by
  obtain ⟨p, hp, m, -, rfl⟩ := proposal_of_rank hk
  obtain ⟨y, hy, hproposed⟩ := List.mem_flatMap.mp hp
  obtain rfl := List.mem_singleton.mp hy
  cases proposed_of_mem hproposed with
  | object hs ho hn => exact ⟨_, _, _, _, _, hs, rfl, ho, hn, rfl⟩
  | _ => contradiction

/-- Tables among the candidates at the end of a statement that begins with a command which takes
one: its argument has been begun, and they are tables and views of the schema. -/
theorem candidates_of_command {s : Statement} {cursor : Int} {casing : KeywordCasing}
    {substrings : Bool} {typed : Text} {schema : Option SchemaSnapshot} {k : Candidate}
    {c : Command Builtin} (hcursor : Text.firstItems (cursor - s.start) s.text = s.text)
    (hs : hasSigil (writtenCommand s.text) = true)
    (hc : Builtin.registry.find? (writtenCommand s.text) = some c) (ha : c.argument = .table)
    (hk : k ∈ Candidate.rank casing substrings typed
      (Proposal.ofSuggestions schema Builtin.registry.vocabulary
        (classify s cursor Builtin.registry.vocabulary).suggestions))
    (hkind : k.kind = .table) :
    (Text.trimStart s.text).any CodeUnit.isBlank = true ∧
      (let word := Text.takeEndWhile (fun u => !u.isBlank) (Text.trimStart s.text)
       (classify s cursor Builtin.registry.vocabulary).word =
        ⟨word, cursor - word.length, cursor⟩) ∧
      ∃ snapshot name, schema = some snapshot ∧
        name ∈ snapshot.tableNames ++ snapshot.viewNames ∧ k.text = escapeName name := by
  obtain ⟨u, more, hhead, hu⟩ := sigil_cases (hasSigil_of_dropSign hs)
  have hfirst : (Text.trimStart s.text).head? = some u := by
    rw [← List.takeWhile_append_dropWhile (p := fun u : CodeUnit => !u.isBlank)
      (l := Text.trimStart s.text), hhead]
    rfl
  have hmark := sigils_vocabulary hu
  have htyped := congrArg Text.trimStart hcursor
  cases hb : (Text.trimStart s.text).any CodeUnit.isBlank with
  | false =>
    rw [classify_command htyped hfirst hmark hb] at hk
    obtain ⟨_, _, _, _, _, -, hx, -⟩ := object_of_candidate hk hkind
    contradiction
  | true =>
    have hsuggestion : argumentSuggestion Builtin.registry.vocabulary (writtenCommand s.text) =
        .table none [.table, .view] := by
      rw [argumentSuggestion, vocabulary_find hs, filed_of_found hc, Option.map_some,
        Option.map_some, CommandEntry.spec, ha]
    have hcontext := classify_argument htyped hfirst hmark hb
    rw [← writtenCommand, hsuggestion] at hcontext
    rw [hcontext] at hk ⊢
    obtain ⟨snapshot, _, _, o, name, hsnapshot, hx, ho, hname, htext⟩ :=
      object_of_candidate hk hkind
    cases hx
    refine ⟨rfl, rfl, snapshot, name, hsnapshot, ?_, htext⟩
    simp only [List.mem_cons, List.not_mem_nil, or_false] at ho
    rcases ho with rfl | rfl
    · exact List.mem_append_left _ hname
    · exact List.mem_append_right _ hname

/-- The name of a table or view that is completed behind a command reaches the command as the
schema has it just where it is written bare, and nothing else stands behind the command. -/
theorem completed_argument_iff {sql : Text} {schema : Option SchemaSnapshot}
    {options : CompletionOptions} {reading : Nat → Millis} {d : Completion} {k : Candidate}
    {c : Command Builtin}
    (h : Completion.run sql (.offset sql.length) schema options reading = .ok d)
    (hv : options.vocabulary = some Builtin.registry.vocabulary)
    (hs : hasSigil (writtenCommand (statementAt sql sql.length).text) = true)
    (hc : Builtin.registry.find? (writtenCommand (statementAt sql sql.length).text) = some c)
    (ha : c.argument = .table) (hk : k ∈ d.candidates) (hkind : k.kind = .table) :
    ∃ snapshot name, schema = some snapshot ∧
      name ∈ snapshot.tableNames ++ snapshot.viewNames ∧ k.text = escapeName name ∧
      (EndsInCall (replaceWord sql d.context.word k.text) (statementAt sql sql.length).start c
          name ↔
        IsWrittenBare name ∧ IsCommandAlone
          (sql.extract (statementAt sql sql.length).start d.context.word.start.toNat)) := by
  obtain ⟨hcontext, hfor⟩ := run_ok h
  obtain ⟨hcandidates, -⟩ := candidatesFor_ok hfor
  obtain ⟨front, hsql, hstart, hfront⟩ := last_statement (statementAt_end sql)
  have hvocabulary : options.vocabularyOrEmpty = Builtin.registry.vocabulary := by
    rw [CompletionOptions.vocabularyOrEmpty, hv]
    rfl
  generalize statementAt sql sql.length = s at *
  rw [hvocabulary] at hcontext hcandidates
  rw [hcandidates, hcontext] at hk
  have hcursor : Text.firstItems ((sql.length : Int) - s.start) s.text = s.text := by
    have hlength : (sql.length : Int) - s.start = Int.ofNat s.text.length := by
      rw [hstart, hsql, List.length_append, Int.ofNat_eq_natCast]
      omega
    rw [hlength]
    exact List.take_length
  obtain ⟨hb, hword, snapshot, name, hschema, hname, htext⟩ :=
    candidates_of_command hcursor hs hc ha hk hkind
  obtain ⟨lead, head, between, hparts, hcommand, hline⟩ := line_parts hs hb
  refine ⟨snapshot, name, hschema, hname, htext, ?_⟩
  rw [← hcontext] at hword
  generalize Text.takeEndWhile (fun u => !u.isBlank) (Text.trimStart s.text) = word at hword hline
  have hpieces : sql = front ++ (lead ++ (head ++ between)) ++ word := by
    rw [hsql, hline]
    simp only [List.append_assoc]
  have hbegin : d.context.word.start.toNat = (front ++ (lead ++ (head ++ between))).length := by
    have hlength := congrArg List.length hpieces
    rw [List.length_append] at hlength
    simp only [hword]
    omega
  have hstop : d.context.word.stop.toNat = sql.length := by
    simp only [hword]
    omega
  have hreplaced : replaceWord sql d.context.word k.text =
      front ++ (lead ++ (head ++ (between ++ escapeName name))) := by
    rw [replaceWord, hbegin, hstop, List.drop_length, htext]
    conv_lhs => rw [hpieces]
    rw [List.take_left]
    simp only [List.append_assoc, List.append_nil]
  have hbefore : sql.extract s.start d.context.word.start.toNat = lead ++ (head ++ between) := by
    have hlength : (front ++ (lead ++ (head ++ between))).length - front.length =
        (lead ++ (head ++ between)).length := by
      rw [List.length_append]
      omega
    rw [List.extract_eq_take_drop, hstart, hbegin, hpieces, List.append_assoc, List.drop_left,
      hlength, List.take_left]
  rw [hreplaced, hbefore, hstart, hparts.alone_iff]
  exact hparts.endsInCall_iff hfront (hcommand ▸ hc)

/-- Any table whose name fits is offered behind `.schema ord`. -/
theorem offered_behind_schema {name : Text} (hfits : Fits true "ord" name) :
    let sql : Text := ".schema ord"
    let snapshot : SchemaSnapshot := .ofLists [(name, [])] [] [] [] [] [] 0
    let options : CompletionOptions := { vocabulary := some Builtin.registry.vocabulary }
    ∃ d k, Completion.run sql (.offset sql.length) (some snapshot) options (fun _ => 0) = .ok d ∧
      d.context.word = ⟨"ord", 8, 11⟩ ∧ k ∈ d.candidates ∧ k.kind = .table ∧
      k.text = escapeName name := by
  intro sql snapshot options
  obtain ⟨d, hd⟩ : ∃ d, Completion.run sql (.offset sql.length) (some snapshot) options
      (fun _ => 0) = .ok d := ⟨_, run_of_le (Nat.le_refl _)⟩
  have hcontext : (classify (statementAt sql sql.length) sql.length
        Builtin.registry.vocabulary).suggestions = [.table none [.table, .view]] ∧
      (classify (statementAt sql sql.length) sql.length Builtin.registry.vocabulary).word =
        ⟨"ord", 8, 11⟩ := by decide +kernel
  obtain ⟨hclassified, hfor⟩ := run_ok hd
  rw [← show d.context = classify (statementAt sql sql.length) sql.length
    Builtin.registry.vocabulary from hclassified] at hcontext
  obtain ⟨hcandidates, -⟩ := candidatesFor_ok hfor
  have hp : ⟨.table, name, escapeName name, .schema, true, some "table"⟩ ∈
      Proposal.ofSuggestions (some snapshot) options.vocabularyOrEmpty d.context.suggestions := by
    rw [hcontext.1]
    exact List.mem_cons_self
  have hfit : Fits (options.substringsOrDefault && true) d.context.word.text name := by
    rw [hcontext.2]
    exact hfits
  obtain ⟨k, hk, hkind, htext⟩ : ∃ k ∈ d.candidates, k.kind = .table ∧
      k.text = escapeName name := by
    rw [hcandidates]
    exact rank_covers hp hfit
  exact ⟨d, k, hd, hcontext.2, hk, hkind, htext⟩

/-- A table of a plain name reaches the command under it. -/
theorem plain_table_reaches_command :
    let sql : Text := ".schema ord"
    let snapshot : SchemaSnapshot := .ofLists [("orders", [])] [] [] [] [] [] 0
    let options : CompletionOptions := { vocabulary := some Builtin.registry.vocabulary }
    ∃ d k c, Completion.run sql (.offset sql.length) (some snapshot) options (fun _ => 0) = .ok d ∧
      hasSigil (writtenCommand (statementAt sql sql.length).text) = true ∧
      Builtin.registry.find? (writtenCommand (statementAt sql sql.length).text) = some c ∧
      c.argument = .table ∧ k ∈ d.candidates ∧ k.kind = .table ∧
      EndsInCall (replaceWord sql d.context.word k.text) 0 c "orders" := by
  intro sql snapshot options
  have hfits : Fits true "ord" "orders" := .inl (by decide +kernel)
  obtain ⟨d, k, hd, hword, hk, hkind, htext⟩ := offered_behind_schema hfits
  have hs : hasSigil (writtenCommand (statementAt sql sql.length).text) = true := by
    decide +kernel
  have hfound : (Builtin.registry.find? (writtenCommand (statementAt sql sql.length).text)).map
      (fun c => c.argument) = some .table := by decide +kernel
  obtain ⟨c, hc, ha⟩ := Option.map_eq_some_iff.mp hfound
  obtain ⟨_, name, -, -, hname, hiff⟩ := completed_argument_iff hd rfl hs hc ha hk hkind
  obtain rfl : name = "orders" := by
    rw [← unquote_escapeName name, ← hname, htext, unquote_escapeName]
  have hstart : (statementAt sql sql.length).start = 0 := by decide +kernel
  rw [hstart, hword] at hiff
  refine ⟨d, k, c, hd, hs, hc, ha, hk, hkind, ?_⟩
  rw [hword]
  exact hiff.mpr (by decide +kernel)

/-- A table whose name holds a blank reaches the command with its quotes. -/
theorem quoted_table_reaches_command_quoted :
    let sql : Text := ".schema ord"
    let snapshot : SchemaSnapshot := .ofLists [("order items", [])] [] [] [] [] [] 0
    let options : CompletionOptions := { vocabulary := some Builtin.registry.vocabulary }
    ∃ d k, Completion.run sql (.offset sql.length) (some snapshot) options (fun _ => 0) = .ok d ∧
      k ∈ d.candidates ∧ k.kind = .table ∧ k.text = escapeName "order items" ∧
      (CommandLine.parse (replaceWord sql d.context.word k.text)).argument =
        "\x22order items\x22" ∧
      ∀ c, ¬ EndsInCall (replaceWord sql d.context.word k.text) 0 c "order items" := by
  intro sql snapshot options
  have hfits : Fits true "ord" "order items" := .inl (by decide +kernel)
  obtain ⟨d, k, hd, hword, hk, hkind, htext⟩ := offered_behind_schema hfits
  have hone : (statements (replaceWord sql ⟨"ord", 8, 11⟩ (escapeName "order items"))).map
      (fun x => (CommandLine.parse (Text.trim x.text)).argument) = ["\x22order items\x22"] := by
    decide +kernel
  refine ⟨d, k, hd, hk, hkind, htext, ?_, ?_⟩
  · rw [hword, htext]
    decide +kernel
  · rw [hword, htext]
    rintro c ⟨x, hx, -, -, -, hargument⟩
    have hm := List.mem_map_of_mem (f := fun x : Statement =>
      (CommandLine.parse (Text.trim x.text)).argument) (List.mem_of_getLast? hx)
    rw [hone] at hm
    rw [List.mem_singleton.mp hm] at hargument
    exact absurd hargument (by decide +kernel)

end SqlShell.Proofs
