import SqlShell.Proofs.CommandWords
import SqlShell.Proofs.Narrowing
import SqlShell.Proofs.PlainWords
import SqlShell.Proofs.Proposals
import SqlShell.Proofs.Scope
import SqlShell.Session.Completer

namespace SqlShell.Proofs

theorem key_of_insertEntry [DecidableEq κ] {key k : κ} {value : β} {entries : List (κ × β)}
    (h : k ∈ (OrderedMap.insertEntry key value entries).map Prod.fst) :
    k = key ∨ k ∈ entries.map Prod.fst := by
  induction entries with
  | nil => exact .inl (List.mem_singleton.mp h)
  | cons e entries ih =>
    obtain ⟨first, v⟩ := e
    rw [OrderedMap.insertEntry] at h
    split at h
    · exact .inr h
    · rcases List.mem_cons.mp h with rfl | h
      · exact .inr List.mem_cons_self
      · exact (ih h).imp_right (List.mem_cons_of_mem _)

theorem key_of_insertAll [DecidableEq κ] {m : OrderedMap κ β} {k : κ} {entries : List (κ × β)}
    (h : k ∈ (m.insertAll entries).keys) : k ∈ m.keys ∨ k ∈ entries.map Prod.fst := by
  induction entries generalizing m with
  | nil => exact .inl h
  | cons e entries ih =>
    rcases ih (m := m.insert e.1 e.2) h with h | h
    · rcases key_of_insertEntry h with rfl | h
      · exact .inr List.mem_cons_self
      · exact .inl h
    · exact .inr (List.mem_cons_of_mem _ h)

theorem vocabulary_hasSigil {registry : Registry α} {word : Text}
    (h : word ∈ registry.vocabulary.keys) : hasSigil word = true := by
  rcases key_of_insertAll h with h | h
  · contradiction
  · obtain ⟨e, he, rfl⟩ := List.mem_map.mp h
    obtain ⟨c, -, he⟩ := List.mem_flatMap.mp he
    obtain ⟨n, hn, rfl⟩ := List.mem_map.mp he
    exact (List.mem_filter.mp hn).2

theorem unquoted_of_sigil {word : Text} (h : hasSigil word = true) : ¬ BeginsQuoted word := by
  obtain ⟨u, rest, rfl, rfl | rfl⟩ := sigil_cases h
  · simp [BeginsQuoted, show closingQuote? (unit '.') = none by decide]
  · simp [BeginsQuoted, show closingQuote? (unit '\\') = none by decide]

/-- The words that are written in the letter case of keywords. -/
def recasedWords : List Text := Words.statements ++ Words.keywords ++ Words.functions

/-- An ASCII word without a quote in front. -/
def isUnquotedPlain (word : Text) : Bool := IsPlain word ∧ ¬ BeginsQuoted word

theorem keywords_plain : Keyword.all.all (fun k => isUnquotedPlain k.text) = true := by
  decide +kernel

theorem fixedNames_plain :
    (Words.types ++ Words.phrases ++ Words.builtinFunctions).all (fun w => isUnquotedPlain w) =
      true := by decide +kernel

/-- What holds of every keyword and every fixed name holds of all words that are recased. -/
theorem recasedWords_all {test : Text → Bool}
    (hkeywords : Keyword.all.all (fun k => test k.text) = true)
    (hnames : (Words.types ++ Words.phrases ++ Words.builtinFunctions).all (fun w => test w) = true)
    {word : Text} (h : word ∈ recasedWords) : test word = true := by
  have hstarts : Keyword.statementStarts ⊆ Keyword.all := by decide +kernel
  rw [List.all_eq_true] at hkeywords hnames
  simp only [recasedWords, Words.statements, Words.keywords, Words.functions, List.mem_append,
    mem_sorted, List.mem_map] at h hnames
  obtain (⟨k, hk, rfl⟩ | (⟨k, hk, rfl⟩ | ⟨w, hw, rfl⟩) | ⟨w, hw, rfl⟩) | ⟨w, hw, rfl⟩ := h
  · exact hkeywords k (hstarts hk)
  · exact hkeywords k hk
  · exact hnames w (.inl (.inl hw))
  · exact hnames w (.inl (.inr hw))
  · exact hnames w (.inr hw)

theorem recasedWords_plain {word : Text} (h : word ∈ recasedWords) :
    IsPlain word ∧ ¬ BeginsQuoted word :=
  of_decide_eq_true (recasedWords_all keywords_plain fixedNames_plain h)

theorem mem_keywords {w : Text} {words : List Text}
    (h : ⟨.keyword, w, w, .keyword, false, none⟩ ∈ Proposal.keywords words) : w ∈ words := by
  simpa [Proposal.keywords] using h

theorem firstItems_map {f : α → β} (n : Int) (items : List α) :
    Text.firstItems n (items.map f) = (Text.firstItems n items).map f := by
  cases n with
  | ofNat n => exact (List.map_take).symm
  | negSucc n => rw [Text.firstItems, List.length_map, ← List.map_take, Text.firstItems]

section
variable {schema : Option SchemaSnapshot} {registry : Registry α}
  (hcalls : ∀ s ∈ schema, ∀ n ∈ s.pragmas ++ s.functions, ¬ BeginsQuoted n)
include hcalls

/-- A candidate is read as the name it is offered for, letter case aside. -/
theorem candidate_reads_back {suggestions : List Suggestion} {p : Proposal}
    (hp : p ∈ Proposal.ofSuggestions schema registry.vocabulary suggestions)
    (casing : KeywordCasing) (typed : Text) (m : Candidate.Match) :
    (unquote (p.candidate casing typed m).text).lower = p.name.lower := by
  have hrecased {word : Text} (hw : word ∈ recasedWords) :
      (unquote (casing.apply typed word)).lower = word.lower :=
    recased_plain casing typed (recasedWords_plain hw).1 (recasedWords_plain hw).2
  obtain ⟨x, -, hx⟩ := List.mem_flatMap.mp hp
  cases proposed_of_mem hx with
  | keyword set w =>
    apply hrecased
    cases set with
    | statement => simp [recasedWords, mem_keywords hx]
    | all => simp [recasedWords, mem_keywords hx]
  | anything w =>
    apply hrecased
    simp [recasedWords, mem_keywords hx]
  | builtin n =>
    apply hrecased
    have hn : n ∈ Words.functions := by
      simpa [Proposal.ofSuggestion, Proposal.functions] using hx
    simp [recasedWords, hn]
  | object | column | aliasName => exact congrArg Text.lower (unquote_escapeName _)
  | function hs hn =>
    exact congrArg Text.lower (unquote_unquoted (hcalls _ hs _ (List.mem_append_right _ hn)))
  | pragma hs hn =>
    exact congrArg Text.lower (unquote_unquoted (hcalls _ hs _ (List.mem_append_left _ hn)))
  | command c spec =>
    have hc : c ∈ registry.vocabulary.keys := by
      obtain ⟨e, he, heq⟩ := List.mem_map.mp hx
      obtain ⟨-, rfl, -⟩ := Proposal.mk.inj heq
      exact List.mem_map_of_mem he
    exact congrArg Text.lower (unquote_unquoted (unquoted_of_sigil (vocabulary_hasSigil hc)))

/-- The test of the line editor keeps what begins with the typed word, and drops what only contains
it. -/
theorem continues_iff {suggestions : List Suggestion} {casing : KeywordCasing}
    {substrings : Bool} {typed : Text} {c : Candidate}
    (hc : c ∈ Candidate.rank casing substrings typed
      (Proposal.ofSuggestions schema registry.vocabulary suggestions)) :
    Completer.continuesTyped typed c = notInside c := by
  obtain ⟨p, m, ⟨hp, hm⟩, rfl⟩ := accepted_of_rank hc
  have hname := candidate_reads_back hcalls hp casing typed m
  rw [Completer.continuesTyped, hname, Bool.eq_iff_iff, List.isPrefixOf_iff_prefix, begins_iff hm]
  exact bne_iff_ne.symm

/-- The line is completed as if no substrings had been looked for. -/
theorem completed_narrow (config : Config) {pending : List Text} {line sql : Text}
    {context : Context} (hsql : Text.join [unit '\n'] (pending ++ [line]) = sql)
    (hcontext : classify (statementAt sql sql.length) sql.length registry.vocabulary = context)
    (hreads : ∀ x ∈ context.suggestions, x.readsSchema = true → schema.isSome = true) :
    (Completer.complete schema config registry.vocabulary pending line).1 =
      Text.firstItems config.maxSuggestions ((Candidate.rank config.casing false context.word.text
        (Proposal.ofSuggestions schema registry.vocabulary context.suggestions)).map
          Candidate.text) := by
  let cs := Candidate.rank config.casing config.substrings context.word.text
    (Proposal.ofSuggestions schema registry.vocabulary context.suggestions)
  have hcs : Completion.candidatesFor context.suggestions context.word.text schema
      (Completer.options config registry.vocabulary) = .ok cs := candidatesFor_of_reads hreads _ _
  have hrun : Completion.run sql (.offset sql.length) schema
      (Completer.options config registry.vocabulary) (fun _ => 0) =
        .ok ⟨cs, context, statementAt sql sql.length, none⟩ := by
    have hvocabulary : (Completer.options config registry.vocabulary).vocabularyOrEmpty =
      registry.vocabulary := rfl
    rw [run_of_le (Nat.le_refl _), Completion.atOffset, hvocabulary]
    simp only [hcontext]
    rw [hcs]
    rfl
  have hkept : cs.filter (Completer.continuesTyped context.word.text) = cs.filter notInside :=
    List.filter_congr (fun c hc => continues_iff hcalls hc)
  rw [Completer.complete, hsql, hrun, rank_narrow config.casing config.substrings, firstItems_map]
  dsimp only
  rw [hkept]

end

/-- A line is completed with the texts of those candidates whose names begin with the typed word, in
the order of the candidates and as many as are wanted. Whether substrings are looked for makes no
difference to a line. -/
theorem completed_texts {schema : Option SchemaSnapshot} {config : Config} {registry : Registry α}
    {pending : List Text} {line : Text} {reading : Nat → Millis} {c : Completion}
    (hcalls : ∀ s ∈ schema, ∀ n ∈ s.pragmas ++ s.functions, ¬ BeginsQuoted n)
    (h : let sql := Text.join [unit '\n'] (pending ++ [line])
      Completion.run sql (.offset sql.length) schema
        (Completer.options config registry.vocabulary) reading = .ok c) :
    let complete (config : Config) : List Text :=
      (Completer.complete schema config registry.vocabulary pending line).1
    complete config = Text.firstItems config.maxSuggestions
      ((c.candidates.filter (fun d => d.matched = .front ∨ d.matched = .untyped)).map
        Candidate.text) ∧
    ∀ substrings, complete { config with substrings } = complete config := by
  intro complete
  obtain ⟨hcontext, hfor⟩ := run_ok h
  obtain ⟨hcandidates, hreads⟩ := candidatesFor_ok hfor
  have hnarrow (config : Config) := completed_narrow hcalls config rfl hcontext.symm hreads
  have htest : (fun d : Candidate => decide (d.matched = .front ∨ d.matched = .untyped)) =
      notInside := by
    funext d
    cases hm : d.matched <;> simp [notInside, hm]
  constructor
  · change (Completer.complete schema config registry.vocabulary pending line).1 = _
    rw [hnarrow config, htest, hcandidates, rank_narrow config.casing config.substrings]
    rfl
  · intro substrings
    exact (hnarrow { config with substrings }).trans (hnarrow config).symm

/-- The test passes a table that is inserted in quotes, for a statement begun a line earlier. -/
theorem quoted_table_completed :
    let snapshot : SchemaSnapshot :=
      .ofLists [("order items", [])] [] [] ["foreign_keys"] ["regexp"] [] 0
    let sql := Text.join [unit '\n'] ([Text.ofString "SELECT *"] ++ [Text.ofString "FROM ord"])
    (∀ s ∈ some snapshot, ∀ n ∈ s.pragmas ++ s.functions, ¬ BeginsQuoted n) ∧
      (∃ c, Completion.run sql (.offset sql.length) (some snapshot)
        (Completer.options {} Builtin.registry.vocabulary) (fun _ => 0) = .ok c) ∧
      ∀ substrings, (Completer.complete (some snapshot) { substrings }
        Builtin.registry.vocabulary ["SELECT *"] "FROM ord").1 = [escapeName "order items"] := by
  intro snapshot sql
  have hcalls : ∀ s ∈ some snapshot, ∀ n ∈ s.pragmas ++ s.functions, ¬ BeginsQuoted n := by
    intro s hs
    obtain rfl := Option.some.inj hs
    decide +kernel
  obtain ⟨c, hc⟩ : ∃ c, Completion.run sql (.offset sql.length) (some snapshot)
      (Completer.options {} Builtin.registry.vocabulary) (fun _ => 0) = .ok c :=
    ⟨_, run_of_le (Nat.le_refl _)⟩
  obtain ⟨htexts, hsame⟩ := completed_texts hcalls hc
  obtain ⟨hclassified, hfor⟩ := run_ok hc
  have hcontext : (classify (statementAt sql sql.length) sql.length
        Builtin.registry.vocabulary).suggestions = [.table none [.table, .view]] ∧
      (classify (statementAt sql sql.length) sql.length Builtin.registry.vocabulary).word.text =
        "ord" := by decide +kernel
  rw [← show c.context = classify (statementAt sql sql.length) sql.length
    Builtin.registry.vocabulary from hclassified] at hcontext
  let p : Proposal := ⟨.table, "order items", escapeName "order items", .schema, true, some "table"⟩
  have hfits : p.match? "ord" true = some .front := by decide +kernel
  have hcandidates : c.candidates = [⟨escapeName "order items", .table, 20300, .front,
      some "table"⟩] := by
    rw [(candidatesFor_ok hfor).1, hcontext.1, hcontext.2]
    exact rank_singleton hfits
  refine ⟨hcalls, ⟨c, hc⟩, fun substrings => (hsame substrings).trans (htexts.trans ?_)⟩
  rw [hcandidates]
  rfl

end SqlShell.Proofs
