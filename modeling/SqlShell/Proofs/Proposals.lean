import Mathlib.Data.List.TakeWhile
import SqlShell.Candidate.Generate
import SqlShell.Proofs.Naming

namespace SqlShell.Proofs
open Lexeme

/-- A proposal of a suggestion, with one case for each way in which one is made. -/
inductive Proposed (schema : Option SchemaSnapshot) : Suggestion → Proposal → Prop
  | keyword (set : KeywordSet) (w : Text) :
      Proposed schema (.keyword set) ⟨.keyword, w, w, .keyword, false, none⟩
  | anything (w : Text) : Proposed schema .anything ⟨.keyword, w, w, .keyword, false, none⟩
  | object (hs : schema = some s) (ho : o ∈ objects) (hn : n ∈ Proposal.objectNames s o) :
      Proposed schema (.table qualifier objects)
        ⟨.table, n, escapeName n, .schema, true, some (Proposal.objectLabel o)⟩
  | column (hs : schema = some s) (hr : r ∈ scope) (hc : c ∈ s.columns r.name) :
      Proposed schema (.column scope) ⟨.column, c, escapeName c, .scope, true, some r.label⟩
  | aliasName (hr : r ∈ refs) (ha : r.aliasName = some a) :
      Proposed schema (.aliasName refs) ⟨.aliasName, a, escapeName a, .scope, true, some r.name⟩
  | builtin (n : Text) :
      Proposed schema .function ⟨.function, n, n, .builtinFunction, false, none⟩
  | function (hs : schema = some s) (hn : n ∈ s.functions) :
      Proposed schema .function ⟨.function, n, n, .schema, true, some "user"⟩
  | pragma (hs : schema = some s) (hn : n ∈ s.pragmas) :
      Proposed schema (.pragma qualifier) ⟨.pragma, n, n, .schema, true, none⟩
  | command (c : Text) (spec : CommandSpec) :
      Proposed schema (.special none) ⟨.special, c, c, .keyword, false, some spec.description⟩

section
variable {schema : Option SchemaSnapshot} {v : Vocabulary} {p : Proposal}

theorem proposed_of_mem {x : Suggestion} (hp : p ∈ Proposal.ofSuggestion schema v x) :
    Proposed schema x p := by
  cases x with
  | keyword set =>
    cases set with
    | statement | all =>
      obtain ⟨w, -, rfl⟩ := List.mem_map.mp hp
      exact .keyword _ w
  | anything =>
    obtain ⟨w, -, rfl⟩ := List.mem_map.mp hp
    exact .anything w
  | literal => contradiction
  | table qualifier objects =>
    cases schema with
    | none => contradiction
    | some s =>
      simp only [Proposal.ofSuggestion, Option.elim_some, Proposal.tables] at hp
      split at hp
      · obtain ⟨o, ho, hp⟩ := List.mem_flatMap.mp hp
        obtain ⟨n, hn, rfl⟩ := List.mem_map.mp hp
        exact .object rfl ho hn
      · contradiction
  | column scope =>
    cases schema with
    | none => contradiction
    | some s =>
      obtain ⟨r, hr, hp⟩ := List.mem_flatMap.mp hp
      obtain ⟨c, hc, rfl⟩ := List.mem_map.mp hp
      exact .column rfl hr hc
  | aliasName refs =>
    obtain ⟨r, hr, hp⟩ := List.mem_filterMap.mp hp
    obtain ⟨a, ha, rfl⟩ := Option.map_eq_some_iff.mp hp
    exact .aliasName hr ha
  | function =>
    rcases List.mem_append.mp hp with hp | hp
    · obtain ⟨n, -, rfl⟩ := List.mem_map.mp hp
      exact .builtin n
    · obtain ⟨n, hn, rfl⟩ := List.mem_map.mp hp
      cases schema with
      | none => contradiction
      | some s => exact .function rfl (List.mem_filter.mp hn).1
  | pragma qualifier =>
    cases schema with
    | none => contradiction
    | some s =>
      simp only [Proposal.ofSuggestion, Option.elim_some, Proposal.pragmas] at hp
      split at hp
      · obtain ⟨n, hn, rfl⟩ := List.mem_map.mp hp
        exact .pragma rfl hn
      · contradiction
  | special command =>
    cases command with
    | some command => contradiction
    | none =>
      obtain ⟨⟨c, spec⟩, -, rfl⟩ := List.mem_map.mp hp
      exact .command c spec

end

/-- The text is a single word, and the word stands for the name. -/
def ReadsAs (text name : Text) : Prop :=
  ∃ t, tokenize text = [t] ∧ t.isWord = true ∧ t.isUnterminated = false ∧ unquote t.text = name

theorem readsAs_of_lexemes {text name : Text} {l : Lexeme} (h : lexemes text = [l])
    (hw : l.isWord = true) (hu : l.isUnterminated = false) (hn : unquote l.text = name) :
    ReadsAs text name := by
  refine ⟨⟨l, 0⟩, ?_, hw, hu, hn⟩
  rw [tokenize, h]
  rfl

theorem readsAs_escapeName (name : Text) : ReadsAs (escapeName name) name := by
  have hread := lexemes_escapeName name endsWord_nil
  rw [List.append_nil, lexemes_nil] at hread
  have hword : (nameLexeme name).isWord = true ∧ (nameLexeme name).isUnterminated = false := by
    rw [nameLexeme]
    split
    · exact ⟨rfl, rfl⟩
    · exact ⟨rfl, rfl⟩
  exact readsAs_of_lexemes hread hword.1 hword.2 (unquote_escapeName name)

theorem readsAs_bare {word : Text} (h : IsBareWord word) : ReadsAs word word := by
  have hread := lexemes_word h endsWord_nil
  rw [List.append_nil, lexemes_nil] at hread
  have hword : (⟨wordKind word, word⟩ : Lexeme).isWord = true ∧
      (⟨wordKind word, word⟩ : Lexeme).isUnterminated = false := by
    rw [wordKind]
    split
    · exact ⟨rfl, rfl⟩
    · exact ⟨rfl, rfl⟩
  exact readsAs_of_lexemes hread hword.1 hword.2 (unquote_bare h)

theorem undouble_length_le (mark : CodeUnit) (t : Text) : (undouble mark t).length ≤ t.length := by
  fun_induction undouble mark t with
  | case1 u v rest h ih => simp only [List.length_cons]; omega
  | case2 u v rest h ih => simp only [List.length_cons] at ih ⊢; omega
  | case3 t h => exact Nat.le_refl _

/-- A quoted word stands for something shorter. -/
theorem unquote_shorter {u closer : CodeUnit} (h : closingQuote? u = some closer) (body : Text) :
    (unquote (u :: body)).length ≤ body.length := by
  have hinner : (if body.getLast? = some closer then body.dropLast else body).length ≤
      body.length := by
    split
    · rw [List.length_dropLast]
      omega
    · exact Nat.le_refl _
  rw [unquote, h]
  dsimp only
  split
  · exact Nat.le_trans (undouble_length_le closer _) hinner
  · exact hinner

/-- Only a bare word is a word that stands for itself. -/
theorem bare_of_readsAs {word : Text} (h : ReadsAs word word) : IsBareWord word := by
  obtain ⟨t, ht, hw, -, hn⟩ := h
  have hl : lexemes word = [t.toLexeme] := by
    rw [← map_placeFrom 0 (lexemes word), ← tokenize, ht]
    rfl
  cases word with
  | nil => contradiction
  | cons u rest =>
    have htext : t.text = u :: rest := by
      rw [← spell_lexemes (u :: rest), hl]
      simp
    rw [lexemes_cons] at hl
    obtain ⟨hfirst, hmore⟩ := List.cons.inj hl
    rw [← hfirst, firstLexeme, front_eq] at hw
    rw [htext] at hn
    cases ho : Opening.of u rest.head? with
    | word =>
      have hu : isWordStart u = true := by
        unfold Opening.of at ho
        grind
      refine ⟨hu, ?_⟩
      have hlong : rest.length ≤ (rest.takeWhile isWordPart).length := by
        have := lexemes_eq_nil hmore
        rw [front_eq, ho, Opening.read] at this
        exact List.drop_eq_nil_iff.mp this
      have hall : rest.takeWhile isWordPart = rest :=
        (List.takeWhile_prefix _).eq_of_length (Nat.le_antisymm (takeWhile_length_le _ _) hlong)
      intro w hm
      rw [← hall] at hm
      exact List.mem_takeWhile_imp hm
    | quoted closer =>
      have hq : closingQuote? u = some closer := by
        unfold Opening.of at ho
        grind
      have hshort := unquote_shorter hq rest
      rw [hn, List.length_cons] at hshort
      omega
    | _ =>
      rw [ho] at hw
      contradiction

theorem readsAs_self_iff {word : Text} : ReadsAs word word ↔ IsBareWord word :=
  ⟨bare_of_readsAs, readsAs_bare⟩

/-- What is proposed from the schema or the statement is read again as the name it was proposed
for, unless it is a function or a pragma whose name is no word. -/
theorem proposal_reads_back_iff {schema : Option SchemaSnapshot} {v : Vocabulary}
    {suggestions : List Suggestion} {p : Proposal}
    (hp : p ∈ Proposal.ofSuggestions schema v suggestions)
    (hs : p.source = .schema ∨ p.source = .scope) :
    ReadsAs p.text p.name ↔ (p.kind = .function ∨ p.kind = .pragma → IsBareWord p.name) := by
  obtain ⟨x, -, hx⟩ := List.mem_flatMap.mp hp
  cases proposed_of_mem hx with
  | keyword | anything | builtin | command => simp at hs
  | object | column | aliasName => simp [readsAs_escapeName]
  | function | pragma => simp [readsAs_self_iff]

/-- A table whose name holds a blank is inserted in quotes. -/
theorem quoted_table_reads_back :
    let name : Text := "order items"
    let snapshot : SchemaSnapshot := .ofLists [(name, ["id"])] [] [] [] [] [] 0
    let p : Proposal := ⟨.table, name, escapeName name, .schema, true, some "table"⟩
    p ∈ Proposal.ofSuggestions (some snapshot) .empty [.table none [.table]] ∧
      ReadsAs p.text p.name := by
  intro name snapshot p
  have hp : p ∈ Proposal.ofSuggestions (some snapshot) .empty [.table none [.table]] := by
    decide +kernel
  exact ⟨hp, (proposal_reads_back_iff hp (.inl rfl)).mpr (by simp [p])⟩

theorem mem_sorted {word : Text} {words : List Text} :
    word ∈ Words.sorted words ↔ word ∈ words := by
  rw [Words.sorted, List.mem_mergeSort, List.mem_eraseDups]

theorem isBuiltinFunction_iff {name : Text} : Words.isBuiltinFunction name = true ↔
    name.upper ∈ Words.builtinFunctions.map Text.ofString := by
  rw [Words.isBuiltinFunction, Words.functions, List.contains_iff_mem, mem_sorted]

theorem mem_functions {s : SchemaSnapshot} {v : Vocabulary} {name : Text}
    (h : name ∈ s.functions)
    (hu : name.upper ∉ Words.builtinFunctions.map Text.ofString) :
    ⟨.function, name, name, .schema, true, some "user"⟩ ∈
      Proposal.ofSuggestion (some s) v .function := by
  have hb : Words.isBuiltinFunction name = false :=
    Bool.eq_false_iff.mpr (fun ht => hu (isBuiltinFunction_iff.mp ht))
  exact List.mem_append_right _ (List.mem_map.mpr
    ⟨name, List.mem_filter.mpr ⟨h, by rw [hb]; rfl⟩, rfl⟩)

/-- The connection may know functions that are called by an operator. -/
theorem operator_function_unread :
    let snapshot : SchemaSnapshot := .ofLists [] [] [] [] ["->"] [] 0
    let p : Proposal := ⟨.function, "->", "->", .schema, true, some "user"⟩
    p ∈ Proposal.ofSuggestions (some snapshot) .empty [.function] ∧ ¬ ReadsAs p.text p.name := by
  intro snapshot p
  have hp : p ∈ Proposal.ofSuggestion (some snapshot) .empty .function :=
    mem_functions (by decide +kernel) (by decide +kernel)
  have hname : ¬ IsBareWord p.name := by decide +kernel
  exact ⟨List.mem_flatMap.mpr ⟨_, List.mem_singleton_self _, hp⟩,
    fun h => hname (bare_of_readsAs h)⟩

end SqlShell.Proofs
