import Mathlib.Data.List.Forall2
import SqlShell.Proofs.CompletedTexts

namespace SqlShell.Proofs

theorem capitalForm_again {u : CodeUnit} (hu : u.toNat < 0x80) :
    capitalForm (smallForm u) = capitalForm u ∧ capitalForm (capitalForm u) = capitalForm u := by
  have hall : ∀ n < 0x80, capitalForm (smallForm n.toUInt16) = capitalForm n.toUInt16 ∧
      capitalForm (capitalForm n.toUInt16) = capitalForm n.toUInt16 := by decide +kernel
  have h := hall u.toNat hu
  rwa [Nat.toUInt16_eq, UInt16.ofNat_toNat] at h

section
variable {t : Text}

theorem upper_lower_plain (h : IsPlain t) : t.lower.upper = t.upper := by
  have hsmall : IsPlain (t.map smallForm) :=
    List.forall_mem_map.mpr (fun u hu => (changesAlone (h u hu)).smallPlain)
  rw [lower_plain h, upper_plain hsmall, upper_plain h, List.map_map]
  apply List.map_congr_left
  intro u hu
  exact (capitalForm_again (h u hu)).1

theorem upper_upper_plain (h : IsPlain t) : t.upper.upper = t.upper := by
  have hcapital : IsPlain (t.map capitalForm) :=
    List.forall_mem_map.mpr (fun u hu => (changesAlone (h u hu)).capitalPlain)
  rw [upper_plain h, upper_plain hcapital, List.map_map]
  apply List.map_congr_left
  intro u hu
  exact (capitalForm_again (h u hu)).2

/-- Nothing in the word has another capital form. -/
def isCapital (word : Text) : Bool := word.map capitalForm == word

theorem keywords_capital : Keyword.all.all (fun k => isCapital k.text) = true := by
  decide +kernel

theorem fixedNames_capital :
    (Words.types ++ Words.phrases ++ Words.builtinFunctions).all (fun w => isCapital w) = true := by
  decide +kernel

theorem recasedWords_capital {word : Text} (h : word ∈ recasedWords) : word.upper = word := by
  rw [upper_plain (recasedWords_plain h).1]
  exact eq_of_beq (recasedWords_all keywords_capital fixedNames_capital h)

/-- The word can be told from what is inserted for it. -/
theorem upper_apply {word : Text} (h : word ∈ recasedWords) (casing : KeywordCasing)
    (typed : Text) : (casing.apply typed word).upper = word := by
  have hplain := (recasedWords_plain h).1
  rcases apply_cases casing typed word with happly | happly
  · rw [happly, upper_upper_plain hplain, recasedWords_capital h]
  · rw [happly, upper_lower_plain hplain, recasedWords_capital h]

theorem lower_apply {word : Text} (h : word ∈ recasedWords) (casing : KeywordCasing)
    (typed : Text) : (casing.apply typed word).lower = word.lower := by
  have hplain := (recasedWords_plain h).1
  rcases apply_cases casing typed word with happly | happly
  · rw [happly, lower_upper_plain hplain]
  · rw [happly, lower_lower_plain hplain]

/-- Names of recased words that differ only in letter case are the same. -/
theorem eq_of_lower {v w : Text} (hv : v ∈ recasedWords) (hw : w ∈ recasedWords)
    (h : v.lower = w.lower) : v = w := by
  have hupper := congrArg Text.upper h
  rwa [upper_lower_plain (recasedWords_plain hv).1, upper_lower_plain (recasedWords_plain hw).1,
    recasedWords_capital hv, recasedWords_capital hw] at hupper

end

/-- A keyword, a built-in function, or something else that is not written like one of them. -/
inductive ForSql (p : Proposal) : Prop
  | keyword (hkind : p.kind = .keyword) (hsource : p.source = .keyword) (hname : p.name = p.text)
      (hword : p.text ∈ recasedWords)
  | builtin (hkind : p.kind = .function) (hsource : p.source = .builtinFunction)
      (hname : p.name = p.text) (hword : p.text ∈ Words.functions)
  | other (hkind : p.kind ≠ .keyword) (hkeyword : p.source ≠ .keyword)
      (hbuiltin : p.source ≠ .builtinFunction)
      (hown : p.kind = .function → Words.isBuiltinFunction p.text = false)

section
variable {schema : Option SchemaSnapshot} {v : Vocabulary} {suggestions : List Suggestion}
  {p q : Proposal}

theorem forSql_of_mem {x : Suggestion} (hx : x ≠ .special none)
    (hp : p ∈ Proposal.ofSuggestion schema v x) : ForSql p := by
  cases proposed_of_mem hp with
  | keyword set w =>
    refine .keyword rfl rfl rfl ?_
    cases set with
    | statement => simp [recasedWords, mem_keywords hp]
    | all => simp [recasedWords, mem_keywords hp]
  | anything w =>
    refine .keyword rfl rfl rfl ?_
    simp [recasedWords, mem_keywords hp]
  | builtin n =>
    refine .builtin rfl rfl rfl ?_
    simpa [Proposal.ofSuggestion, Proposal.functions] using hp
  | function hs hn =>
    refine .other (by simp) (by simp) (by simp) ?_
    intro _
    simpa [Proposal.ofSuggestion, Proposal.functions, hs, hn] using hp
  | object | column | aliasName | pragma =>
    exact .other (by simp) (by simp) (by simp) (by simp)
  | command => exact absurd rfl hx

/-- The source tells whether the letter case is followed. -/
theorem ForSql.follows_iff (h : ForSql p) :
    p.followsCasing = true ↔ p.source = .keyword ∨ p.source = .builtinFunction := by
  cases h with
  | keyword hkind hsource => simp [Proposal.followsCasing, hkind, hsource]
  | builtin hkind hsource => simp [Proposal.followsCasing, hkind, hsource]
  | other hkind hkeyword hbuiltin => simp [Proposal.followsCasing, hkind, hkeyword, hbuiltin]

theorem ForSql.word (h : ForSql p) (hf : p.followsCasing = true) :
    p.name = p.text ∧ p.text ∈ recasedWords := by
  rw [h.follows_iff] at hf
  cases h with
  | keyword hkind hsource hname hword => exact ⟨hname, hword⟩
  | builtin hkind hsource hname hword => exact ⟨hname, by simp [recasedWords, hword]⟩
  | other _ hkeyword hbuiltin => simp [hkeyword, hbuiltin] at hf

theorem ForSql.builtin_of_follows (h : ForSql p) (hf : p.followsCasing = true)
    (hkind : p.kind ≠ .keyword) : p.kind = .function ∧ p.text ∈ Words.functions := by
  rw [h.follows_iff] at hf
  cases h with
  | keyword hkey => exact absurd hkey hkind
  | builtin hfunction _ _ hword => exact ⟨hfunction, hword⟩
  | other _ hkeyword hbuiltin => simp [hkeyword, hbuiltin] at hf

/-- Functions of the connection are not called like built-in ones, and all keywords follow the
letter case. -/
theorem ForSql.clash (hp : ForSql p) (hq : ForSql q) (hf : p.followsCasing = true)
    (hg : q.followsCasing = false) (hkind : p.kind = q.kind) : q.text.upper ≠ p.text := by
  intro he
  cases hq with
  | keyword hkey => simp [Proposal.followsCasing, hkey] at hg
  | builtin hfunction hsource => simp [Proposal.followsCasing, hfunction, hsource] at hg
  | other hother _ _ hown =>
    rw [← hkind] at hother hown
    obtain ⟨hfunction, hword⟩ := hp.builtin_of_follows hf hother
    have hforeign := hown hfunction
    simp [Words.isBuiltinFunction, he, hword] at hforeign

end

/-- What is inserted for a proposal. -/
def insertion (casing : KeywordCasing) (typed : Text) (p : Proposal) : Text :=
  if p.followsCasing then casing.apply typed p.text else p.text

section
variable {casing casing' : KeywordCasing} {typed : Text} {p q : Proposal} {m n : Candidate.Match}

theorem insertion_follows (hf : p.followsCasing = true) :
    insertion casing typed p = casing.apply typed p.text := if_pos hf

theorem insertion_stays (hf : p.followsCasing = false) : insertion casing typed p = p.text := by
  simp [insertion, hf]

theorem insertion_clash (hp : ForSql p) (hq : ForSql q) (hf : p.followsCasing = true)
    (hg : q.followsCasing = false) (hkind : p.kind = q.kind) :
    insertion casing typed p ≠ insertion casing typed q := by
  intro he
  apply hp.clash hq hf hg hkind
  have hupper := congrArg Text.upper he
  rw [insertion_follows hf, insertion_stays hg, upper_apply (hp.word hf).2] at hupper
  exact hupper.symm

/-- Whether two proposals of one kind come to the same insertion does not depend on the letter
case. -/
theorem insertion_eq_iff (hp : ForSql p) (hq : ForSql q) (hkind : p.kind = q.kind) :
    insertion casing typed p = insertion casing typed q ↔
      insertion casing' typed p = insertion casing' typed q := by
  cases hf : p.followsCasing with
  | true =>
    cases hg : q.followsCasing with
    | true =>
      have hwords (c : KeywordCasing) :
          insertion c typed p = insertion c typed q ↔ p.text = q.text := by
        rw [insertion_follows hf, insertion_follows hg]
        refine ⟨?_, fun he => by rw [he]⟩
        intro he
        have hupper := congrArg Text.upper he
        rwa [upper_apply (hp.word hf).2, upper_apply (hq.word hg).2] at hupper
      rw [hwords, hwords]
    | false =>
      exact iff_of_false (insertion_clash hp hq hf hg hkind) (insertion_clash hp hq hf hg hkind)
  | false =>
    cases hg : q.followsCasing with
    | true =>
      exact iff_of_false (insertion_clash hq hp hg hf hkind.symm).symm
        (insertion_clash hq hp hg hf hkind.symm).symm
    | false => simp only [insertion_stays hf, insertion_stays hg]

/-- Proposals of one source and one name stand in an order that does not depend on the letter
case. -/
theorem insertion_le_iff (hp : ForSql p) (hq : ForSql q) (hsource : p.source = q.source)
    (hname : p.name.lower = q.name.lower) :
    insertion casing typed p ≤ insertion casing typed q ↔
      insertion casing' typed p ≤ insertion casing' typed q := by
  have hboth : p.followsCasing = true ↔ q.followsCasing = true := by
    rw [hp.follows_iff, hq.follows_iff, hsource]
  cases hf : p.followsCasing with
  | true =>
    have hg := hboth.mp hf
    obtain ⟨hpname, hpword⟩ := hp.word hf
    obtain ⟨hqname, hqword⟩ := hq.word hg
    rw [hpname, hqname] at hname
    have htext : p.text = q.text := eq_of_lower hpword hqword hname
    simp only [insertion_follows hf, insertion_follows hg, htext, Std.le_refl]
  | false =>
    have hg : q.followsCasing = false := by simpa [hf] using hboth
    simp only [insertion_stays hf, insertion_stays hg]

/-- The same offer, but for the letter case of a keyword or a built-in function. -/
structure Recased (a b : Candidate) : Prop where
  kind : a.kind = b.kind
  priority : a.priority = b.priority
  matched : a.matched = b.matched
  detail : a.detail = b.detail
  letters : a.text.lower = b.text.lower
  words : a.text ≠ b.text →
    a.kind = .keyword ∨ a.kind = .function ∧ Words.isBuiltinFunction a.text = true

theorem Recased.refl (a : Candidate) : Recased a a :=
  ⟨rfl, rfl, rfl, rfl, rfl, fun h => absurd rfl h⟩

theorem recased_candidate (hp : ForSql p) :
    Recased (p.candidate casing typed m) (p.candidate casing' typed m) := by
  cases hf : p.followsCasing with
  | false =>
    have hsame : p.candidate casing typed m = p.candidate casing' typed m := by
      simp [Proposal.candidate, hf]
    rw [hsame]
    exact .refl _
  | true =>
    have hword := (hp.word hf).2
    have htext (c : KeywordCasing) : (p.candidate c typed m).text = c.apply typed p.text :=
      insertion_follows hf
    refine ⟨rfl, rfl, rfl, rfl, ?_, ?_⟩
    · rw [htext, htext, lower_apply hword, lower_apply hword]
    · intro _
      by_cases hkey : p.kind = .keyword
      · exact .inl hkey
      · obtain ⟨hfunction, hbuiltin⟩ := hp.builtin_of_follows hf hkey
        refine .inr ⟨hfunction, ?_⟩
        rw [htext, Words.isBuiltinFunction, upper_apply hword]
        exact List.contains_iff_mem.mpr hbuiltin

theorem source_of_score (h : p.score m = q.score n) : p.source = q.source := by
  have hle : m.tier ≤ n.tier := tier_dominates (Nat.le_of_eq h)
  have hge : n.tier ≤ m.tier := tier_dominates (Nat.le_of_eq h.symm)
  have hbonus : p.source.bonus = q.source.bonus := by
    simp only [Proposal.score] at h
    omega
  cases hp : p.source <;> cases hq : q.source <;> simp_all [Proposal.Source.bonus]

/-- The proposals that fit the typed word, each with the way in which it fits. -/
def fitting (substrings : Bool) (typed : Text) (proposals : List Proposal) :
    List (Proposal × Candidate.Match) :=
  proposals.filterMap (fun p => (p.match? typed substrings).map (fun m => (p, m)))

/-- A proposal that fits as it is put in order. -/
def entry (casing : KeywordCasing) (typed : Text) (x : Proposal × Candidate.Match) : Ranked :=
  ⟨x.1.name.lower, x.1.candidate casing typed x.2⟩

theorem mem_fitting {substrings : Bool} {proposals : List Proposal}
    {x : Proposal × Candidate.Match} (h : x ∈ fitting substrings typed proposals) :
    x.1 ∈ proposals := by
  obtain ⟨p, hp, he⟩ := List.mem_filterMap.mp h
  obtain ⟨m, -, rfl⟩ := Option.map_eq_some_iff.mp he
  exact hp

theorem le_entry (casing casing' : KeywordCasing) {x y : Proposal × Candidate.Match}
    (hx : ForSql x.1) (hy : ForSql y.1) :
    (entry casing typed x).le (entry casing typed y) =
      (entry casing' typed x).le (entry casing' typed y) := by
  have horder (c : KeywordCasing) : (entry c typed x).le (entry c typed y) = true ↔
      y.1.score y.2 < x.1.score x.2 ∨ x.1.score x.2 = y.1.score y.2 ∧
        (x.1.name.lower < y.1.name.lower ∨ x.1.name.lower = y.1.name.lower ∧
          insertion c typed x.1 ≤ insertion c typed y.1) := le_iff
  rw [Bool.eq_iff_iff, horder, horder]
  apply or_congr_right
  apply and_congr_right
  intro hscore
  apply or_congr_right
  apply and_congr_right
  intro hname
  exact insertion_le_iff hx hy (source_of_score hscore) hname

theorem identity_entry (casing casing' : KeywordCasing) {x y : Proposal × Candidate.Match}
    (hx : ForSql x.1) (hy : ForSql y.1) :
    ((entry casing typed x).candidate.identity == (entry casing typed y).candidate.identity) =
      ((entry casing' typed x).candidate.identity ==
        (entry casing' typed y).candidate.identity) := by
  have hidentity (c : KeywordCasing) :
      (entry c typed x).candidate.identity = (entry c typed y).candidate.identity ↔
        insertion c typed x.1 = insertion c typed y.1 ∧ x.1.kind = y.1.kind :=
    Prod.ext_iff
  rw [Bool.eq_iff_iff, beq_iff_eq, beq_iff_eq, hidentity, hidentity]
  apply and_congr_left
  exact insertion_eq_iff hx hy

/-- What is kept depends only on which items are the same. -/
theorem distinctBy_congr [BEq κ] [BEq μ] {key : α → κ} {key' : α → μ} {items : List α}
    (h : ∀ a ∈ items, ∀ b ∈ items, (key a == key b) = (key' a == key' b)) :
    distinctBy key items = distinctBy key' items := by
  induction items with
  | nil => rfl
  | cons a items ih =>
    have hrest : distinctBy key items = distinctBy key' items := by
      apply ih
      intro b hb c hc
      exact h b (List.mem_cons_of_mem a hb) c (List.mem_cons_of_mem a hc)
    rw [distinctBy, distinctBy, hrest]
    congr 1
    apply List.filter_congr
    intro b hb
    rw [h b (List.mem_cons_of_mem a (mem_distinctBy hb)) a List.mem_cons_self]

theorem rank_entries (casing : KeywordCasing) (substrings : Bool) (typed : Text)
    (proposals : List Proposal) :
    Candidate.rank casing substrings typed proposals =
      (distinctBy (fun x => (entry casing typed x).candidate.identity)
        ((fitting substrings typed proposals).mergeSort
          (fun x y => (entry casing typed x).le (entry casing typed y)))).map
            (fun x => (entry casing typed x).candidate) := by
  have hranked : Candidate.ranked casing substrings typed proposals =
      (fitting substrings typed proposals).map (entry casing typed) := by
    simp only [Candidate.ranked, fitting, List.map_filterMap, Option.map_map]
    rfl
  rw [rank_eq, hranked, ← List.map_mergeSort (by intros; rfl), distinctBy_map, List.map_map]
  rfl

/-- Proposals for SQL text are put in the same order, and the same ones are kept. -/
theorem rank_recased (casing casing' : KeywordCasing) (substrings : Bool) (typed : Text)
    {proposals : List Proposal} (h : ∀ p ∈ proposals, ForSql p) :
    List.Forall₂ Recased (Candidate.rank casing substrings typed proposals)
      (Candidate.rank casing' substrings typed proposals) := by
  let sorted (c : KeywordCasing) : List (Proposal × Candidate.Match) :=
    (fitting substrings typed proposals).mergeSort
      (fun x y => (entry c typed x).le (entry c typed y))
  have hfitting {x : Proposal × Candidate.Match} (hx : x ∈ fitting substrings typed proposals) :
      ForSql x.1 := h x.1 (mem_fitting hx)
  have hsorted {x : Proposal × Candidate.Match} (hx : x ∈ sorted casing') : ForSql x.1 :=
    hfitting (List.mem_mergeSort.mp hx)
  have horder : sorted casing = sorted casing' := by
    rw [← List.map_id (sorted casing), List.map_mergeSort, List.map_id]
    intro x hx y hy
    exact le_entry casing casing' (hfitting hx) (hfitting hy)
  have hkept : distinctBy (fun x => (entry casing typed x).candidate.identity) (sorted casing') =
      distinctBy (fun x => (entry casing' typed x).candidate.identity) (sorted casing') := by
    apply distinctBy_congr
    intro x hx y hy
    exact identity_entry casing casing' (hsorted hx) (hsorted hy)
  rw [rank_entries casing, rank_entries casing']
  change List.Forall₂ Recased (List.map _ (distinctBy _ (sorted casing))) _
  rw [horder, hkept, List.forall₂_map_left_iff, List.forall₂_map_right_iff, List.forall₂_same]
  intro x hx
  exact recased_candidate (hsorted (mem_distinctBy hx))

end

/-- If no proposal follows the letter case, then it makes no difference at all. -/
theorem rank_commands (casing casing' : KeywordCasing) (substrings : Bool) (typed : Text)
    {proposals : List Proposal} (h : ∀ p ∈ proposals, p.followsCasing = false) :
    Candidate.rank casing substrings typed proposals =
      Candidate.rank casing' substrings typed proposals := by
  have hranked : Candidate.ranked casing substrings typed proposals =
      Candidate.ranked casing' substrings typed proposals := by
    apply List.filterMap_congr
    intro p hp
    simp [Proposal.candidate, h p hp]
  rw [Candidate.rank, hranked]
  rfl

theorem pragmaArgument_sql (pragma : Text) : Context.pragmaArgument pragma ≠ .special none := by
  fun_cases Context.pragmaArgument pragma <;> simp

theorem qualified_sql (refs : List TableRef) (owners : List Token) (q : Text) :
    Context.qualified refs owners q ≠ .special none := by
  fun_cases Context.qualified refs owners q <;> simp

theorem unqualified_sql (refs : List TableRef) (before : List Token) :
    .special none ∉ (Context.unqualified refs before).1 ::
      (Context.unqualified refs before).2 := by
  fun_cases Context.unqualified refs before <;>
    simp [*, (pragmaArgument_sql _).symm, Context.expressionSuggestions]

theorem ofSql_sql (s : Statement) (cursor : Int) :
    .special none ∉ (Context.ofSql s cursor).suggestions := by
  rw [Context.ofSql]
  split
  · simp [Context.suggestions]
  · rw [Context.ofWord]
    dsimp only
    split
    · simp [Context.suggestions, (qualified_sql _ _ _).symm]
    · intro h
      exact unqualified_sql _ _ (mem_addFunction (by simp) h)

theorem special_alone {v : Vocabulary} {s : Statement} {cursor : Int} {c : Context}
    (h : classifySpecial? v s cursor = some c) : c.suggestions = [c.primary] := by
  unfold classifySpecial? at h
  dsimp only at h
  split at h
  · contradiction
  · split at h
    · split at h
      · obtain rfl := Option.some.inj h
        rfl
      · obtain rfl := Option.some.inj h
        rfl
    · contradiction

/-- Only in a line that is read as a command are commands offered, and there nothing else is. -/
theorem commands_apart (s : Statement) (cursor : Int) (v : Vocabulary) :
    (classify s cursor v).suggestions = [.special none] ∨
      .special none ∉ (classify s cursor v).suggestions := by
  rw [classify]
  cases h : classifySpecial? v s cursor with
  | none => exact .inr (ofSql_sql s cursor)
  | some c =>
    rw [Option.getD_some, special_alone h]
    by_cases hp : c.primary = .special none
    · exact .inl (by rw [hp])
    · exact .inr (by simp [Ne.symm hp])

/-- The letter case changes letters of keywords and of built-in functions, wherever the cursor
stands. -/
theorem rank_at_cursor (casing casing' : KeywordCasing) (substrings : Bool) (typed : Text)
    (schema : Option SchemaSnapshot) (s : Statement) (cursor : Int) (v : Vocabulary) :
    let proposals := Proposal.ofSuggestions schema v (classify s cursor v).suggestions
    List.Forall₂ Recased (Candidate.rank casing substrings typed proposals)
      (Candidate.rank casing' substrings typed proposals) := by
  intro proposals
  rcases commands_apart s cursor v with halone | hnone
  · have hcommands : ∀ p ∈ proposals, p.followsCasing = false := by
      intro p hp
      simp only [proposals, halone, Proposal.ofSuggestions, List.flatMap_singleton,
        Proposal.ofSuggestion, Proposal.commands, List.mem_map] at hp
      obtain ⟨e, -, rfl⟩ := hp
      rfl
    rw [rank_commands casing casing' substrings typed hcommands, List.forall₂_same]
    intro c _
    exact .refl c
  · apply rank_recased
    intro p hp
    obtain ⟨x, hx, hp⟩ := List.mem_flatMap.mp hp
    apply forSql_of_mem _ hp
    rintro rfl
    exact hnone hx

/-- Both runs make the same offers but for the letter case, or both are refused for one reason. -/
inductive SameOffers : Except CompletionError Completion → Except CompletionError Completion → Prop
  | offered (h : List.Forall₂ Recased cs ds) :
      SameOffers (.ok ⟨cs, context, statement, timing⟩) (.ok ⟨ds, context, statement, timing⟩)
  | refused (e : CompletionError) : SameOffers (.error e) (.error e)

/-- The letter case for keywords adds no offer, drops none and moves none: it changes letters of
keywords and built-in functions and nothing else. -/
theorem casing_keeps_offers (sql : Text) (cursor : Cursor) (schema : Option SchemaSnapshot)
    (options : CompletionOptions) (casing casing' : Option KeywordCasing)
    (reading : Nat → Millis) :
    SameOffers (Completion.run sql cursor schema { options with casing := casing } reading)
      (Completion.run sql cursor schema { options with casing := casing' } reading) := by
  cases cursor with
  | elsewhere x => exact .refused _
  | offset n =>
    cases n with
    | negSucc n => exact .refused _
    | ofNat n =>
      by_cases hn : n ≤ sql.length
      · let context := classify (statementAt sql n) n options.vocabularyOrEmpty
        have hrun (c : Option KeywordCasing) :
            Completion.run sql (.offset n) schema { options with casing := c } reading =
              (Completion.candidatesFor context.suggestions context.word.text schema
                { options with casing := c }).map (fun cs => ⟨cs, context, statementAt sql n,
                  if options.timing.getD false then some (.ofReadings reading) else none⟩) :=
          run_of_le hn
        change SameOffers (Completion.run sql (.offset n) schema _ reading)
          (Completion.run sql (.offset n) schema _ reading)
        rw [hrun, hrun]
        by_cases hreads : (schema.isNone && context.suggestions.any Suggestion.readsSchema) = true
        · simp only [Completion.candidatesFor, if_pos hreads]
          exact .refused _
        · simp only [Completion.candidatesFor, if_neg hreads]
          apply SameOffers.offered
          exact rank_at_cursor _ _ _ _ schema (statementAt sql n) n _
      · simp only [Completion.run, if_neg hn]
        exact .refused _

end SqlShell.Proofs
