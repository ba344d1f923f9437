import SqlShell.Proofs.Clauses
import SqlShell.Proofs.Locality
import SqlShell.Proofs.Proposals
import SqlShell.Proofs.Ranking

namespace SqlShell.Proofs

/-- The significant tokens before a place, nearest first. -/
def tokensBefore (s : Statement) (start : Int) : List Token :=
  (s.significant.filter (fun t => (t.stop : Int) ≤ start)).reverse

/-- These tokens, nearest first, end in a qualifier with its point directly before `start`. -/
inductive Qualifies (start : Int) (q : Text) : List Token → Prop
  | intro (hdot : dot.isMark '.' = true) (hstart : (dot.stop : Int) = start)
      (howner : owner.isWord = true) (htouch : owner.stop = dot.start)
      (hq : unquote owner.text = q) : Qualifies start q (dot :: owner :: before)

/-- These tokens, nearest first, end in an open list of columns behind INTO and the name `t`. -/
inductive ListsColumns (t : Token) : List Token → Prop
  | intro (hlast : (rest ++ [o]).head?.any (fun u => u.isMark '(' || u.isMark ',') = true)
      (hrest : Bare false (o :: t :: (between ++ into :: far)) rest) (ho : o.isMark '(' = true)
      (hname : t.isName = true) (hbetween : Bare true (into :: far) (t :: between))
      (hinto : into.isKeyword .INTO = true) :
      ListsColumns t (rest ++ o :: t :: (between ++ into :: far))

/-- The reference declares this alias, letter case aside. -/
def Aliased (q : Text) (r : TableRef) : Prop := ∃ a, r.aliasName = some a ∧ a.lower = q.lower

/-- The reference that a qualifier means. -/
inductive Means (refs : List TableRef) (q : Text) : TableRef → Prop
  /-- The last one that declares it as its alias. -/
  | alias (hs : refs = before ++ r :: after) (hr : Aliased q r)
      (hlast : ∀ x ∈ after, ¬ Aliased q x) : Means refs q r
  /-- Without such an alias the first one of this name. -/
  | name (hnone : ∀ x ∈ refs, ¬ Aliased q x) (hs : refs = before ++ r :: after)
      (hr : r.name.lower = q.lower) (hfirst : ∀ x ∈ before, x.name.lower ≠ q.lower) :
      Means refs q r
  /-- Without such a name the qualifier itself is taken for one. -/
  | itself (hnone : ∀ x ∈ refs, ¬ Aliased q x) (hnames : ∀ x ∈ refs, x.name.lower ≠ q.lower) :
      Means refs q ⟨q, none, none, .qualifier⟩

/-- The references whose columns can be meant by a word of the statement that begins at `start`. -/
inductive InScope (s : Statement) (start : Int) (r : TableRef) : Prop
  | qualified (hq : Qualifies start q (tokensBefore s start)) (hr : Means s.tableRefs q r)
  | listed (hq : ∀ q, ¬ Qualifies start q (tokensBefore s start))
      (hl : ListsColumns t (tokensBefore s start)) (hr : r.name = unquote t.text)
  | declared (hq : ∀ q, ¬ Qualifies start q (tokensBefore s start))
      (hl : ∀ t, ¬ ListsColumns t (tokensBefore s start)) (hr : r ∈ s.tableRefs)

theorem aliased_iff {q : Text} {r : TableRef} :
    r.aliasName.any (fun a => a.lower == q.lower) = true ↔ Aliased q r := by
  simp [Option.any_eq_true, Aliased]

theorem means_resolve (refs : List TableRef) (q : Text) :
    Means refs q (TableRef.resolve refs q) := by
  rw [TableRef.resolve]
  cases ha : TableRef.aliased? refs q.lower with
  | some r =>
    rw [TableRef.aliased?, List.find?_eq_some_iff_append] at ha
    obtain ⟨hr, after, before, hs, hlast⟩ := ha
    have hrefs : refs = before.reverse ++ r :: after.reverse := by
      rw [← List.reverse_inj, hs]
      simp
    refine .alias hrefs (aliased_iff.mp hr) fun x hx hxa => ?_
    have hno := hlast x (List.mem_reverse.mp hx)
    rw [aliased_iff.mpr hxa] at hno
    contradiction
  | none =>
    rw [TableRef.aliased?, List.find?_eq_none] at ha
    have hnone : ∀ x ∈ refs, ¬ Aliased q x := fun x hx hxa =>
      ha x (List.mem_reverse.mpr hx) (aliased_iff.mpr hxa)
    dsimp only
    cases hn : refs.find? (fun r => r.name.lower == q.lower) with
    | some r =>
      obtain ⟨hr, before, after, hs, hfirst⟩ := List.find?_eq_some_iff_append.mp hn
      refine .name hnone hs (eq_of_beq hr) fun x hx hxn => ?_
      have hno := hfirst x hx
      simp [hxn] at hno
    | none =>
      refine .itself hnone fun x hx hxn => ?_
      have hno := List.find?_eq_none.mp hn x hx
      simp [hxn] at hno

theorem qualifier_some {start : Int} {ts owners : List Token} {q : Text}
    (h : Context.qualifier? start ts = some (q, owners)) : Qualifies start q ts := by
  unfold Context.qualifier? at h
  split at h
  · split at h
    · rename_i hc
      simp only [Bool.and_eq_true, decide_eq_true_eq] at hc
      obtain ⟨⟨⟨hdot, hstart⟩, howner⟩, htouch⟩ := hc
      exact .intro hdot hstart howner htouch (Prod.mk.inj (Option.some.inj h)).1
    · contradiction
  · contradiction

theorem qualifier_none {start : Int} {ts : List Token}
    (h : Context.qualifier? start ts = none) (q : Text) : ¬ Qualifies start q ts := by
  rintro ⟨hdot, hstart, howner, htouch, -⟩
  simp [Context.qualifier?, hdot, hstart, howner, htouch] at h

theorem keyword_of_clauseWord {t : Token} {before : Option Token} {k : Keyword}
    (h : ClauseWord.ofToken? t before = some (.keyword k)) : t.keyword? = some k := by
  unfold ClauseWord.ofToken? at h
  split at h
  · contradiction
  · rename_i hby
    split at h
    · simp at h
    · simp at h
    · simp at h
    · rw [hby]
      exact congrArg some (ClauseWord.keyword.inj (Option.some.inj h))
  · rename_i hk
    rw [hk]
    exact congrArg some (ClauseWord.keyword.inj (Option.some.inj h))

theorem clauseAt_into {t : Token} {before : List Token} :
    clauseAt? t before = some (.keyword .INTO) ↔ t.isKeyword .INTO = true := by
  rw [clauseAt?, Lexeme.isKeyword, beq_iff_eq]
  constructor
  · intro h
    exact keyword_of_clauseWord (Option.filter_eq_some_iff.mp h).1
  · intro h
    rw [ClauseWord.ofToken?, h]
    rfl

theorem not_name_of_keyword {l : Lexeme} {k : Keyword} (h : l.isKeyword k = true) :
    l.isName = false := by
  obtain ⟨kind, text⟩ := l
  cases kind with
  | keyword k => rfl
  | _ => contradiction

theorem reverse_at (near far : List Token) (t : Token) :
    (near ++ t :: far).reverse[far.length]? = some t := by
  have hlength : far.length = far.reverse.length := List.length_reverse.symm
  rw [List.reverse_append, List.reverse_cons, List.append_assoc, hlength,
    List.getElem?_append_right (Nat.le_refl _), Nat.sub_self]
  rfl

theorem find_of_listed {t : Token} {ts : List Token} (h : ListsColumns t ts) :
    ∃ k i, Clause.find ts = ⟨some (.keyword .INTO, k), some (i + 1)⟩ ∧ ts.reverse[i]? = some t ∧
      t.isName = true ∧ ts.head?.any (fun u => u.isMark '(' || u.isMark ',') = true := by
  obtain @⟨rest, o, between, into, far, hlast, hrest, ho, hname, hbetween, hinto⟩ := h
  have hfind := find_eq_iff.mpr ⟨rest, o, t :: between, into, far, rfl, hrest, ho, hbetween,
    clauseAt_into.mpr hinto, rfl, rfl⟩
  have howner := reverse_at (rest ++ [o]) (between ++ into :: far) t
  rw [List.append_assoc] at howner
  refine ⟨_, _, hfind, howner, hname, ?_⟩
  cases rest with
  | nil => exact hlast
  | cons u rest => exact hlast

theorem listed_of_find {ts : List Token} {k i : Nat} {t : Token}
    (h : Clause.find ts = ⟨some (.keyword .INTO, k), some (i + 1)⟩) (ht : ts.reverse[i]? = some t)
    (hname : t.isName = true)
    (hlast : ts.head?.any (fun u => u.isMark '(' || u.isMark ',') = true) : ListsColumns t ts := by
  obtain ⟨rest, o, between, into, far, rfl, hrest, ho, hbetween, hinto, -, hi⟩ := find_eq_iff.mp h
  have hinto := clauseAt_into.mp hinto
  cases between with
  | nil =>
    obtain rfl : i = far.length := by simpa using hi
    have howner := reverse_at (rest ++ [o]) far into
    rw [List.append_assoc] at howner
    obtain rfl := Option.some.inj (howner.symm.trans ht)
    rw [not_name_of_keyword hinto] at hname
    contradiction
  | cons u between =>
    obtain rfl : i = (between ++ into :: far).length := by simpa using hi
    have howner := reverse_at (rest ++ [o]) (between ++ into :: far) u
    rw [List.append_assoc] at howner
    obtain rfl := Option.some.inj (howner.symm.trans ht)
    refine .intro ?_ hrest ho hname hbetween hinto
    cases rest with
    | nil => exact hlast
    | cons u rest => exact hlast

theorem isOneOf_into {c : Clause} (h : c.isOneOf [.INTO] = true) :
    ∃ k, c.opening = some (.keyword .INTO, k) := by
  obtain ⟨opening, parenthesis⟩ := c
  cases opening with
  | none => contradiction
  | some opening =>
    obtain ⟨w, k⟩ := opening
    refine ⟨k, ?_⟩
    simpa [Clause.isOneOf, Clause.word?] using h

theorem insertScope_some {refs : List TableRef} {ts : List Token} {r : TableRef}
    (h : Context.insertScope? refs ts = some r) :
    ∃ t, ListsColumns t ts ∧ r.name = unquote t.text := by
  by_cases hc : (Clause.find ts).isOneOf [.INTO] = true ∧
      ts.head?.any (fun u => u.isMark '(' || u.isMark ',') = true
  · obtain ⟨hinto, hlast⟩ := hc
    obtain ⟨k, hopening⟩ := isOneOf_into hinto
    simp only [Context.insertScope?, hinto, hlast, Bool.and_self, if_true] at h
    cases hp : (Clause.find ts).parenthesis with
    | none => simp [hp] at h
    | some i =>
      cases i with
      | zero => simp [hp] at h
      | succ i =>
        simp only [hp, Nat.add_one_ne_zero, if_false, Nat.add_sub_cancel] at h
        cases ho : ts.reverse[i]?.filter (·.isName) with
        | none => simp [ho] at h
        | some t =>
          obtain ⟨ht, hname⟩ := Option.filter_eq_some_iff.mp ho
          have hfind : Clause.find ts = ⟨some (.keyword .INTO, k), some (i + 1)⟩ := by
            rw [← hopening, ← hp]
          refine ⟨t, listed_of_find hfind ht hname hlast, ?_⟩
          simp only [ho] at h
          obtain rfl := Option.some.inj h
          cases hr : refs.find? _ with
          | none => rfl
          | some r =>
            have hsame := List.find?_some hr
            simp only [Bool.and_eq_true, beq_iff_eq] at hsame
            exact hsame.2
  · simp [Context.insertScope?, hc] at h

theorem insertScope_none {refs : List TableRef} {ts : List Token}
    (h : Context.insertScope? refs ts = none) (t : Token) : ¬ ListsColumns t ts := by
  intro hl
  obtain ⟨k, i, hfind, ht, hname, hlast⟩ := find_of_listed hl
  have howner : (some t).filter (·.isName) = some t := by rw [Option.filter_some, hname]; rfl
  simp [Context.insertScope?, hfind, hlast, Clause.isOneOf, Clause.word?, ht, howner] at h

theorem mem_addFunction {opened : Bool} {suggestions : Suggestion × List Suggestion}
    {x : Suggestion} (hx : x ≠ .function)
    (h : x ∈ (Context.addFunction opened suggestions).1 ::
      (Context.addFunction opened suggestions).2) : x ∈ suggestions.1 :: suggestions.2 := by
  rw [Context.addFunction] at h
  split at h
  · simpa [hx] using h
  · exact h

/-- The suggestion offers columns or aliases of tables. -/
def OffersScope : Suggestion → Prop
  | .column _ | .aliasName _ => True
  | _ => False

theorem not_offersScope_pragma (pragma : Text) : ¬ OffersScope (Context.pragmaArgument pragma) := by
  rw [Context.pragmaArgument]
  split
  · exact id
  · split
    · exact id
    · exact id

theorem not_offersScope_argument (v : Vocabulary) (command : Text) :
    ¬ OffersScope (argumentSuggestion v command) := by
  rw [argumentSuggestion]
  split
  · exact id
  · exact id
  · exact id
  · exact id

theorem qualified_column {refs : List TableRef} {owners : List Token} {q : Text}
    (hx : OffersScope (Context.qualified refs owners q)) :
    Context.qualified refs owners q = .column [TableRef.resolve refs q] := by
  unfold Context.qualified at hx ⊢
  split at hx
  · exact hx.elim
  · split at hx
    · exact hx.elim
    · rename_i hp
      rw [if_neg hp]

/-- An unqualified word may name a column of the list that is open, or else of any table. -/
theorem unqualified_cases {refs : List TableRef} {ts : List Token} {x : Suggestion}
    (h : x ∈ (Context.unqualified refs ts).1 :: (Context.unqualified refs ts).2)
    (hx : OffersScope x) :
    (∃ r, Context.insertScope? refs ts = some r ∧ x = .column [r]) ∨
      Context.insertScope? refs ts = none ∧
        (x = .column refs ∨ x = .aliasName (refs.filter (·.aliasName.isSome))) := by
  have hsingle {y : Suggestion} (hy : ¬ OffersScope y) : ¬ x ∈ [y] := by
    intro hm
    obtain rfl := List.mem_singleton.mp hm
    exact hy hx
  cases ts with
  | nil => exact absurd h (hsingle id)
  | cons last ts =>
    -- the rules before that of the column list offer neither columns nor aliases
    rw [Context.unqualified] at h
    split at h
    · exact absurd h (hsingle id)
    · split at h
      · exact absurd h (hsingle id)
      · split at h
        · exact absurd h (hsingle (not_offersScope_pragma _))
        · split at h
          · rename_i r hr
            exact .inl ⟨r, hr, List.mem_singleton.mp h⟩
          · rename_i hr
            split at h
            · exact absurd h (hsingle id)
            · split at h
              · refine .inr ⟨hr, ?_⟩
                simp only [Context.expressionSuggestions, List.mem_cons, List.not_mem_nil,
                  or_false] at h
                rcases h with rfl | rfl | rfl | rfl | rfl
                · exact .inl rfl
                · exact hx.elim
                · exact .inr rfl
                · exact hx.elim
                · exact hx.elim
              · split at h
                · exact absurd h (hsingle id)
                · exact absurd h (hsingle id)

/-- Columns and aliases are offered outside of literals only, and not for the client's commands. -/
theorem ofWord_of_offersScope {s : Statement} {cursor : Int} {v : Vocabulary} {x : Suggestion}
    (h : x ∈ (classify s cursor v).suggestions) (hx : OffersScope x) :
    ∃ token, classify s cursor v = Context.ofWord s token cursor := by
  rw [classify] at h ⊢
  cases hs : classifySpecial? v s cursor with
  | some c =>
    rw [hs, Option.getD_some] at h
    unfold classifySpecial? at hs
    dsimp only at hs
    split at hs
    · contradiction
    · split at hs
      · split at hs
        · obtain rfl := Option.some.inj hs
          obtain rfl := List.mem_singleton.mp h
          exact absurd hx (not_offersScope_argument v _)
        · obtain rfl := Option.some.inj hs
          obtain rfl := List.mem_singleton.mp h
          exact hx.elim
      · contradiction
  | none =>
    rw [hs, Option.getD_none, Context.ofSql] at h
    rw [Option.getD_none, Context.ofSql]
    split at h
    · obtain rfl := List.mem_singleton.mp h
      exact hx.elim
    · rename_i hc
      rw [if_neg hc]
      exact ⟨_, rfl⟩

/-- What is offered outside of literals in columns and aliases, and for which tables. -/
theorem ofWord_scope {s : Statement} {token : Option Token} {cursor : Int} {x : Suggestion}
    (h : x ∈ (Context.ofWord s token cursor).suggestions) (hx : OffersScope x) :
    (∃ scope, x = .column scope ∧
      ∀ r ∈ scope, InScope s (Context.ofWord s token cursor).word.start r) ∨
    x = .aliasName (s.tableRefs.filter (·.aliasName.isSome)) := by
  rw [Context.ofWord] at h ⊢
  dsimp only at h ⊢
  generalize Context.partialWord token cursor = word at h ⊢
  have hbefore : (s.significant.filter (fun t => (t.stop : Int) ≤ word.start)).reverse =
      tokensBefore s word.start := rfl
  rw [hbefore] at h ⊢
  cases hq : Context.qualifier? word.start (tokensBefore s word.start) with
  | some found =>
    obtain ⟨q, owners⟩ := found
    rw [hq] at h
    obtain rfl := List.mem_singleton.mp h
    refine .inl ⟨_, qualified_column hx, fun r hr => ?_⟩
    obtain rfl := List.mem_singleton.mp hr
    exact .qualified (qualifier_some hq) (means_resolve _ q)
  | none =>
    have hfree := qualifier_none hq
    rw [hq] at h
    have hne : x ≠ .function := by
      rintro rfl
      exact hx
    rcases unqualified_cases (mem_addFunction hne h) hx with ⟨r, hr, rfl⟩ | ⟨hr, rfl | rfl⟩
    · obtain ⟨t, hl, hname⟩ := insertScope_some hr
      refine .inl ⟨_, rfl, fun r' hr' => ?_⟩
      obtain rfl := List.mem_singleton.mp hr'
      exact .listed hfree hl hname
    · exact .inl ⟨_, rfl, fun r' hr' => .declared hfree (insertScope_none hr) hr'⟩
    · exact .inr rfl

section
variable {schema : Option SchemaSnapshot} {v : Vocabulary} {x : Suggestion} {p : Proposal}

theorem offersScope_of_kind (hp : p ∈ Proposal.ofSuggestion schema v x)
    (hk : p.kind = .column ∨ p.kind = .aliasName) : OffersScope x := by
  cases proposed_of_mem hp with
  | column | aliasName => trivial
  | _ => simp at hk

/-- A column is proposed for each reference to a table that has it. -/
theorem mem_columns {scope : List TableRef} :
    p ∈ Proposal.ofSuggestion schema v (.column scope) ↔
      ∃ snapshot, schema = some snapshot ∧ ∃ r ∈ scope, ∃ c ∈ snapshot.columns r.name,
        p = ⟨.column, c, escapeName c, .scope, true, some r.label⟩ := by
  cases schema with
  | none => simp [Proposal.ofSuggestion]
  | some snapshot =>
    simp [Proposal.ofSuggestion, Proposal.columns, List.mem_flatMap, List.mem_map,
      @eq_comm Proposal p]

theorem mem_aliases {refs : List TableRef} :
    p ∈ Proposal.ofSuggestion schema v (.aliasName refs) ↔
      ∃ r ∈ refs, ∃ a, r.aliasName = some a ∧
        p = ⟨.aliasName, a, escapeName a, .scope, true, some r.name⟩ := by
  simp [Proposal.ofSuggestion, Proposal.aliases, List.mem_filterMap, @eq_comm Proposal p]

end

theorem candidatesFor_ok {suggestions : List Suggestion} {typed : Text}
    {schema : Option SchemaSnapshot} {options : CompletionOptions} {cs : List Candidate}
    (h : Completion.candidatesFor suggestions typed schema options = .ok cs) :
    cs = Candidate.rank options.casingOrDefault options.substringsOrDefault typed
        (Proposal.ofSuggestions schema options.vocabularyOrEmpty suggestions) ∧
      ∀ x ∈ suggestions, x.readsSchema = true → schema.isSome = true := by
  rw [Completion.candidatesFor] at h
  split at h
  · contradiction
  · rename_i hs
    refine ⟨(Except.ok.inj h).symm, fun x hx hr => ?_⟩
    have hreads : suggestions.any Suggestion.readsSchema = true :=
      List.any_eq_true.mpr ⟨x, hx, hr⟩
    rw [hreads, Bool.and_true] at hs
    simpa [Option.isSome_iff_ne_none] using hs

theorem candidatesFor_of_reads {suggestions : List Suggestion} {schema : Option SchemaSnapshot}
    (h : ∀ x ∈ suggestions, x.readsSchema = true → schema.isSome = true) (typed : Text)
    (options : CompletionOptions) :
    Completion.candidatesFor suggestions typed schema options =
      .ok (Candidate.rank options.casingOrDefault options.substringsOrDefault typed
        (Proposal.ofSuggestions schema options.vocabularyOrEmpty suggestions)) := by
  apply if_neg
  rw [Bool.and_eq_true, List.any_eq_true]
  rintro ⟨hnone, x, hx, hr⟩
  rw [Option.isNone_iff_eq_none.mp hnone] at h
  exact Bool.false_ne_true (h x hx hr)

theorem run_ok {sql : Text} {cursor : Int} {schema : Option SchemaSnapshot}
    {options : CompletionOptions} {reading : Nat → Millis} {d : Completion}
    (h : Completion.run sql (.offset cursor) schema options reading = .ok d) :
    d.context = classify (statementAt sql cursor) cursor options.vocabularyOrEmpty ∧
      Completion.candidatesFor d.context.suggestions d.context.word.text schema options =
        .ok d.candidates := by
  cases cursor with
  | negSucc n => contradiction
  | ofNat n =>
    rw [Completion.run] at h
    split at h
    · rw [Completion.atOffset] at h
      generalize classify (statementAt sql n) n options.vocabularyOrEmpty = context at h ⊢
      cases hc : Completion.candidatesFor context.suggestions context.word.text schema options with
      | error e =>
        rw [hc] at h
        contradiction
      | ok cs =>
        rw [hc] at h
        obtain rfl := Except.ok.inj h
        exact ⟨rfl, hc⟩
    · contradiction

/-- Columns and aliases among the candidates of a completion in a statement. -/
structure Scoped (s : Statement) (schema : Option SchemaSnapshot) (substrings : Bool)
    (d : Completion) : Prop where
  columns : ∀ k ∈ d.candidates, k.kind = .column → ∃ snapshot r c, schema = some snapshot ∧
    InScope s d.context.word.start r ∧ c ∈ snapshot.columns r.name ∧ k.text = escapeName c
  aliases : ∀ k ∈ d.candidates, k.kind = .aliasName → ∃ r a, r ∈ s.tableRefs ∧
    r.aliasName = some a ∧ k.text = escapeName a
  everyColumn : ∀ scope, .column scope ∈ d.context.suggestions → ∃ snapshot,
    schema = some snapshot ∧ ∀ r ∈ scope, ∀ c ∈ snapshot.columns r.name,
      Fits substrings d.context.word.text c →
        ∃ k ∈ d.candidates, k.kind = .column ∧ k.text = escapeName c
  everyAlias : ∀ refs, .aliasName refs ∈ d.context.suggestions → ∀ r ∈ refs, ∀ a,
    r.aliasName = some a → Fits substrings d.context.word.text a →
      ∃ k ∈ d.candidates, k.kind = .aliasName ∧ k.text = escapeName a

/-- Candidates that are columns or aliases come from the tables in scope, and of these all are
among the candidates that fit the typed word. -/
theorem scoped_candidates {sql : Text} {cursor : Int} {schema : Option SchemaSnapshot}
    {options : CompletionOptions} {reading : Nat → Millis} {d : Completion}
    (h : Completion.run sql (.offset cursor) schema options reading = .ok d) :
    Scoped (statementAt sql cursor) schema options.substringsOrDefault d := by
  obtain ⟨hcontext, hfor⟩ := run_ok h
  obtain ⟨hcandidates, hschema⟩ := candidatesFor_ok hfor
  have hscope {x : Suggestion} (hx : x ∈ d.context.suggestions) (ho : OffersScope x) :
      (∃ scope, x = .column scope ∧
        ∀ r ∈ scope, InScope (statementAt sql cursor) d.context.word.start r) ∨
        x = .aliasName ((statementAt sql cursor).tableRefs.filter (·.aliasName.isSome)) := by
    rw [hcontext] at hx ⊢
    obtain ⟨token, hsql⟩ := ofWord_of_offersScope hx ho
    rw [hsql] at hx ⊢
    exact ofWord_scope hx ho
  refine ⟨fun k hk hkind => ?_, fun k hk hkind => ?_, fun scope hx => ?_, fun refs hx => ?_⟩
  · rw [hcandidates] at hk
    obtain ⟨p, hp, m, -, rfl⟩ := proposal_of_rank hk
    obtain ⟨x, hx, hp⟩ := List.mem_flatMap.mp hp
    rcases hscope hx (offersScope_of_kind hp (.inl hkind)) with ⟨scope, rfl, hin⟩ | rfl
    · obtain ⟨snapshot, hs, r, hr, c, hc, rfl⟩ := mem_columns.mp hp
      exact ⟨snapshot, r, c, hs, hin r hr, hc, rfl⟩
    · obtain ⟨r, -, a, -, rfl⟩ := mem_aliases.mp hp
      contradiction
  · rw [hcandidates] at hk
    obtain ⟨p, hp, m, -, rfl⟩ := proposal_of_rank hk
    obtain ⟨x, hx, hp⟩ := List.mem_flatMap.mp hp
    rcases hscope hx (offersScope_of_kind hp (.inr hkind)) with ⟨scope, rfl, -⟩ | rfl
    · obtain ⟨snapshot, -, r, -, c, -, rfl⟩ := mem_columns.mp hp
      contradiction
    · obtain ⟨r, hr, a, ha, rfl⟩ := mem_aliases.mp hp
      exact ⟨r, a, (List.mem_filter.mp hr).1, ha, rfl⟩
  · obtain ⟨snapshot, rfl⟩ := Option.isSome_iff_exists.mp (hschema _ hx rfl)
    rw [hcandidates]
    refine ⟨snapshot, rfl, fun r hr c hc hfits => ?_⟩
    have hp : ⟨.column, c, escapeName c, .scope, true, some r.label⟩ ∈
        Proposal.ofSuggestion (some snapshot) options.vocabularyOrEmpty (.column scope) :=
      mem_columns.mpr ⟨snapshot, rfl, r, hr, c, hc, rfl⟩
    exact rank_covers (List.mem_flatMap.mpr ⟨_, hx, hp⟩) (by rwa [Bool.and_true])
  · rw [hcandidates]
    intro r hr a ha hfits
    have hp : ⟨.aliasName, a, escapeName a, .scope, true, some r.name⟩ ∈
        Proposal.ofSuggestion schema options.vocabularyOrEmpty (.aliasName refs) :=
      mem_aliases.mpr ⟨r, hr, a, ha, rfl⟩
    exact rank_covers (List.mem_flatMap.mpr ⟨_, hx, hp⟩) (by rwa [Bool.and_true])

/-- The alias before the point is one of `t`. -/
theorem scoped_behind_qualifier :
    let sql : Text := "SELECT u. FROM t u"
    let snapshot : SchemaSnapshot := .ofLists [("t", ["id"])] [] [] [] [] [] 0
    ∃ d, Completion.run sql (.offset 9) (some snapshot) {} (fun _ => 0) = .ok d ∧
      Scoped (statementAt sql 9) (some snapshot) true d ∧
      ∃ k ∈ d.candidates, k.kind = .column ∧ k.text = "id" := by
  intro sql snapshot
  let r : TableRef := ⟨"t", none, some "u", .fromClause⟩
  have hlength : 9 ≤ sql.length := by decide +kernel
  obtain ⟨d, hd⟩ : ∃ d, Completion.run sql (.offset 9) (some snapshot) {} (fun _ => 0) = .ok d :=
    ⟨_, run_of_le hlength⟩
  have hscoped := scoped_candidates hd
  have hcontext : (classify (statementAt sql 9) 9 .empty).suggestions = [.column [r]] ∧
      (classify (statementAt sql 9) 9 .empty).word.text = [] := by decide +kernel
  have hid : Text.ofString "id" ∈ snapshot.columns "t" := by decide +kernel
  have hplain : escapeName "id" = "id" := by decide +kernel
  have hclassified : d.context = classify (statementAt sql 9) 9 .empty := (run_ok hd).1
  rw [← hclassified] at hcontext
  refine ⟨d, hd, hscoped, ?_⟩
  have hin : .column [r] ∈ d.context.suggestions := by
    rw [hcontext.1]
    exact List.mem_singleton_self _
  obtain ⟨_, hs, hall⟩ := hscoped.everyColumn [r] hin
  obtain rfl := Option.some.inj hs
  rw [← hplain]
  refine hall r (List.mem_singleton_self r) _ hid (.inl ?_)
  rw [hcontext.2]
  exact List.nil_prefix

end SqlShell.Proofs
