import SqlShell.Proofs.Cursors
import SqlShell.Proofs.Kinds
import SqlShell.Proofs.TableScan

namespace SqlShell.Proofs
open TableRef (introducer? read continues collect)
open Clause (search)
open Context (insertScope? unqualified)

/-- The words up to INTO of a statement that inserts rows. -/
inductive OpensInsert : List Token → Prop
  | insert {i n : Token} (hi : i.isKeyword .INSERT = true) (hn : n.isKeyword .INTO = true) :
      OpensInsert [i, n]
  | insertOr {i o a n : Token} {k : Keyword} (hi : i.isKeyword .INSERT = true)
      (ho : o.isKeyword .OR = true) (hk : k ∈ [Keyword.ROLLBACK, .ABORT, .FAIL, .IGNORE, .REPLACE])
      (ha : a.isKeyword k = true) (hn : n.isKeyword .INTO = true) : OpensInsert [i, o, a, n]
  | replace {r n : Token} (hr : r.isKeyword .REPLACE = true) (hn : n.isKeyword .INTO = true) :
      OpensInsert [r, n]

/-- Names of columns with a comma behind each. -/
inductive ColumnsListed : List Token → Prop
  | nil : ColumnsListed []
  | cons {n c : Token} {ts : List Token} (hn : n.isNameLike = true) (hc : c.isMark ',' = true)
      (h : ColumnsListed ts) : ColumnsListed (n :: c :: ts)

/-- A statement that ends in an open list of columns behind the table that `own` refers to. -/
inductive OpenList (own columns : List Token) (r : TableRef) : List Token → Prop
  | intro {front : List Token} {o : Token} (hf : OpensInsert front)
      (hr : Refers .insertTarget own r) (ho : o.isMark '(' = true) (hc : ColumnsListed columns) :
      OpenList own columns r (front ++ (own ++ o :: columns))

theorem OpensInsert.words {front : List Token} (h : OpensInsert front) :
    ∃ words n, front = words ++ [n] ∧ n.isKeyword .INTO = true ∧
      ∀ t ∈ words, introducer? t = none := by
  cases h with
  | @insert i n hi hn => exact ⟨[i], n, rfl, hn, by simpa using introducer_other hi (by decide)⟩
  | @insertOr i o a n k hi ho hk ha hn =>
    have hother : ∀ j ∈ [Keyword.ROLLBACK, .ABORT, .FAIL, .IGNORE, .REPLACE],
        j ∉ [Keyword.FROM, .JOIN, .UPDATE, .INTO] := by decide
    exact ⟨[i, o, a], n, rfl, hn, by
      simpa using ⟨introducer_other hi (by decide), introducer_other ho (by decide),
        introducer_other ha (hother k hk)⟩⟩
  | @replace r n hr hn => exact ⟨[r], n, rfl, hn, by simpa using introducer_other hr (by decide)⟩

theorem ColumnsListed.listing {columns : List Token} (h : ColumnsListed columns) :
    ∀ t ∈ columns, Listing t := by
  induction h with
  | nil => simp
  | cons hn hc _ ih =>
    simpa using ⟨Listing.name hn, Listing.comma hc, ih⟩

theorem Refers.source_eq {source : TableRef.Source} {own : List Token} {r : TableRef}
    (h : Refers source own r) : r.source = source := by
  cases h
  rfl

/-- The last token of a reference is what columns of the table are qualified with. -/
theorem Refers.last {source : TableRef.Source} {own : List Token} {r : TableRef}
    (h : Refers source own r) :
    ∃ init x, own = init ++ [x] ∧ x.isNameLike = true ∧ unquote x.text = r.label := by
  cases h with
  | @mk named given schema aliasName name hn ha =>
    cases ha with
    | none =>
      cases hn with
      | @plain t ht => exact ⟨[], t, rfl, ht, rfl⟩
      | @qualified s d t _ _ ht => exact ⟨[s, d], t, rfl, ht, rfl⟩
    | @bare a ha => exact ⟨named, a, rfl, ha, rfl⟩
    | @marked w a _ ha => exact ⟨named ++ [w], a, by simp, ha, rfl⟩

section
variable {own columns : List Token} {r : TableRef}

theorem OpenList.parts {ts : List Token} (h : OpenList own columns r ts) :
    ∃ words n o, ts = words ++ n :: (own ++ o :: columns) ∧
      (∀ t ∈ words, introducer? t = none) ∧ n.isKeyword .INTO = true ∧
      Refers .insertTarget own r ∧ o.isMark '(' = true ∧ ColumnsListed columns := by
  obtain @⟨front, o, hf, hr, ho, hc⟩ := h
  obtain ⟨words, n, rfl, hn, hwords⟩ := hf.words
  exact ⟨words, n, o, by simp, hwords, hn, hr, ho, hc⟩

theorem OpenList.tables {s : Statement} (h : OpenList own columns r s.significant) :
    s.tableRefs = [r] := by
  obtain ⟨words, n, o, htokens, hwords, hn, hr, ho, hc⟩ := h.parts
  have hinto : introducer? n = some .insertTarget := by
    rw [introducer?, Lexeme.keyword?, keyword_iff.mp hn]
  have hends : EndsTable (o :: columns) := endsTable_mark ho (by decide) columns
  have hrest : ∀ t ∈ own ++ o :: columns, introducer? t = none := by
    simp only [List.mem_append, List.mem_cons]
    rintro t (ht | rfl | ht)
    · exact hr.introducer t ht
    · exact introducer_mark ho
    · exact (hc.listing t ht).introducer
  have hnone : scan (own ++ o :: columns) = [] := by
    simpa [scan] using scan_skip hrest []
  rw [Statement.tableRefs, htokens, collect_eq_scan, scan_skip hwords, scan, introduced, hinto,
    Option.elim_some, readList_last (hr.read hends) rfl, hnone, List.append_nil]

end

section
variable {t : Token} {before : List Token}

theorem ofToken_keyword {k : Keyword} {prev : Option Token} (h : t.keyword? = some k)
    (hk : k ≠ .BY) : ClauseWord.ofToken? t prev = some (.keyword k) := by
  unfold ClauseWord.ofToken?
  split
  · rename_i hnone
    rw [h] at hnone
    contradiction
  · rename_i hby
    exact absurd (Option.some.inj (h.symm.trans hby)) hk
  · rename_i j _ hj
    rw [Option.some.inj (h.symm.trans hj)]

/-- Of the keywords that are read as names, two begin a clause. -/
theorem opensClause_name {k : Keyword} (h : k.isName = true) :
    (ClauseWord.keyword k).opensClause = [Keyword.OFFSET, .PRAGMA].contains k := by
  have hall : ∀ k ∈ Keyword.names,
      (ClauseWord.keyword k).opensClause = [Keyword.OFFSET, .PRAGMA].contains k := by decide
  exact hall k (by simpa [Keyword.isName] using h)

/-- Where BY makes no word of a clause with the word before it, only these two begin one. -/
theorem clauseAt_nameLike (h : t.isNameLike = true)
    (hk : t.isKeywordOf [.OFFSET, .PRAGMA] = false)
    (hprev : before.head?.bind (·.keyword?) ∈ [none, some Keyword.INTO]) :
    clauseAt? t before = none := by
  cases hkey : t.keyword? with
  | none =>
    rw [clauseAt?, ClauseWord.ofToken?, hkey]
    rfl
  | some k =>
    have hname : k.isName = true := isName_of_nameLike h (beq_iff_eq.mpr hkey)
    by_cases hby : k = .BY
    · subst hby
      have hword : ClauseWord.ofToken? t before.head? = some (.keyword .BY) := by
        rw [ClauseWord.ofToken?, hkey]
        simp only [List.mem_cons, List.not_mem_nil, or_false] at hprev
        rcases hprev with hprev | hprev
        · rw [hprev]
        · rw [hprev]
      rw [clauseAt?, hword]
      rfl
    · rw [Lexeme.isKeywordOf, hkey, Option.any_some] at hk
      rw [clauseAt?, ofToken_keyword hkey hby, Option.filter_some, opensClause_name hname, hk]
      rfl

theorem clauseAt_isName (h : t.isName = true) : clauseAt? t before = none := by
  obtain ⟨⟨kind, text⟩, start⟩ := t
  cases kind with
  | identifier | quotedIdentifier => rfl
  | _ => contradiction

theorem clauseAt_keyword (h : t.isKeywordOf [.OFFSET, .PRAGMA] = true) :
    clauseAt? t before ≠ none := by
  rw [Lexeme.isKeywordOf] at h
  obtain ⟨k, hkey, hk⟩ := (Option.any_eq_true _ _).mp h
  have hall : ∀ k ∈ [Keyword.OFFSET, .PRAGMA], k ≠ .BY ∧ (ClauseWord.keyword k).opensClause := by
    decide
  obtain ⟨hby, hopens⟩ := hall k (by simpa using hk)
  rw [clauseAt?, ofToken_keyword hkey hby, Option.filter_some, if_pos hopens]
  exact Option.some_ne_none _

end

theorem Bare.append {opens : Bool} {far near more : List Token}
    (h : Bare opens (more ++ far) near) (h' : Bare opens far more) :
    Bare opens far (near ++ more) := by
  induction h with
  | nil => exact h'
  | token ho hc hw _ ih => exact .token ho hc (by rw [List.append_eq, List.append_assoc, hw]) ih
  | opening hopens ho _ ih => exact .opening hopens ho ih
  | group hc hin ho _ ih =>
    rw [List.cons_append, List.append_assoc, List.cons_append]
    exact .group hc hin ho ih

/-- The nearest token of a stretch without parentheses that begins a clause decides. -/
theorem search_stretch {near far : List Token} (parenthesis : Option Nat)
    (h : ∀ t ∈ near, t.isMark '(' = false ∧ t.isMark ')' = false) :
    Bare false far near ∨ ∃ w k, (∃ t ∈ near, ∃ before, clauseAt? t before = some w) ∧
      search 0 parenthesis (near ++ far) = ⟨some (w, k), parenthesis⟩ := by
  induction near with
  | nil => exact .inl .nil
  | cons t near ih =>
    obtain ⟨ho, hc⟩ := h t List.mem_cons_self
    cases hw : clauseAt? t (near ++ far) with
    | some w =>
      exact .inr ⟨w, (near ++ far).length, ⟨t, List.mem_cons_self, _, hw⟩, search_clause hw⟩
    | none =>
      rcases ih fun u hu => h u (List.mem_cons_of_mem _ hu) with hbare | ⟨w, k, ⟨u, hu, hw'⟩, hs⟩
      · exact .inl (.token ho hc hw hbare)
      · refine .inr ⟨w, k, ⟨u, List.mem_cons_of_mem _ hu, hw'⟩, ?_⟩
        rw [List.cons_append, search_other ho hc hw, hs]

theorem Bare.no_keyword {far near : List Token} (h : Bare false far near)
    (hc : ∀ t ∈ near, t.isMark ')' = false) :
    ∀ t ∈ near, t.isKeywordOf [.OFFSET, .PRAGMA] = false := by
  induction h with
  | nil => simp
  | @token t ts ho _ hw _ ih =>
    intro u hu
    rcases List.mem_cons.mp hu with rfl | hu
    · rw [Bool.eq_false_iff]
      exact fun hk => clauseAt_keyword hk hw
    · exact ih (fun v hv => hc v (List.mem_cons_of_mem _ hv)) u hu
  | opening hopens => contradiction
  | group hm =>
    rw [hc _ List.mem_cons_self] at hm
    contradiction

section
variable {own columns far : List Token} {r : TableRef} {n : Token}

theorem ColumnsListed.stretch (h : ColumnsListed columns)
    (hk : ∀ t ∈ columns, t.isKeywordOf [.OFFSET, .PRAGMA] = false)
    (hfar : far.head?.bind (·.keyword?) ∈ [none, some Keyword.INTO]) :
    Bare false far columns.reverse := by
  induction h generalizing far with
  | nil => exact .nil
  | @cons n c ts hn hc _ ih =>
    have hkeys := List.forall_mem_cons.mp hk
    -- the names behind this one have its comma before them
    have hname : Bare false far [n] :=
      .token (unmarked_of_nameLike hn '(') (unmarked_of_nameLike hn ')')
        (clauseAt_nameLike hn hkeys.1 hfar) .nil
    have hpair : Bare false far [c, n] :=
      .token (isMark_unique hc (by decide)) (isMark_unique hc (by decide)) (clauseAt_mark hc _)
        hname
    have hafter : (c :: n :: far).head?.bind (·.keyword?) ∈ [none, some Keyword.INTO] := by
      simp [keyword_of_mark hc]
    rw [List.reverse_cons, List.reverse_cons, List.append_assoc]
    exact (ih (fun t ht => hkeys.2 t (List.mem_cons_of_mem _ ht)) hafter).append hpair

theorem NamesTable.stretch {schema : Option Text} {name : Text} (h : NamesTable own schema name)
    (hk : ∀ t ∈ own, t.isKeywordOf [.OFFSET, .PRAGMA] = false)
    (hfar : far.head?.bind (·.keyword?) ∈ [none, some Keyword.INTO]) :
    Bare false far own.reverse := by
  have hword {t : Token} {more : List Token} (hn : t.isNameLike = true) (ht : t ∈ own)
      (hprev : (more ++ far).head?.bind (·.keyword?) ∈ [none, some Keyword.INTO])
      (hmore : Bare false far more) : Bare false far (t :: more) :=
    .token (unmarked_of_nameLike hn '(') (unmarked_of_nameLike hn ')')
      (clauseAt_nameLike hn (hk t ht) hprev) hmore
  cases h with
  | plain ht => exact hword ht (by simp) hfar .nil
  | qualified hs hd ht =>
    refine hword ht (by simp) (by simp [keyword_of_mark hd]) ?_
    exact .token (isMark_unique hd (by decide)) (isMark_unique hd (by decide)) (clauseAt_mark hd _)
      (hword hs (by simp) hfar .nil)

theorem clauseAt_as {t : Token} {before : List Token} (h : t.isKeyword .AS = true) :
    clauseAt? t before = none := by
  rw [clauseAt?, ofToken_keyword (beq_iff_eq.mp h) (by decide)]
  rfl

theorem GivesAlias.stretch {aliasName : Option Text} (h : GivesAlias own aliasName)
    (hlast : ∀ x, own.getLast? = some x → x.isName = true) : Bare false far own.reverse := by
  have hword {t : Token} {more : List Token} (hn : t.isNameLike = true)
      (ht : own.getLast? = some t) (hmore : Bare false far more) : Bare false far (t :: more) :=
    .token (unmarked_of_nameLike hn '(') (unmarked_of_nameLike hn ')')
      (clauseAt_isName (hlast t ht)) hmore
  cases h with
  | none => exact .nil
  | bare ha => exact hword ha rfl .nil
  | marked hw ha =>
    exact hword ha rfl (.token (unmarked_of_isKeyword hw '(') (unmarked_of_isKeyword hw ')')
      (clauseAt_as hw) .nil)

/-- No clause begins in a reference that ends in a name. -/
theorem Refers.stretch {source : TableRef.Source} (h : Refers source own r)
    (hlast : own.getLast?.any (·.isName) = true)
    (hk : ∀ t ∈ own, t.isKeywordOf [.OFFSET, .PRAGMA] = false)
    (hfar : far.head?.bind (·.keyword?) ∈ [none, some Keyword.INTO]) :
    Bare false far own.reverse := by
  cases h with
  | @mk named given schema aliasName name hn ha =>
    rw [List.reverse_append]
    refine Bare.append (ha.stretch fun x hx => ?_)
      (hn.stretch (fun t ht => hk t (List.mem_append_left _ ht)) hfar)
    simpa [List.getLast?_append, hx] using hlast

end

section
variable {sql : Text} {s : Statement} {cursor : Int}

/-- Behind the last token of a statement, if it is a mark, no word is typed. -/
theorem wordless_behind {last : Token} (ho : Ordered s.tokens)
    (hl : s.significant.getLast? = some last) (hp : last.kind = .punctuation)
    (hc : ∀ t ∈ s.significant, (t.stop : Int) ≤ cursor) (hout : ¬ InComment s cursor) :
    Token.isInsideLiteral s.tokens cursor = false ∧
      (Token.atCursor? s.tokens cursor).filter (·.isWord) = none := by
  have hin : last ∈ s.significant := List.mem_of_getLast? hl
  rcases Int.lt_or_eq_of_le (hc last hin) with hlt | he
  · rw [List.getLast?_eq_getElem?] at hl
    have hpos : 0 < s.significant.length := List.length_pos_of_mem hin
    have hspot : (Spot.behind s.significant.length).At s cursor :=
      ⟨hout, by simp, fun i hi => ⟨last, by rw [← hl, hi, Nat.add_sub_cancel], hlt⟩⟩
    exact blank_of_behind ho hspot
  · have hm := (List.mem_filter.mp hin).1
    have hfilled := ho.filled last hm
    rw [Token.isInsideLiteral, ho.atCursor hm (by omega) (by omega), Option.filter_some]
    simp [Lexeme.isLiteralOrComment, Lexeme.isWord, hp]

/-- Behind the last token of a statement, if it is a mark, what is offered is told by all tokens. -/
theorem suggestions_behind {last : Token} {more : List Token} (hs : s ∈ statements sql)
    (hl : s.significant.reverse = last :: more) (hp : last.kind = .punctuation)
    (hd : last.isMark '.' = false) (hc : ∀ t ∈ s.significant, (t.stop : Int) ≤ cursor)
    (hout : ¬ InComment s cursor) :
    (classify s cursor .empty).suggestions =
      (unqualified s.tableRefs s.significant.reverse).1 ::
        (unqualified s.tableRefs s.significant.reverse).2 := by
  have ho := ordered_statement hs
  have hsig : Ordered s.significant := ho.sublist List.filter_sublist
  have hlast : s.significant.getLast? = some last := by
    rw [← List.head?_reverse, hl, List.head?_cons]
  obtain ⟨hliteral, hword⟩ := wordless_behind ho hlast hp hc hout
  have hbefore : s.significant.filter
      (fun t => (t.stop : Int) ≤ (Context.partialWord none cursor).start) = s.significant :=
    List.filter_eq_self.mpr fun t ht => decide_eq_true (hc t ht)
  have hnext : s.significant.find?
      (fun t => Option.elim none cursor (fun t : Token => (t.stop : Int)) ≤ (t.start : Int)) =
        none := by
    rw [List.find?_eq_none]
    intro t ht
    have hfilled := hsig.filled t ht
    have hstop := hc t ht
    rw [Option.elim_none, decide_eq_true_eq]
    omega
  have hfree : Context.qualifier? (Context.partialWord none cursor).start s.significant.reverse =
      none := by
    rw [hl]
    cases more with
    | nil => rfl
    | cons u more => simp [Context.qualifier?, hd]
  rw [classify_empty, Context.ofSql, hliteral, hword]
  simp only [Bool.false_eq_true, if_false, Context.ofWord, hbefore, hnext, hfree]
  rfl

end

/-- What the table of an open list is taken for: a target of that name, as it is referred to. -/
theorem scope_iff {r : TableRef} (hr : r.source = .insertTarget) :
    ([r].find? (fun q => q.source == .insertTarget && q.name == r.label)).getD
        ⟨r.label, none, none, .insertTarget⟩ = r ↔ r.label = r.name := by
  constructor
  · intro h
    by_cases hn : r.name = r.label
    · exact hn.symm
    · have hname := congrArg TableRef.name h
      rw [List.find?_singleton, hr, beq_self_eq_true, Bool.true_and, if_neg (by simpa using hn),
        Option.getD_none] at hname
      exact hname
  · intro h
    rw [List.find?_singleton, hr, beq_self_eq_true, Bool.true_and, h, beq_self_eq_true, if_pos rfl,
      Option.getD_some]

/-- The tokens of an open list, nearest first, that begins behind the tokens `far`. -/
def listBefore (own columns : List Token) (o n : Token) (far : List Token) : List Token :=
  columns.reverse ++ o :: (own.reverse ++ n :: far)

theorem ColumnsListed.last {columns : List Token} (h : ColumnsListed columns) :
    columns = [] ∨ ∃ init n c, columns = init ++ [n, c] ∧ n.isNameLike = true ∧
      c.isMark ',' = true := by
  induction h with
  | nil => exact .inl rfl
  | @cons n c ts hn hc _ ih =>
    right
    rcases ih with rfl | ⟨init, m, d, rfl, hm, hd⟩
    · exact ⟨[], n, c, rfl, hn, hc⟩
    · exact ⟨n :: c :: init, m, d, rfl, hm, hd⟩

section
variable {own columns far : List Token} {r : TableRef} {o n : Token}
  (hr : Refers .insertTarget own r) (hc : ColumnsListed columns) (ho : o.isMark '(' = true)
include hr hc ho

/-- An open list ends in a mark, behind a word that can be a name. -/
theorem front_listBefore (n : Token) (far : List Token) :
    ∃ last prev more, listBefore own columns o n far = last :: prev :: more ∧
      (last.isMark '(' = true ∨ last.isMark ',' = true) ∧ prev.isNameLike = true := by
  obtain ⟨init, x, rfl, hx, -⟩ := hr.last
  rcases hc.last with rfl | ⟨init', m, c, rfl, hm, hcomma⟩
  · exact ⟨o, x, init.reverse ++ n :: far, by simp [listBefore], .inl ho, hx⟩
  · exact ⟨c, m, init'.reverse ++ o :: ((init ++ [x]).reverse ++ n :: far), by simp [listBefore],
      .inr hcomma, hm⟩

/-- Where no clause begins in the list, the name before the parenthesis is looked up. -/
theorem insertScope_stretch (hn : n.isKeyword .INTO = true)
    (hcolumns : Bare false (o :: (own.reverse ++ n :: far)) columns.reverse)
    (hown : Bare false (n :: far) own.reverse) :
    insertScope? [r] (listBefore own columns o n far) = some r ↔
      own.getLast?.any (·.isName) = true ∧ r.label = r.name := by
  obtain ⟨last, prev, more, hfront, hmark, -⟩ := front_listBefore hr hc ho n far
  have hsource := hr.source_eq
  obtain ⟨init, x, rfl, -, hlabel⟩ := hr.last
  have hfind : Clause.find (listBefore (init ++ [x]) columns o n far) =
      ⟨some (.keyword .INTO, far.length), some (init.length + far.length + 1 + 1)⟩ := by
    rw [Clause.find, listBefore, search_bare hcolumns Bool.noConfusion, search_opening ho,
      search_bare hown Bool.noConfusion, search_clause (clauseAt_into.mpr hn)]
    simp
    omega
  have howner : (listBefore (init ++ [x]) columns o n far).reverse[init.length + far.length + 1]? =
      some x := by
    have hat := reverse_at (columns.reverse ++ [o]) (init.reverse ++ n :: far) x
    simpa [listBefore, Nat.add_assoc] using hat
  have hhead : (listBefore (init ++ [x]) columns o n far).head?.any
      (fun t => t.isMark '(' || t.isMark ',') = true := by
    rw [hfront]
    simpa using hmark
  have hinto : (Clause.find (listBefore (init ++ [x]) columns o n far)).isOneOf [.INTO] = true := by
    rw [hfind]
    rfl
  simp only [insertScope?, hinto, hhead, Bool.and_self, if_true]
  simp only [hfind, Nat.add_one_ne_zero, if_false, Nat.add_sub_cancel, howner, Option.filter_some,
    List.getLast?_concat, Option.any_some]
  cases x.isName with
  | false => simp
  | true =>
    simp only [if_true, true_and]
    rw [Option.some_inj, hlabel]
    exact scope_iff hsource

/-- The table of an open list is found exactly if the name before the parenthesis is the table's
and no keyword of the list is taken for the beginning of a clause. -/
theorem insertScope_iff (hn : n.isKeyword .INTO = true) :
    insertScope? [r] (listBefore own columns o n far) = some r ↔
      own.getLast?.any (·.isName) = true ∧ r.label = r.name ∧
        ∀ t ∈ own ++ columns, t.isKeywordOf [.OFFSET, .PRAGMA] = false := by
  have hunmarked {ts : List Token} (h : ∀ t ∈ ts, Listing t) :
      ∀ t ∈ ts.reverse, t.isMark '(' = false ∧ t.isMark ')' = false := fun t ht =>
    have hl := h t (List.mem_reverse.mp ht)
    ⟨hl.unmarked (by decide) (by decide), hl.unmarked (by decide) (by decide)⟩
  constructor
  · intro h
    -- a clause that begins among the columns is found before the parenthesis is
    have hcolumns : Bare false (o :: (own.reverse ++ n :: far)) columns.reverse := by
      rcases search_stretch none (hunmarked hc.listing) with hbare | ⟨w, k, -, hfind⟩
      · exact hbare
      · rw [insertScope?, Clause.find, listBefore, hfind] at h
        simp at h
    -- one that begins in the reference is found before INTO is
    have hown : Bare false (n :: far) own.reverse := by
      rcases search_stretch (some (own.reverse ++ n :: far).length) (hunmarked hr.listing) with
        hbare | ⟨w, k, ⟨t, ht, before, hw⟩, hfind⟩
      · exact hbare
      · have hother : w ≠ .keyword .INTO := by
          rintro rfl
          have hnone := hr.introducer t (List.mem_reverse.mp ht)
          rw [introducer?, Lexeme.keyword?, keyword_iff.mp (clauseAt_into.mp hw)] at hnone
          contradiction
        rw [insertScope?, Clause.find, listBefore, search_bare hcolumns Bool.noConfusion,
          search_opening ho, Option.getD_none, hfind] at h
        simp [Clause.isOneOf, Clause.word?, hother] at h
    obtain ⟨hlast, hlabel⟩ := (insertScope_stretch hr hc ho hn hcolumns hown).mp h
    refine ⟨hlast, hlabel, fun t ht => ?_⟩
    rcases List.mem_append.mp ht with ht | ht
    · exact hown.no_keyword (fun u hu => (hunmarked hr.listing u hu).2) t (List.mem_reverse.mpr ht)
    · exact hcolumns.no_keyword (fun u hu => (hunmarked hc.listing u hu).2) t
        (List.mem_reverse.mpr ht)
  · rintro ⟨hlast, hlabel, hk⟩
    have hinto : (n :: far).head?.bind (·.keyword?) ∈ [none, some Keyword.INTO] := by
      simp [beq_iff_eq.mp hn]
    have hopen : (o :: (own.reverse ++ n :: far)).head?.bind (·.keyword?) ∈
        [none, some Keyword.INTO] := by simp [keyword_of_mark ho]
    exact (insertScope_stretch hr hc ho hn
      (hc.stretch (fun t ht => hk t (List.mem_append_right _ ht)) hopen)
      (hr.stretch hlast (fun t ht => hk t (List.mem_append_left _ ht)) hinto)).mpr ⟨hlast, hlabel⟩

end

/-- A clause is found at one of the tokens. -/
theorem token_of_search {depth k : Nat} {parenthesis : Option Nat} {ts : List Token}
    {w : ClauseWord} (h : (search depth parenthesis ts).opening = some (w, k)) :
    ∃ t ∈ ts, ∃ before, clauseAt? t before = some w := by
  induction ts generalizing depth parenthesis with
  | nil => contradiction
  | cons t ts ih =>
    have hmore {depth : Nat} {parenthesis : Option Nat}
        (h : (search depth parenthesis ts).opening = some (w, k)) :
        ∃ t' ∈ t :: ts, ∃ before, clauseAt? t' before = some w := by
      obtain ⟨u, hu, hw⟩ := ih h
      exact ⟨u, List.mem_cons_of_mem _ hu, hw⟩
    cases hc : t.isMark ')' with
    | true => exact hmore (search_closing hc ▸ h)
    | false =>
      cases ho : t.isMark '(' with
      | true =>
        cases depth with
        | zero => exact hmore (search_opening ho ▸ h)
        | succ depth => exact hmore (search_partner ho ▸ h)
      | false =>
        cases depth with
        | succ depth => exact hmore (search_inside ho hc ▸ h)
        | zero =>
          cases hw : clauseAt? t ts with
          | none => exact hmore (search_other ho hc hw ▸ h)
          | some v =>
            rw [search_clause hw] at h
            obtain ⟨rfl, -⟩ := Prod.mk.inj (Option.some.inj h)
            exact ⟨t, List.mem_cons_self, ts, hw⟩

/-- Without a word of its own a clause is not found. -/
theorem isOneOf_false {ts : List Token} {ks : List Keyword}
    (h : ∀ t ∈ ts, t.isKeywordOf ks = false) : (Clause.find ts).isOneOf ks = false := by
  rw [Bool.eq_false_iff]
  intro hone
  rw [Clause.isOneOf, Clause.word?, Option.any_map] at hone
  obtain ⟨⟨w, k⟩, hopening, hword⟩ := (Option.any_eq_true _ _).mp hone
  obtain ⟨j, hj, hw⟩ := List.any_eq_true.mp hword
  obtain rfl : w = .keyword j := beq_iff_eq.mp hw
  obtain ⟨t, ht, before, hat⟩ := token_of_search hopening
  have hkey := keyword_of_clauseWord (Option.filter_eq_some_iff.mp hat).1
  have hnone := h t ht
  rw [Lexeme.isKeywordOf, hkey, Option.any_some] at hnone
  simp [hj] at hnone

/-- Only the rule of open lists offers the columns of one table and nothing else. -/
theorem insertScope_of_unqualified {refs : List TableRef} {ts : List Token} {r : TableRef}
    (h : unqualified refs ts = (.column [r], [])) : insertScope? refs ts = some r := by
  unfold unqualified at h
  split at h
  · simp at h
  · split at h
    · simp at h
    · split at h
      · simp at h
      · split at h
        · rename_i pragma _
          have hx := not_offersScope_pragma pragma
          rw [(Prod.mk.inj h).1] at hx
          exact (hx trivial).elim
        · split at h
          · rename_i q hq
            obtain rfl : q = r := by simpa using h
            exact hq
          · split at h
            · simp at h
            · split at h
              · simp [Context.expressionSuggestions] at h
              · split at h
                · simp at h
                · simp at h

theorem unqualified_iff {refs : List TableRef} {last prev : Token} {more : List Token}
    {r : TableRef} (hmark : last.isMark '(' = true ∨ last.isMark ',' = true)
    (hprev : prev.isNameLike = true)
    (hfrom : (Clause.find (last :: prev :: more)).isOneOf [.FROM, .JOIN] = false) :
    unqualified refs (last :: prev :: more) = (.column [r], []) ↔
      insertScope? refs (last :: prev :: more) = some r := by
  refine ⟨insertScope_of_unqualified, fun h => ?_⟩
  have hkey : last.keyword? = none := by
    rcases hmark with hm | hm
    · exact keyword_of_mark hm
    · exact keyword_of_mark hm
  have hdue : Context.dueObjects? (last :: prev :: more) = none := by
    rw [Context.dueObjects?, hkey]
    simp [hfrom]
  have hsubquery : Context.opensSubquery (last :: prev :: more) = false := by
    rw [Context.opensSubquery, Bool.and_eq_false_iff]
    right
    rw [Bool.eq_false_iff]
    intro hk
    obtain ⟨k, hk, hkey⟩ := keywordOf_iff.mp hk
    have hother : ∀ k ∈ [Keyword.FROM, .JOIN], k.isName = false := by decide
    rw [not_keyword_of_nameLike hprev (hother k hk)] at hkey
    contradiction
  have hpragma : Context.openedPragma? (last :: prev :: more) = none := by
    obtain ⟨t, hl, -⟩ := insertScope_some h
    obtain ⟨k, i, hfind, -⟩ := find_of_listed hl
    simp [Context.openedPragma?, hfind, Clause.isOneOf, Clause.word?]
  rw [unqualified, hdue]
  simp only [hsubquery, hpragma, h, Bool.false_eq_true, if_false]

theorem OpenList.sourceless {own columns ts : List Token} {r : TableRef}
    (h : OpenList own columns r ts) : ∀ t ∈ ts, t.isKeywordOf [.FROM, .JOIN] = false := by
  obtain ⟨words, n, o, rfl, hwords, hn, hr, ho, hc⟩ := h.parts
  have hnone {t : Token} (hi : introducer? t = none) : t.isKeywordOf [.FROM, .JOIN] = false := by
    rw [Bool.eq_false_iff]
    intro hk
    obtain ⟨k, hk, hkey⟩ := keywordOf_iff.mp hk
    rw [introducer?, Lexeme.keyword?, keyword_iff.mp hkey] at hi
    simp only [List.mem_cons, List.not_mem_nil, or_false] at hk
    rcases hk with rfl | rfl
    · contradiction
    · contradiction
  simp only [List.mem_append, List.mem_cons]
  rintro t (ht | rfl | ht | rfl | ht)
  · exact hnone (hwords t ht)
  · rw [Lexeme.isKeywordOf, beq_iff_eq.mp hn]
    rfl
  · exact hnone (hr.introducer t ht)
  · exact hnone (introducer_mark ho)
  · exact hnone (hc.listing t ht).introducer

/-- At the end of a statement whose list of columns is open only columns of the table behind INTO
are offered, if that is the table that the token before the parenthesis names, and if neither
OFFSET nor PRAGMA is among the names; otherwise something else is offered. -/
theorem insert_columns_iff {sql : Text} {s : Statement} {own columns : List Token} {r : TableRef}
    {cursor : Int} (hs : s ∈ statements sql) (hi : OpenList own columns r s.significant)
    (hc : ∀ t ∈ s.significant, (t.stop : Int) ≤ cursor) (hout : ¬ InComment s cursor) :
    s.tableRefs = [r] ∧
      ((classify s cursor .empty).suggestions = [.column [r]] ↔
        own.getLast?.any (·.isName) = true ∧ r.label = r.name ∧
          ∀ t ∈ own ++ columns, t.isKeywordOf [.OFFSET, .PRAGMA] = false) := by
  have htables := hi.tables
  refine ⟨htables, ?_⟩
  have hsources := hi.sourceless
  obtain ⟨words, n, o, htokens, hwords, hn, hr, ho, hcolumns⟩ := hi.parts
  have hbefore : s.significant.reverse = listBefore own columns o n words.reverse := by
    rw [htokens, listBefore]
    simp
  obtain ⟨last, prev, more, hfront, hmark, hprev⟩ :=
    front_listBefore hr hcolumns ho n words.reverse
  have hpunctuation : last.kind = .punctuation ∧ last.isMark '.' = false := by
    rcases hmark with hm | hm
    · exact ⟨(mark_iff.mp hm).1, isMark_unique hm (by decide)⟩
    · exact ⟨(mark_iff.mp hm).1, isMark_unique hm (by decide)⟩
  have hfrom : (Clause.find (last :: prev :: more)).isOneOf [.FROM, .JOIN] = false := by
    rw [← hfront, ← hbefore]
    exact isOneOf_false fun t ht => hsources t (List.mem_reverse.mp ht)
  rw [suggestions_behind hs (hbefore.trans hfront) hpunctuation.1 hpunctuation.2 hc hout, htables,
    hbefore, ← insertScope_iff hr hcolumns ho hn, hfront, ← unqualified_iff hmark hprev hfrom,
    List.cons.injEq, Prod.ext_iff]

/-- A statement without comments has no place in a comment. -/
theorem not_inComment {s : Statement} (h : ∀ t ∈ s.tokens, t.isLiteralOrComment = false)
    (cursor : Int) : ¬ InComment s cursor := by
  rintro ⟨t, ht, hk, -⟩
  have hnone := h t ht
  obtain ⟨⟨kind, text⟩, start⟩ := t
  cases kind with
  | lineComment | blockComment => contradiction
  | _ => exact hk

/-- Two columns are listed behind a table of a schema. -/
theorem columns_of_listed_table :
    let sql : Text := "INSERT OR IGNORE INTO main.t (a, key, "
    let s : Statement := ⟨0, tokenize sql, false⟩
    s ∈ statements sql ∧
      (classify s s.stop .empty).suggestions =
        [.column [⟨"t", some "main", none, .insertTarget⟩]] := by
  intro sql s
  let front : List Token := [⟨⟨.keyword .INSERT, "INSERT"⟩, 0⟩, ⟨⟨.keyword .OR, "OR"⟩, 7⟩,
    ⟨⟨.keyword .IGNORE, "IGNORE"⟩, 10⟩, ⟨⟨.keyword .INTO, "INTO"⟩, 17⟩]
  let own : List Token := [⟨⟨.identifier, "main"⟩, 22⟩, ⟨⟨.punctuation, "."⟩, 26⟩,
    ⟨⟨.identifier, "t"⟩, 27⟩]
  let o : Token := ⟨⟨.punctuation, "("⟩, 29⟩
  let columns : List Token := [⟨⟨.identifier, "a"⟩, 30⟩, ⟨⟨.punctuation, ","⟩, 31⟩,
    ⟨⟨.keyword .KEY, "key"⟩, 33⟩, ⟨⟨.punctuation, ","⟩, 36⟩]
  have htext : s ∈ statements sql ∧ s.significant = front ++ (own ++ o :: columns) ∧
      (∀ t ∈ s.significant, (t.stop : Int) ≤ s.stop) ∧
      ∀ t ∈ s.tokens, t.isLiteralOrComment = false := by decide +kernel
  obtain ⟨hs, htokens, hc, hplain⟩ := htext
  have hfront : OpensInsert front := .insertOr (k := .IGNORE) rfl rfl (by decide) rfl rfl
  have hown : Refers .insertTarget own ⟨"t", some "main", none, .insertTarget⟩ :=
    .mk (.qualified rfl rfl rfl) .none
  have hcolumns : ColumnsListed columns := .cons rfl rfl (.cons rfl rfl .nil)
  have hi : OpenList own columns ⟨"t", some "main", none, .insertTarget⟩ s.significant := by
    rw [htokens]
    exact .intro hfront hown rfl hcolumns
  exact ⟨hs, (insert_columns_iff hs hi hc (not_inComment hplain s.stop)).2.mpr
    ⟨by decide, by decide, by decide⟩⟩

/-- An alias is taken for the table. -/
theorem columns_of_other_table :
    let sql : Text := "INSERT INTO t AS x ("
    let own : List Token := [⟨⟨.identifier, "t"⟩, 12⟩, ⟨⟨.keyword .AS, "AS"⟩, 14⟩,
      ⟨⟨.identifier, "x"⟩, 17⟩]
    let r : TableRef := ⟨"t", none, some "x", .insertTarget⟩
    let s : Statement := ⟨0, tokenize sql, false⟩
    s ∈ statements sql ∧ OpenList own [] r s.significant ∧
      (∀ t ∈ s.significant, t.stop ≤ s.stop) ∧ ¬ InComment s s.stop ∧ s.tableRefs = [r] ∧
      (classify s s.stop .empty).suggestions = [.column [⟨"x", none, none, .insertTarget⟩]] := by
  intro sql own r s
  let front : List Token := [⟨⟨.keyword .INSERT, "INSERT"⟩, 0⟩, ⟨⟨.keyword .INTO, "INTO"⟩, 7⟩]
  let o : Token := ⟨⟨.punctuation, "("⟩, 19⟩
  have htext : s ∈ statements sql ∧ s.significant = front ++ (own ++ [o]) ∧
      (∀ t ∈ s.significant, t.stop ≤ s.stop) ∧ (∀ t ∈ s.tokens, t.isLiteralOrComment = false) ∧
      s.tableRefs = [r] ∧ (classify s s.stop .empty).suggestions =
        [.column [⟨"x", none, none, .insertTarget⟩]] := by decide +kernel
  obtain ⟨hs, htokens, hstop, hplain, hrefs, hoffered⟩ := htext
  have hown : Refers .insertTarget own r := .mk (.plain rfl) (.marked rfl rfl)
  have hi : OpenList own [] r s.significant := by
    rw [htokens]
    exact .intro (.insert rfl rfl) hown rfl .nil
  exact ⟨hs, hi, hstop, not_inComment hplain s.stop, hrefs, hoffered⟩

end SqlShell.Proofs
