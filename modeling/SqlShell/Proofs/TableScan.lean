import SqlShell.Proofs.LexemeKinds
import SqlShell.Proofs.References

namespace SqlShell.Proofs
open TableRef (introducer? read readName readAlias continues collect)

/-- Tokens that name a table, with its schema if one is written. -/
inductive NamesTable : List Token → Option Text → Text → Prop
  | plain {t : Token} (ht : t.isNameLike = true) : NamesTable [t] none (unquote t.text)
  | qualified {s d t : Token} (hs : s.isNameLike = true) (hd : d.isMark '.' = true)
      (ht : t.isNameLike = true) :
      NamesTable [s, d, t] (some (unquote s.text)) (unquote t.text)

/-- Tokens that give an alias, with or without AS, or give none. -/
inductive GivesAlias : List Token → Option Text → Prop
  | none : GivesAlias [] none
  | bare {a : Token} (ha : a.isNameLike = true) : GivesAlias [a] (some (unquote a.text))
  | marked {w a : Token} (hw : w.isKeyword .AS = true) (ha : a.isNameLike = true) :
      GivesAlias [w, a] (some (unquote a.text))

/-- Tokens that refer to a table, with what is read of them. -/
inductive Refers (source : TableRef.Source) : List Token → TableRef → Prop
  | mk {named given : List Token} {schema aliasName : Option Text} {name : Text}
      (hn : NamesTable named schema name) (ha : GivesAlias given aliasName) :
      Refers source (named ++ given) ⟨name, schema, aliasName, source⟩

theorem Refers.of_name {source : TableRef.Source} {t : Token} (ht : t.isNameLike = true) :
    Refers source [t] ⟨unquote t.text, none, none, source⟩ := .mk (.plain ht) .none

/-- No reference to a table goes on at the front of these tokens. -/
def EndsTable (more : List Token) : Prop :=
  ∀ t, more.head? = some t →
    t.isNameLike = false ∧ t.isKeyword .AS = false ∧ t.isMark '.' = false

theorem endsTable_mark {t : Token} {c : Char} (h : t.isMark c = true) (hdot : unit c ≠ unit '.')
    (more : List Token) : EndsTable (t :: more) := by
  intro u hu
  obtain rfl := Option.some.inj hu
  exact ⟨not_nameLike_of_mark h, not_keyword_of_mark h .AS, isMark_unique h hdot⟩

section
variable {own more ts : List Token} {source : TableRef.Source}

theorem NamesTable.read {schema : Option Text} {name : Text} (h : NamesTable own schema name)
    (hm : ∀ t, more.head? = some t → t.isMark '.' = false) :
    readName (own ++ more) = some (schema, name, own.length) := by
  cases h with
  | @plain t ht =>
    cases more with
    | nil => simp [readName, ht]
    | cons d more => cases more <;> simp [readName, ht, hm d rfl]
  | qualified hs hd ht => simp [readName, hs, hd, ht]

theorem GivesAlias.read {aliasName : Option Text} (h : GivesAlias own aliasName)
    (hm : EndsTable more) : readAlias (own ++ more) = (aliasName, own.length) := by
  cases h with
  | none =>
    cases more with
    | nil => rfl
    | cons t more => cases more <;> simp [readAlias, hm t rfl]
  | @bare a ha =>
    have has : a.isKeyword .AS = false := not_keyword_of_nameLike ha rfl
    cases more with
    | nil => simp [readAlias, ha]
    | cons u more => simp [readAlias, ha, has]
  | marked hw ha => simp [readAlias, hw, ha]

/-- No alias begins with a dot. -/
theorem GivesAlias.undotted {aliasName : Option Text} (h : GivesAlias own aliasName)
    (hm : EndsTable more) : ∀ t, (own ++ more).head? = some t → t.isMark '.' = false := by
  intro t ht
  cases h with
  | none => exact (hm t ht).2.2
  | bare ha => exact Option.some.inj ht ▸ unmarked_of_nameLike ha '.'
  | marked hw => exact Option.some.inj ht ▸ unmarked_of_isKeyword hw '.'

/-- What is written is read, up to its end. -/
theorem Refers.read {r : TableRef} (h : Refers source own r) (hm : EndsTable more) :
    read source (own ++ more) = some (r, own.length) := by
  cases h with
  | @mk named given schema aliasName name hn ha =>
    rw [TableRef.read, List.append_assoc, hn.read (ha.undotted hm)]
    dsimp only
    rw [List.drop_left, ha.read hm, List.length_append]

theorem readName_none {t : Token} (h : t.isNameLike = false) (more : List Token) :
    readName (t :: more) = none := by
  cases more with
  | nil => simp [readName, h]
  | cons d more => cases more <;> simp [readName, h]

/-- No table is read where its name would have to begin with some other token. -/
theorem read_none {t : Token} (h : t.isNameLike = false) (more : List Token) :
    TableRef.read source (t :: more) = none := by
  rw [TableRef.read, readName_none h]

theorem named_of_readName {schema : Option Text} {name : Text} {n : Nat}
    (h : readName ts = some (schema, name, n)) :
    ∃ own more, ts = own ++ more ∧ own.length = n ∧ NamesTable own schema name := by
  unfold readName at h
  split at h
  · rename_i t d u more
    split at h
    · rename_i ht
      split at h
      · rename_i hd
        simp only [Bool.and_eq_true] at hd
        obtain ⟨rfl, rfl, rfl⟩ :
            some (unquote t.text) = schema ∧ unquote u.text = name ∧ 3 = n := by
          simpa using h
        exact ⟨[t, d, u], more, rfl, rfl, .qualified ht hd.1 hd.2⟩
      · obtain ⟨rfl, rfl, rfl⟩ : none = schema ∧ unquote t.text = name ∧ 1 = n := by simpa using h
        exact ⟨[t], d :: u :: more, rfl, rfl, .plain ht⟩
    · contradiction
  · rename_i t more _
    split at h
    · rename_i ht
      obtain ⟨rfl, rfl, rfl⟩ : none = schema ∧ unquote t.text = name ∧ 1 = n := by simpa using h
      exact ⟨[t], more, rfl, rfl, .plain ht⟩
    · contradiction
  · contradiction

theorem given_of_readAlias (ts : List Token) :
    ∃ own more, ts = own ++ more ∧ own.length = (readAlias ts).2 ∧
      GivesAlias own (readAlias ts).1 := by
  unfold readAlias
  split
  · rename_i t u more
    split
    · rename_i hw
      simp only [Bool.and_eq_true] at hw
      exact ⟨[t, u], more, rfl, rfl, .marked hw.1 hw.2⟩
    · split
      · rename_i ht
        exact ⟨[t], u :: more, rfl, rfl, .bare ht⟩
      · exact ⟨[], t :: u :: more, rfl, rfl, .none⟩
  · rename_i t
    split
    · rename_i ht
      exact ⟨[t], [], rfl, rfl, .bare ht⟩
    · exact ⟨[], [t], rfl, rfl, .none⟩
  · exact ⟨[], [], rfl, rfl, .none⟩

/-- What is read is a reference as it is written. -/
theorem refers_of_read {r : TableRef} {n : Nat} (h : TableRef.read source ts = some (r, n)) :
    ∃ own more, ts = own ++ more ∧ own.length = n ∧ Refers source own r := by
  rw [TableRef.read] at h
  split at h
  · contradiction
  · rename_i schema name n' hname
    obtain ⟨named, rest, rfl, rfl, hn⟩ := named_of_readName hname
    rw [List.drop_left] at h
    obtain ⟨given, more, hrest, hlength, ha⟩ := given_of_readAlias rest
    cases halias : readAlias rest with
    | mk aliasName m =>
      rw [halias] at h hlength ha
      obtain ⟨rfl, rfl⟩ := Prod.mk.inj (Option.some.inj h)
      exact ⟨named ++ given, more, by rw [hrest, List.append_assoc],
        by rw [List.length_append, hlength], .mk hn ha⟩

end

section
variable {t : Token} {own : List Token} {source : TableRef.Source}

theorem introducer_keyword {s : TableRef.Source} (h : introducer? t = some s) :
    ∃ k ∈ [Keyword.FROM, .JOIN, .UPDATE, .INTO], t.isKeyword k = true := by
  unfold introducer? at h
  split at h
  · rename_i hk
    exact ⟨.FROM, by decide, by simp [Lexeme.isKeyword, hk]⟩
  · rename_i hk
    exact ⟨.JOIN, by decide, by simp [Lexeme.isKeyword, hk]⟩
  · rename_i hk
    exact ⟨.UPDATE, by decide, by simp [Lexeme.isKeyword, hk]⟩
  · rename_i hk
    exact ⟨.INTO, by decide, by simp [Lexeme.isKeyword, hk]⟩
  · contradiction

theorem introducer_none (h : ∀ k ∈ [Keyword.FROM, .JOIN, .UPDATE, .INTO], t.isKeyword k = false) :
    introducer? t = none := by
  cases hi : introducer? t with
  | none => rfl
  | some s =>
    obtain ⟨k, hk, ht⟩ := introducer_keyword hi
    rw [h k hk] at ht
    contradiction

/-- None of the words that introduce a table is read as a name. -/
theorem introducer_nameLike (h : t.isNameLike = true) : introducer? t = none :=
  introducer_none fun k hk => not_keyword_of_nameLike h (by revert k; decide)

theorem introducer_other {k : Keyword} (h : t.isKeyword k = true)
    (hk : k ∉ [Keyword.FROM, .JOIN, .UPDATE, .INTO]) : introducer? t = none :=
  introducer_none fun _ hj => isKeyword_unique h fun he => hk (he ▸ hj)

theorem introducer_mark {c : Char} (h : t.isMark c = true) : introducer? t = none :=
  introducer_none fun k _ => not_keyword_of_mark h k

/-- A token that lists of names are written with. -/
inductive Listing (t : Token) : Prop
  | name (h : t.isNameLike = true)
  | as (h : t.isKeyword .AS = true)
  | dot (h : t.isMark '.' = true)
  | comma (h : t.isMark ',' = true)

theorem Listing.introducer (h : Listing t) : introducer? t = none := by
  cases h with
  | name h => exact introducer_nameLike h
  | as h => exact introducer_other h (by decide)
  | dot h | comma h => exact introducer_mark h

theorem Listing.unmarked (h : Listing t) {c : Char} (hdot : unit '.' ≠ unit c)
    (hcomma : unit ',' ≠ unit c) : t.isMark c = false := by
  cases h with
  | name h => exact unmarked_of_nameLike h c
  | as h => exact unmarked_of_isKeyword h c
  | dot h => exact isMark_unique h hdot
  | comma h => exact isMark_unique h hcomma

theorem NamesTable.listing {schema : Option Text} {name : Text} (h : NamesTable own schema name) :
    ∀ t ∈ own, Listing t := by
  cases h with
  | plain ht => simpa using Listing.name ht
  | qualified hs hd ht => simpa using ⟨Listing.name hs, Listing.dot hd, Listing.name ht⟩

theorem GivesAlias.listing {aliasName : Option Text} (h : GivesAlias own aliasName) :
    ∀ t ∈ own, Listing t := by
  cases h with
  | none => simp
  | bare ha => simpa using Listing.name ha
  | marked hw ha => simpa using ⟨Listing.as hw, Listing.name ha⟩

theorem Refers.listing {r : TableRef} (h : Refers source own r) : ∀ t ∈ own, Listing t := by
  cases h with
  | mk hn ha =>
    intro t ht
    rcases List.mem_append.mp ht with ht | ht
    · exact hn.listing t ht
    · exact ha.listing t ht

theorem Refers.introducer {r : TableRef} (h : Refers source own r) :
    ∀ t ∈ own, introducer? t = none :=
  fun t ht => (h.listing t ht).introducer

theorem Refers.ne_nil {r : TableRef} (h : Refers source own r) : own ≠ [] := by
  cases h with
  | mk hn => cases hn <;> simp

end

theorem read_length {source : TableRef.Source} {ts : List Token} {r : TableRef} {n : Nat}
    (h : read source ts = some (r, n)) : 0 < n ∧ n ≤ ts.length := by
  obtain ⟨own, more, rfl, rfl, hr⟩ := refers_of_read h
  exact ⟨List.length_pos_iff.mpr hr.ne_nil, by simp⟩

/-- The references behind an introducing word, and how many tokens they take: one, and behind FROM
another one behind each comma for as long as a reference follows. -/
def readList (source : TableRef.Source) (ts : List Token) : List TableRef × Nat :=
  match h : read source ts with
  | none => ([], 0)
  | some (r, n) =>
    if continues source (ts.drop n) then
      (r :: (readList source (ts.drop (n + 1))).1, n + 1 + (readList source (ts.drop (n + 1))).2)
    else ([r], n)
termination_by ts.length
decreasing_by
  all_goals
    have hn := read_length h
    rw [List.length_drop]
    omega

/-- The references that a token introduces. -/
def introduced (t : Token) (rest : List Token) : List TableRef :=
  (introducer? t).elim [] (fun source => (readList source rest).1)

/-- The references that are found when each token is looked at in turn. -/
def scan : List Token → List TableRef
  | [] => []
  | t :: rest => introduced t rest ++ scan rest

/-- Where no token introduces a table none is found. -/
theorem scan_skip {ts : List Token} (h : ∀ t ∈ ts, introducer? t = none) (more : List Token) :
    scan (ts ++ more) = scan more := by
  induction ts with
  | nil => rfl
  | cons t ts ih =>
    rw [List.cons_append, scan, introduced, h t List.mem_cons_self,
      ih fun u hu => h u (List.mem_cons_of_mem _ hu)]
    rfl

section
variable {source : TableRef.Source} {ts : List Token}

theorem readList_none (h : read source ts = none) : readList source ts = ([], 0) := by
  rw [readList]
  split
  · rfl
  · rename_i h'
    rw [h] at h'
    contradiction

theorem readList_last {r : TableRef} {n : Nat} (h : read source ts = some (r, n))
    (hc : continues source (ts.drop n) = false) : readList source ts = ([r], n) := by
  rw [readList]
  split
  · rename_i h'
    rw [h] at h'
    contradiction
  · rename_i h'
    obtain ⟨rfl, rfl⟩ := Prod.mk.inj (Option.some.inj (h.symm.trans h'))
    rw [if_neg (by simp [hc])]

theorem readList_more {r : TableRef} {n : Nat} (h : read source ts = some (r, n))
    (hc : continues source (ts.drop n) = true) :
    readList source ts = (r :: (readList source (ts.drop (n + 1))).1,
      n + 1 + (readList source (ts.drop (n + 1))).2) := by
  rw [readList]
  split
  · rename_i h'
    rw [h] at h'
    contradiction
  · rename_i h'
    obtain ⟨rfl, rfl⟩ := Prod.mk.inj (Option.some.inj (h.symm.trans h'))
    rw [if_pos hc]

theorem drop_past (own : List Token) (c : Token) (more : List Token) :
    (own ++ c :: more).drop (own.length + 1) = more := by
  rw [← List.drop_drop, List.drop_left, List.drop_one, List.tail_cons]

/-- Nothing that is taken introduces a table. -/
theorem readList_taken (source : TableRef.Source) (ts : List Token) :
    (readList source ts).2 ≤ ts.length ∧
      ∀ t ∈ ts.take (readList source ts).2, introducer? t = none := by
  induction ts using readList.induct source with
  | case1 ts h => simp [readList_none h]
  | case2 ts r n h hc ih =>
    obtain ⟨own, more, rfl, rfl, hr⟩ := refers_of_read h
    obtain ⟨-, hcomma⟩ := Bool.and_eq_true_iff.mp hc
    rw [List.drop_left] at hcomma
    cases more with
    | nil => contradiction
    | cons c more =>
      rw [drop_past] at ih
      rw [readList_more h hc, drop_past]
      dsimp only
      rw [Nat.add_assoc, List.take_length_add_append, Nat.add_comm 1, List.take_succ_cons]
      refine ⟨by simp; omega, fun t ht => ?_⟩
      rcases List.mem_append.mp ht with ht | ht
      · exact hr.introducer t ht
      · rcases List.mem_cons.mp ht with rfl | ht
        · exact introducer_mark hcomma
        · exact ih.2 t ht
  | case3 ts r n h hc =>
    obtain ⟨own, more, rfl, rfl, hr⟩ := refers_of_read h
    rw [readList_last h (by simpa using hc)]
    simpa using hr.introducer

/-- Where a table is due, the pass reads a list and goes on behind it. -/
theorem collect_due (source : TableRef.Source) (ts : List Token) :
    collect (some source) 0 ts =
      (readList source ts).1 ++ collect none 0 (ts.drop (readList source ts).2) := by
  induction ts using readList.induct source with
  | case1 ts h =>
    rw [readList_none h]
    cases ts with
    | nil => rfl
    | cons t rest =>
      rw [collect, h]
      rfl
  | case2 ts r n h hc ih =>
    cases ts with
    | nil => contradiction
    | cons t rest =>
      rw [readList_more h hc, collect, h]
      dsimp only
      rw [if_pos hc, collect_drop, ← List.drop_succ_cons (a := t), ih, List.drop_drop]
      rfl
  | case3 ts r n h hc =>
    cases ts with
    | nil => contradiction
    | cons t rest =>
      obtain ⟨m, rfl⟩ := Nat.exists_eq_add_of_lt (read_length h).1
      rw [readList_last h (by simpa using hc), collect, h]
      dsimp only
      rw [if_neg hc, collect_drop, Nat.zero_add, Nat.add_sub_cancel, List.drop_succ_cons]
      rfl

end

/-- Each table is found once, behind the word that introduces it. -/
theorem collect_eq_scan (ts : List Token) : collect none 0 ts = scan ts := by
  match ts with
  | [] => rfl
  | t :: rest =>
    rw [collect, scan, introduced]
    cases introducer? t with
    | none => exact collect_eq_scan rest
    | some source =>
      obtain ⟨-, htaken⟩ := readList_taken source rest
      -- the scan finds nothing in what the pass steps over
      have hscan : scan rest = scan (rest.drop (readList source rest).2) := by
        rw [← scan_skip htaken (rest.drop _), List.take_append_drop]
      rw [Option.elim_some, collect_due, hscan, collect_eq_scan (rest.drop _)]
termination_by ts.length
decreasing_by
  all_goals
    simp only [List.length_drop, List.length_cons]
    omega

/-- The tables of a statement are those that its introducing words are followed by, each read on its
own. What is stepped over behind such a word is what was read, and no other such word is in it. -/
theorem tableRefs_eq_scan (s : Statement) :
    s.tableRefs = scan s.significant ∧
      ∀ (source : TableRef.Source) (rest : List Token),
        collect (some source) 0 rest =
            (readList source rest).1 ++ collect none 0 (rest.drop (readList source rest).2) ∧
          (readList source rest).2 ≤ rest.length ∧
          ∀ t ∈ rest.take (readList source rest).2, introducer? t = none :=
  ⟨collect_eq_scan s.significant, fun source rest =>
    ⟨collect_due source rest, readList_taken source rest⟩⟩

end SqlShell.Proofs
