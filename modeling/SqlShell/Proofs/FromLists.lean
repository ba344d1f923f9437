import SqlShell.Proofs.Clauses
import SqlShell.Proofs.TableScan

namespace SqlShell.Proofs
open TableRef (introducer? read readName readAlias continues collect)

/-- A token over which no list of tables goes on. -/
structure Parts (t : Token) : Prop where
  name : t.isNameLike = false
  as : t.isKeyword .AS = false
  dot : t.isMark '.' = false
  comma : t.isMark ',' = false

section
variable {t : Token} {source : TableRef.Source}

theorem Parts.of_mark {c : Char} (h : t.isMark c = true) (hdot : unit c ≠ unit '.')
    (hcomma : unit c ≠ unit ',') : Parts t where
  name := not_nameLike_of_mark h
  as := not_keyword_of_mark h .AS
  dot := isMark_unique h hdot
  comma := isMark_unique h hcomma

theorem Parts.of_from (h : t.isKeyword .FROM = true) : Parts t where
  name := by
    rw [Bool.eq_false_iff]
    intro hn
    rw [not_keyword_of_nameLike hn (by decide)] at h
    contradiction
  as := isKeyword_unique h (by decide)
  dot := unmarked_of_isKeyword h '.'
  comma := unmarked_of_isKeyword h ','

theorem readName_ahead (ht : Parts t) (a b : List Token) : readName (a ++ t :: b) = readName a := by
  match a with
  | [] => exact readName_none ht.name b
  | [x] => cases b <;> simp [readName, ht.dot]
  | [x, y] => simp [readName, ht.name]
  | x :: y :: z :: a => rfl

theorem readAlias_ahead (ht : Parts t) (a b : List Token) :
    readAlias (a ++ t :: b) = readAlias a := by
  match a with
  | [] => cases b <;> simp [readAlias, ht.name, ht.as]
  | [x] => simp [readAlias, ht.name]
  | x :: y :: a => rfl

/-- What is read ahead of such a token does not depend on what stands behind. -/
theorem read_ahead (ht : Parts t) (a b : List Token) :
    read source (a ++ t :: b) = read source a := by
  rw [TableRef.read, TableRef.read, readName_ahead ht]
  cases hname : readName a with
  | none => rfl
  | some found =>
    obtain ⟨schema, name, n⟩ := found
    obtain ⟨own, more, rfl, rfl, -⟩ := named_of_readName hname
    dsimp only
    rw [List.append_assoc, List.drop_left, List.drop_left, readAlias_ahead ht]

theorem readList_ahead (ht : Parts t) (a b : List Token) :
    (readList source (a ++ t :: b)).1 = (readList source a).1 := by
  induction a using readList.induct source with
  | case1 a h =>
    have h' : read source (a ++ t :: b) = none := by rw [read_ahead ht, h]
    rw [readList_none h, readList_none h']
  | case2 a r n h hc ih =>
    have h' : read source (a ++ t :: b) = some (r, n) := by rw [read_ahead ht, h]
    obtain ⟨own, more, rfl, rfl, hr⟩ := refers_of_read h
    rw [List.drop_left] at hc
    cases more with
    | nil => simp [continues] at hc
    | cons c more =>
      rw [drop_past] at ih
      rw [readList_more h (by rwa [List.drop_left]), drop_past]
      rw [List.append_assoc, List.cons_append] at h' ⊢
      rw [readList_more h' (by rwa [List.drop_left]), drop_past, ih]
  | case3 a r n h hc =>
    have h' : read source (a ++ t :: b) = some (r, n) := by rw [read_ahead ht, h]
    obtain ⟨own, more, rfl, rfl, hr⟩ := refers_of_read h
    rw [Bool.not_eq_true] at hc
    -- a list that goes on to the end of its part does not go on over `t`
    have hc' : continues source ((own ++ more ++ t :: b).drop own.length) = false := by
      rw [List.drop_left] at hc
      rw [List.append_assoc, List.drop_left]
      cases more with
      | nil => simp [continues, ht.comma]
      | cons c more => exact hc
    rw [readList_last h hc, readList_last h' hc']

/-- The two parts of a text are read as if each stood alone. -/
theorem scan_parted (ht : Parts t) (a b : List Token) :
    scan (a ++ t :: b) = scan a ++ scan (t :: b) := by
  induction a with
  | nil => rfl
  | cons x a ih =>
    have hx : introduced x (a ++ t :: b) = introduced x a := by
      rw [introduced, introduced]
      cases introducer? x with
      | none => rfl
      | some source => exact readList_ahead ht a b
    rw [List.cons_append, scan, ih, hx]
    exact (List.append_assoc _ _ _).symm

end

/-- A source of a list behind FROM: a table, or a group in parentheses that may have an alias. -/
inductive FromSource where
  | table (own : List Token) (ref : TableRef) (h : Refers .fromClause own ref)
  | group (o : Token) (inner : List Token) (c : Token) (given : List Token)
      (aliasName : Option Text) (ho : o.isMark '(' = true) (hin : Closed inner.reverse)
      (hc : c.isMark ')' = true) (ha : GivesAlias given aliasName)

namespace FromSource

def tokens : FromSource → List Token
  | .table own _ _ => own
  | .group o inner c given _ _ _ _ _ => o :: (inner ++ c :: given)

def isTable : FromSource → Bool
  | .table _ _ _ => true
  | .group _ _ _ _ _ _ _ _ _ => false

/-- The table that the source is. -/
def named : FromSource → List TableRef
  | .table _ ref _ => [ref]
  | .group _ _ _ _ _ _ _ _ _ => []

/-- The tables referred to inside of it. -/
def inside : FromSource → List TableRef
  | .table _ _ _ => []
  | .group _ inner _ _ _ _ _ _ _ => collect none 0 inner

/-- All tables that the source refers to. -/
def refs (i : FromSource) : List TableRef := i.named ++ i.inside

end FromSource

/-- Sources with a comma between each two. -/
inductive SourceList : List Token → List FromSource → Prop
  | one (i : FromSource) : SourceList i.tokens [i]
  | cons (i : FromSource) {c : Token} {ts : List Token} {items : List FromSource}
      (hc : c.isMark ',' = true) (h : SourceList ts items) :
      SourceList (i.tokens ++ c :: ts) (i :: items)

/-- No list goes on at the front of these tokens. -/
def EndsList (after : List Token) : Prop := ∀ t, after.head? = some t → Parts t

theorem scan_ended {after : List Token} (h : EndsList after) (a : List Token) :
    scan (a ++ after) = scan a ++ scan after := by
  cases after with
  | nil => simp [scan]
  | cons t after => exact scan_parted (h t rfl) a after

/-- Of a source, only what stands inside of a group introduces tables. -/
theorem scan_source (i : FromSource) (more : List Token) :
    scan (i.tokens ++ more) = i.inside ++ scan more := by
  cases i with
  | table own ref h => exact scan_skip h.introducer more
  | group o inner c given aliasName ho hin hc ha =>
    have hparts : Parts c := .of_mark hc (by decide) (by decide)
    have hopen : ∀ t ∈ [o], introducer? t = none := by simpa using introducer_mark ho
    have hclose : ∀ t ∈ c :: given, introducer? t = none := by
      simpa using ⟨introducer_mark hc, fun t ht => (ha.listing t ht).introducer⟩
    calc scan (o :: (inner ++ c :: given) ++ more)
        = scan ([o] ++ (inner ++ c :: (given ++ more))) := by simp
      _ = scan inner ++ scan ((c :: given) ++ more) := by
          rw [scan_skip hopen, scan_parted hparts, List.cons_append]
      _ = collect none 0 inner ++ scan more := by rw [scan_skip hclose, collect_eq_scan]

theorem scan_sources {ts : List Token} {items : List FromSource} (h : SourceList ts items) :
    scan ts = items.flatMap FromSource.inside := by
  induction h with
  | one i =>
    rw [← List.append_nil i.tokens, scan_source, List.flatMap_singleton]
    exact List.append_nil _
  | @cons i c ts items hc _ ih =>
    have hskip : ∀ t ∈ [c], introducer? t = none := by simpa using introducer_mark hc
    rw [scan_source, ← List.singleton_append, scan_skip hskip, ih, List.flatMap_cons]

/-- The tables of a list are read up to the first group. -/
theorem readList_sources {ts : List Token} {items : List FromSource} (h : SourceList ts items) :
    (readList .fromClause ts).1 =
      (items.takeWhile FromSource.isTable).flatMap FromSource.named := by
  induction h with
  | one i =>
    cases i with
    | table own ref h =>
      have hread : read .fromClause own = some (ref, own.length) := by
        have hends : EndsTable [] := fun t ht => by contradiction
        simpa using h.read hends
      exact congrArg Prod.fst (readList_last hread (by simp [continues]))
    | group o inner c given aliasName ho hin hc ha =>
      exact congrArg Prod.fst (readList_none (read_none (not_nameLike_of_mark ho) _))
  | @cons i c ts items hc _ ih =>
    cases i with
    | table own ref h =>
      have hread : read .fromClause (own ++ c :: ts) = some (ref, own.length) :=
        h.read (endsTable_mark hc (by decide) ts)
      rw [FromSource.tokens, readList_more hread (by simp [continues, hc]), drop_past, ih]
      rfl
    | group o inner c' given aliasName ho hin hc' ha =>
      exact congrArg Prod.fst (readList_none (read_none (not_nameLike_of_mark ho) _))

theorem length_refs (items : List FromSource) :
    (items.flatMap FromSource.refs).length =
      (items.flatMap FromSource.inside).length + items.countP FromSource.isTable := by
  induction items with
  | nil => rfl
  | cons i items ih =>
    have hnamed : i.named.length = if i.isTable then 1 else 0 := by cases i <;> rfl
    rw [List.flatMap_cons, List.flatMap_cons, List.length_append, List.length_append, ih,
      FromSource.refs, List.length_append, hnamed, List.countP_cons]
    omega

theorem inside_iff (items : List FromSource) :
    items.flatMap FromSource.inside = items.flatMap FromSource.refs ↔
      ∀ i ∈ items, i.isTable = false := by
  constructor
  · intro h
    have hlength := congrArg List.length h
    rw [length_refs, Nat.left_eq_add, List.countP_eq_zero] at hlength
    simpa using hlength
  · intro h
    have hsame : ∀ i ∈ items, i.inside = i.refs := by
      intro i hi
      have hi := h i hi
      cases i with
      | table => contradiction
      | group => rfl
    rw [List.flatMap_def, List.flatMap_def, List.map_congr_left hsame]

theorem found_iff (items : List FromSource) :
    (items.takeWhile FromSource.isTable).flatMap FromSource.named ++
        items.flatMap FromSource.inside = items.flatMap FromSource.refs ↔
      ∀ i ∈ items.dropWhile FromSource.isTable, i.isTable = false := by
  induction items with
  | nil => simp
  | cons i items ih =>
    cases hi : i.isTable with
    | true =>
      have hinside : i.inside = [] := by cases i <;> first | rfl | contradiction
      rw [List.takeWhile_cons_of_pos hi, List.dropWhile_cons_of_pos hi, ← ih]
      simp [FromSource.refs, hinside]
    | false =>
      -- from the first group on only insides are found
      rw [List.takeWhile_cons_of_neg (by simp [hi]), List.dropWhile_cons_of_neg (by simp [hi])]
      exact inside_iff (i :: items)

/-- Of the tables in a list behind FROM those in front of the first group are referred to, and what
the groups refer to. It is all of the list exactly if no table stands behind a group. -/
theorem listed_sources_iff {s : Statement} {before ts after : List Token} {f : Token}
    {items : List FromSource} (hs : s.significant = before ++ f :: (ts ++ after))
    (hf : f.isKeyword .FROM = true) (hl : SourceList ts items) (ha : EndsList after) :
    s.tableRefs = collect none 0 before ++
        ((items.takeWhile FromSource.isTable).flatMap FromSource.named ++
          items.flatMap FromSource.inside) ++ collect none 0 after ∧
      (s.tableRefs = collect none 0 before ++ items.flatMap FromSource.refs ++
          collect none 0 after ↔
        ∀ i ∈ items.dropWhile FromSource.isTable, i.isTable = false) := by
  have hfrom : introducer? f = some .fromClause := by
    rw [introducer?, Lexeme.keyword?, keyword_iff.mp hf]
  have hlist : scan (f :: ts) =
      (items.takeWhile FromSource.isTable).flatMap FromSource.named ++
        items.flatMap FromSource.inside := by
    rw [scan, introduced, hfrom, Option.elim_some, readList_sources hl, scan_sources hl]
  have hall : s.tableRefs = collect none 0 before ++
      ((items.takeWhile FromSource.isTable).flatMap FromSource.named ++
        items.flatMap FromSource.inside) ++ collect none 0 after := by
    rw [Statement.tableRefs, hs, collect_eq_scan, scan_parted (.of_from hf),
      ← List.cons_append, scan_ended ha, hlist, collect_eq_scan, collect_eq_scan,
      ← List.append_assoc]
  refine ⟨hall, ?_⟩
  rw [hall, List.append_left_inj, List.append_right_inj]
  exact found_iff items

/-- A group at the end of the list hides nothing. -/
theorem group_behind_table :
    let sql : Text := "SELECT * FROM a, (SELECT * FROM b) x WHERE 1"
    let s : Statement := ⟨0, tokenize sql, false⟩
    statements sql = [s] ∧
      s.tableRefs = [⟨"a", none, none, .fromClause⟩, ⟨"b", none, none, .fromClause⟩] := by
  intro sql s
  let before : List Token := [⟨⟨.keyword .SELECT, "SELECT"⟩, 0⟩, ⟨⟨.punctuation, "*"⟩, 7⟩]
  let f : Token := ⟨⟨.keyword .FROM, "FROM"⟩, 9⟩
  let a : Token := ⟨⟨.identifier, "a"⟩, 14⟩
  let comma : Token := ⟨⟨.punctuation, ","⟩, 15⟩
  let o : Token := ⟨⟨.punctuation, "("⟩, 17⟩
  let inner : List Token := [⟨⟨.keyword .SELECT, "SELECT"⟩, 18⟩, ⟨⟨.punctuation, "*"⟩, 25⟩,
    ⟨⟨.keyword .FROM, "FROM"⟩, 27⟩, ⟨⟨.identifier, "b"⟩, 32⟩]
  let c : Token := ⟨⟨.punctuation, ")"⟩, 33⟩
  let x : Token := ⟨⟨.identifier, "x"⟩, 35⟩
  let after : List Token := [⟨⟨.keyword .WHERE, "WHERE"⟩, 37⟩, ⟨⟨.number, "1"⟩, 43⟩]
  let first : FromSource := .table [a] _ (.of_name rfl)
  let second : FromSource := .group o inner c [x] _ rfl
    (.token rfl rfl (.token rfl rfl (.token rfl rfl (.token rfl rfl .nil)))) rfl (.bare rfl)
  have htext : statements sql = [s] ∧ s.significant =
      before ++ f :: ([a] ++ comma :: (o :: (inner ++ c :: [x])) ++ after) := by decide +kernel
  have hs : s.significant = before ++ f :: (first.tokens ++ comma :: second.tokens ++ after) :=
    htext.2
  have hl : SourceList (first.tokens ++ comma :: second.tokens) [first, second] :=
    .cons first rfl (.one second)
  have ha : EndsList after := by
    intro t ht
    obtain rfl := Option.some.inj ht
    exact ⟨by decide, by decide, by decide, by decide⟩
  have hgroup : ∀ i ∈ [first, second].dropWhile FromSource.isTable, i.isTable = false := by
    intro i hi
    obtain rfl := List.mem_singleton.mp hi
    rfl
  refine ⟨htext.1, ?_⟩
  rw [(listed_sources_iff hs rfl hl ha).2.mpr hgroup]
  decide +kernel

/-- Behind a group a table is lost. -/
theorem table_behind_group :
    let sql : Text := "SELECT * FROM (SELECT 1) x, users u"
    let s : Statement := ⟨0, tokenize sql, false⟩
    let users : TableRef := ⟨"users", none, some "u", .fromClause⟩
    statements sql = [s] ∧ s.tableRefs = [] ∧
      ∃ before f ts items, s.significant = before ++ f :: ts ∧ f.isKeyword .FROM = true ∧
        SourceList ts items ∧ items.flatMap FromSource.named = [users] := by
  intro sql s users
  let before : List Token := [⟨⟨.keyword .SELECT, "SELECT"⟩, 0⟩, ⟨⟨.punctuation, "*"⟩, 7⟩]
  let f : Token := ⟨⟨.keyword .FROM, "FROM"⟩, 9⟩
  let o : Token := ⟨⟨.punctuation, "("⟩, 14⟩
  let inner : List Token := [⟨⟨.keyword .SELECT, "SELECT"⟩, 15⟩, ⟨⟨.number, "1"⟩, 22⟩]
  let c : Token := ⟨⟨.punctuation, ")"⟩, 23⟩
  let x : Token := ⟨⟨.identifier, "x"⟩, 25⟩
  let comma : Token := ⟨⟨.punctuation, ","⟩, 26⟩
  let name : Token := ⟨⟨.identifier, "users"⟩, 28⟩
  let given : Token := ⟨⟨.identifier, "u"⟩, 34⟩
  let first : FromSource := .group o inner c [x] _ rfl (.token rfl rfl (.token rfl rfl .nil)) rfl
    (.bare rfl)
  let second : FromSource := .table [name, given] users (.mk (.plain rfl) (.bare rfl))
  have htext : statements sql = [s] ∧ s.tableRefs = [] ∧ s.significant =
      before ++ f :: (o :: (inner ++ c :: [x]) ++ comma :: [name, given]) := by decide +kernel
  exact ⟨htext.1, htext.2.1, before, f, first.tokens ++ comma :: second.tokens, [first, second],
    htext.2.2, rfl, .cons first rfl (.one second), rfl⟩

end SqlShell.Proofs
