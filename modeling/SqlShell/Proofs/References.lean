import SqlShell.Proofs.Naming
import SqlShell.Proofs.Scope
import SqlShell.Proofs.Spacing

namespace SqlShell.Proofs
open Lexeme

def significantLexemes (t : Text) : List Lexeme := (lexemes t).filter (·.isSignificant)

theorem significantLexemes_cons {t more : Text} {l : Lexeme} (h : lexemes t = l :: lexemes more) :
    significantLexemes t =
      if l.isSignificant then l :: significantLexemes more else significantLexemes more := by
  rw [significantLexemes, h, List.filter_cons]
  rfl

/-- No blank goes on at the front of this text. -/
def EndsBlank (more : Text) : Prop := ∀ v, more.head? = some v → v.isBlank = false

theorem endsBlank_cons {u : CodeUnit} (hu : u.isBlank = false) (more : Text) :
    EndsBlank (u :: more) := by
  intro v hv
  obtain rfl := Option.some.inj hv
  exact hu

theorem lexemes_blank {more : Text} (hm : EndsBlank more) :
    lexemes (unit ' ' :: more) = ⟨.whitespace, [unit ' ']⟩ :: lexemes more := by
  have hstop : more.takeWhile CodeUnit.isBlank = [] := by
    cases more with
    | nil => rfl
    | cons v more => rw [List.takeWhile_cons, hm v rfl]; rfl
  have hfront : front (unit ' ') more = (.whitespace, 0) := by
    have ho (next : Option CodeUnit) : Opening.of (unit ' ') next = .blanks := by
      rw [Opening.of, if_pos (by decide)]
    rw [front_eq, ho, Opening.read, hstop]
    rfl
  rw [lexemes_cons, firstLexeme, hfront]
  rfl

/-- A mark that no operator of several units begins with. -/
theorem lexemes_mark {u : CodeUnit} {more : Text} (ho : Opening.of u more.head? = .operator)
    (hl : ∀ op ∈ longOperators, op.head? ≠ some u) :
    lexemes (u :: more) = ⟨.punctuation, [u]⟩ :: lexemes more := by
  have hshort : longOperators.find? (·.isPrefixOf (u :: more)) = none := by
    rw [List.find?_eq_none]
    intro op hop hprefix
    have hhead := hl op hop
    cases op with
    | nil => exact absurd hop (by decide)
    | cons v op =>
      simp only [List.isPrefixOf, Bool.and_eq_true, beq_iff_eq] at hprefix
      exact hhead (congrArg some hprefix.1)
  have hfront : front u more = (.punctuation, 0) := by
    rw [front_eq, ho, Opening.read, operatorRun, hshort]
    rfl
  rw [lexemes_cons, firstLexeme, hfront]
  rfl

/-- A table in the list behind FROM. -/
structure ListedTable where
  name : Text
  schema : Option Text
  aliasName : Option Text
  /-- Whether AS stands before the alias. -/
  marked : Bool
  deriving DecidableEq, Repr

namespace ListedTable

def text (i : ListedTable) : Text :=
  i.schema.elim [] (fun s => escapeName s ++ [unit '.']) ++ escapeName i.name ++
    i.aliasName.elim [] (fun a => (if i.marked then " AS " else " " : Text) ++ escapeName a)

/-- The reference that is read from it. -/
def ref (i : ListedTable) : TableRef := ⟨i.name, i.schema, i.aliasName, .fromClause⟩

end ListedTable

/-- A query of these tables. -/
def queryOf (items : List ListedTable) : Text :=
  ("SELECT * FROM " : Text) ++ Text.join ", " (items.map ListedTable.text)

theorem queryOf_cons (i : ListedTable) (items : List ListedTable) :
    queryOf (i :: items) = Text.ofString "SELECT" ++ unit ' ' :: unit '*' :: unit ' ' ::
      (Text.ofString "FROM" ++ unit ' ' ::
        (i.text ++ items.flatMap (fun j => unit ',' :: unit ' ' :: j.text))) := by
  have hjoin : Text.join ", " ((i :: items).map ListedTable.text) =
      i.text ++ items.flatMap (fun j => unit ',' :: unit ' ' :: j.text) := by
    induction items generalizing i with
    | nil => simp [Text.join]
    | cons j items ih =>
      have htail := ih j
      simp only [Text.join, List.map_cons, List.intercalate_cons_cons] at htail ⊢
      have hseparator : Text.ofString ", " = [unit ',', unit ' '] := rfl
      rw [htail, hseparator]
      simp
  rw [queryOf, hjoin]
  rfl

def comma : Lexeme := ⟨.punctuation, [unit ',']⟩

def dot : Lexeme := ⟨.punctuation, [unit '.']⟩

def asWord : Lexeme := ⟨.keyword .AS, "AS"⟩

namespace ListedTable

def nameLexemes (i : ListedTable) : List Lexeme :=
  i.schema.elim [] (fun s => [nameLexeme s, dot]) ++ [nameLexeme i.name]

def aliasLexemes (i : ListedTable) : List Lexeme :=
  i.aliasName.elim [] (fun a => if i.marked then [asWord, nameLexeme a] else [nameLexeme a])

def lexemes (i : ListedTable) : List Lexeme := i.nameLexemes ++ i.aliasLexemes

end ListedTable

theorem endsWord_blank (more : Text) : EndsWord (unit ' ' :: more) :=
  endsWord_cons (by decide) more

theorem significant_name (name : Text) {more : Text} (hm : EndsWord more) :
    significantLexemes (escapeName name ++ more) = nameLexeme name :: significantLexemes more := by
  have hname : (nameLexeme name).isSignificant = true := by
    rw [nameLexeme]
    split
    · rfl
    · rfl
  rw [significantLexemes_cons (lexemes_escapeName name hm), if_pos hname]

theorem significant_keyword (k : Keyword) {word more : Text} (hw : IsBareWord word)
    (hk : wordKind word = .keyword k) (hm : EndsWord more) :
    significantLexemes (word ++ more) = ⟨.keyword k, word⟩ :: significantLexemes more := by
  rw [significantLexemes_cons (lexemes_word hw hm), hk]
  rfl

theorem significant_blank {more : Text} (hm : EndsBlank more) :
    significantLexemes (unit ' ' :: more) = significantLexemes more := by
  rw [significantLexemes_cons (lexemes_blank hm)]
  rfl

theorem significant_mark {u : CodeUnit} {more : Text} (ho : Opening.of u more.head? = .operator)
    (hl : ∀ op ∈ longOperators, op.head? ≠ some u) :
    significantLexemes (u :: more) = ⟨.punctuation, [u]⟩ :: significantLexemes more := by
  rw [significantLexemes_cons (lexemes_mark ho hl)]
  rfl

theorem significant_dot {more : Text} (hm : ∀ v, more.head? = some v → v.isDigit = false) :
    significantLexemes (unit '.' :: more) = dot :: significantLexemes more := by
  have ho : Opening.of (unit '.') more.head? = .operator := by
    have hu : (unit '.').isBlank = false ∧ unit '.' ≠ unit '-' ∧ unit '.' ≠ unit '/' ∧
        unit '.' ≠ unit '\x27' ∧ unit '.' ≠ unit 'x' ∧ unit '.' ≠ unit 'X' ∧
        closingQuote? (unit '.') = none ∧ (unit '.').isDigit = false ∧
        isWordStart (unit '.') = false := by decide +kernel
    have hnext : more.head?.any CodeUnit.isDigit = false := by
      cases hh : more.head? with
      | none => rfl
      | some v => exact hm v hh
    simp [Opening.of, hu, hnext]
  exact significant_mark ho (by decide)

theorem significant_schema (i : ListedTable) {more : Text} :
    significantLexemes (i.schema.elim [] (fun s => escapeName s ++ [unit '.']) ++
        (escapeName i.name ++ more)) =
      i.schema.elim [] (fun s => [nameLexeme s, dot]) ++
        significantLexemes (escapeName i.name ++ more) := by
  cases i.schema with
  | none => rfl
  | some s =>
    rw [Option.elim_some, Option.elim_some, List.append_assoc, List.singleton_append,
      significant_name s (endsWord_cons (by decide) _),
      significant_dot fun v hv => (not_blank_or_digit_of_name hv).2]
    rfl

theorem significant_alias (i : ListedTable) {more : Text} (hm : EndsWord more) :
    significantLexemes (i.aliasName.elim []
        (fun a => (if i.marked then " AS " else " " : Text) ++ escapeName a) ++ more) =
      i.aliasLexemes ++ significantLexemes more := by
  have hname (a : Text) : EndsBlank (escapeName a ++ more) := fun _ hv =>
    (not_blank_or_digit_of_name hv).1
  rw [ListedTable.aliasLexemes]
  cases i.aliasName with
  | none => rfl
  | some a =>
    have has (more : Text) : EndsBlank (Text.ofString "AS" ++ more) :=
      endsBlank_cons (u := unit 'A') (by decide) _
    cases i.marked with
    | false =>
      calc significantLexemes (unit ' ' :: (escapeName a ++ more))
          = significantLexemes (escapeName a ++ more) := significant_blank (hname a)
        _ = nameLexeme a :: significantLexemes more := significant_name a hm
    | true =>
      calc significantLexemes
            (unit ' ' :: (Text.ofString "AS" ++ unit ' ' :: (escapeName a ++ more)))
          = significantLexemes (Text.ofString "AS" ++ unit ' ' :: (escapeName a ++ more)) :=
            significant_blank (has _)
        _ = asWord :: significantLexemes (unit ' ' :: (escapeName a ++ more)) :=
            significant_keyword .AS (by decide +kernel) (by decide +kernel) (endsWord_blank _)
        _ = asWord :: significantLexemes (escapeName a ++ more) := by
            rw [significant_blank (hname a)]
        _ = asWord :: nameLexeme a :: significantLexemes more := by rw [significant_name a hm]

theorem significant_item (i : ListedTable) {more : Text} (hm : EndsWord more) :
    significantLexemes (i.text ++ more) = i.lexemes ++ significantLexemes more := by
  have hname : EndsWord (i.aliasName.elim []
      (fun a => (if i.marked then " AS " else " " : Text) ++ escapeName a) ++ more) := by
    cases i.aliasName with
    | none => exact hm
    | some a =>
      cases i.marked with
      | false => exact endsWord_blank _
      | true => exact endsWord_blank _
  rw [ListedTable.text, List.append_assoc, List.append_assoc, significant_schema,
    significant_name i.name hname, significant_alias i hm, ListedTable.lexemes,
    ListedTable.nameLexemes]
  simp

theorem endsBlank_item (i : ListedTable) (more : Text) : EndsBlank (i.text ++ more) := by
  intro v hv
  rw [ListedTable.text, List.append_assoc, List.append_assoc] at hv
  cases hs : i.schema with
  | none =>
    rw [hs] at hv
    exact (not_blank_or_digit_of_name hv).1
  | some s =>
    rw [hs, Option.elim_some, List.append_assoc] at hv
    exact (not_blank_or_digit_of_name hv).1

theorem endsWord_list (items : List ListedTable) :
    EndsWord (items.flatMap (fun j => unit ',' :: unit ' ' :: j.text)) := by
  cases items with
  | nil => exact endsWord_nil
  | cons i items => exact endsWord_cons (by decide) _

theorem significant_list (items : List ListedTable) :
    significantLexemes (items.flatMap (fun j => unit ',' :: unit ' ' :: j.text)) =
      items.flatMap (fun j => comma :: j.lexemes) := by
  induction items with
  | nil => rfl
  | cons i items ih =>
    have hcomma (more : Text) : Opening.of (unit ',') (unit ' ' :: more).head? = .operator := by
      rw [List.head?_cons]
      decide
    rw [List.flatMap_cons, List.cons_append, List.cons_append,
      significant_mark (hcomma _) (by decide),
      significant_blank (endsBlank_item i _),
      significant_item i (endsWord_list items), ih]
    rfl

theorem significant_query (i : ListedTable) (items : List ListedTable) :
    significantLexemes (queryOf (i :: items)) =
      [⟨.keyword .SELECT, "SELECT"⟩, ⟨.punctuation, [unit '*']⟩, ⟨.keyword .FROM, "FROM"⟩] ++
        (i.lexemes ++ items.flatMap (fun j => comma :: j.lexemes)) := by
  have hfrom (more : Text) : EndsBlank (Text.ofString "FROM" ++ more) :=
    endsBlank_cons (u := unit 'F') (by decide) _
  have hstar (more : Text) : Opening.of (unit '*') (unit ' ' :: more).head? = .operator := by
    rw [List.head?_cons]
    decide
  rw [queryOf_cons,
    significant_keyword .SELECT (by decide +kernel) (by decide +kernel) (endsWord_blank _),
    significant_blank (endsBlank_cons (by decide) _), significant_mark (hstar _) (by decide),
    significant_blank (hfrom _),
    significant_keyword .FROM (by decide +kernel) (by decide +kernel) (endsWord_blank _),
    significant_blank (endsBlank_item i _),
    significant_item i (endsWord_list items), significant_list]
  rfl

/-- Lexemes at no place in particular. -/
def unplaced (ls : List Lexeme) : List Token := ls.map (⟨·, 0⟩)

theorem collect_drop (due : Option TableRef.Source) (n : Nat) (ts : List Token) :
    TableRef.collect due n ts = TableRef.collect due 0 (ts.drop n) := by
  induction n generalizing ts with
  | zero => rfl
  | succ n ih =>
    cases ts with
    | nil => simp [TableRef.collect]
    | cons t ts => rw [TableRef.collect, ih, List.drop_succ_cons]

theorem read_name (i : ListedTable) {more : List Token}
    (hm : ∀ t, more.head? = some t → t.isMark '.' = false) :
    TableRef.readName (unplaced i.nameLexemes ++ more) =
      some (i.schema, i.name, i.nameLexemes.length) := by
  have hdot : dot.isMark '.' = true := by decide
  rw [ListedTable.nameLexemes]
  cases i.schema with
  | some s => simp [unplaced, TableRef.readName, isNameLike_nameLexeme, hdot, unquote_nameLexeme]
  | none =>
    cases more with
    | nil => simp [unplaced, TableRef.readName, isNameLike_nameLexeme, unquote_nameLexeme]
    | cons t more =>
      cases more with
      | nil => simp [unplaced, TableRef.readName, isNameLike_nameLexeme, unquote_nameLexeme]
      | cons u more =>
        simp [unplaced, TableRef.readName, isNameLike_nameLexeme, unquote_nameLexeme, hm t rfl]

theorem read_alias (i : ListedTable) {more : List Token}
    (hm : ∀ t, more.head? = some t → t.kind = .punctuation) :
    TableRef.readAlias (unplaced i.aliasLexemes ++ more) =
      (i.aliasName, i.aliasLexemes.length) := by
  have hword (name : Text) : (nameLexeme name).isKeyword .AS = false := by
    rw [nameLexeme]
    split
    · rfl
    · rfl
  have has : asWord.isKeyword .AS = true := rfl
  have hmark (t : Token) (ht : t.kind = .punctuation) :
      t.isNameLike = false ∧ t.isKeyword .AS = false := by
    simp [isNameLike, isName, isKeyword, keyword?, ht]
  rw [ListedTable.aliasLexemes]
  cases i.aliasName with
  | none =>
    cases more with
    | nil => rfl
    | cons t more =>
      cases more with
      | nil => simp [unplaced, TableRef.readAlias, hmark t (hm t rfl)]
      | cons u more => simp [unplaced, TableRef.readAlias, hmark t (hm t rfl)]
  | some a =>
    cases i.marked with
    | true => simp [unplaced, TableRef.readAlias, has, isNameLike_nameLexeme, unquote_nameLexeme]
    | false =>
      cases more with
      | nil => simp [unplaced, TableRef.readAlias, isNameLike_nameLexeme, unquote_nameLexeme]
      | cons t more =>
        simp [unplaced, TableRef.readAlias, isNameLike_nameLexeme, hword, unquote_nameLexeme]

/-- What is read is the table as it is written, from its first lexeme to its last. -/
theorem read_item (i : ListedTable) {more : List Token}
    (hm : ∀ t, more.head? = some t → t.toLexeme = comma) :
    TableRef.read .fromClause (unplaced i.lexemes ++ more) = some (i.ref, i.lexemes.length) := by
  have hparts : unplaced i.lexemes ++ more =
      unplaced i.nameLexemes ++ (unplaced i.aliasLexemes ++ more) := by
    rw [ListedTable.lexemes, unplaced, List.map_append, List.append_assoc]
    rfl
  have hbehind : ∀ t, (unplaced i.aliasLexemes ++ more).head? = some t → t.isMark '.' = false := by
    intro t ht
    rw [ListedTable.aliasLexemes] at ht
    cases ha : i.aliasName with
    | none =>
      rw [ha] at ht
      rw [hm t ht]
      decide
    | some a =>
      rw [ha] at ht
      cases hmarked : i.marked with
      | true =>
        rw [hmarked] at ht
        obtain rfl := Option.some.inj ht
        decide
      | false =>
        rw [hmarked] at ht
        obtain rfl := Option.some.inj ht
        exact mark_of_nameLexeme a '.'
  have hlength : (unplaced i.nameLexemes).length = i.nameLexemes.length := List.length_map _
  rw [TableRef.read, hparts, read_name i hbehind]
  dsimp only
  rw [← hlength, List.drop_left, read_alias i fun t ht => by rw [hm t ht]; rfl,
    ListedTable.lexemes, List.length_append, hlength]
  rfl

/-- One reference is read, and with a comma behind it another one is due. -/
theorem collect_read {own more : List Token} {ref : TableRef} (hown : own ≠ [])
    (hread : TableRef.read .fromClause (own ++ more) = some (ref, own.length)) :
    TableRef.collect (some .fromClause) 0 (own ++ more) =
      ref :: if more.head?.any (·.isMark ',') then TableRef.collect (some .fromClause) 0 more.tail
        else TableRef.collect none 0 more := by
  obtain ⟨t, rest, rfl⟩ := List.exists_cons_of_ne_nil hown
  have hpast : (t :: (rest ++ more)).drop (rest.length + 1) = more := by
    rw [List.drop_succ_cons, List.drop_left]
  have hnext : (rest ++ more).drop (rest.length + 1) = more.tail := by
    rw [← List.drop_drop, List.drop_left, List.drop_one]
  rw [List.cons_append, List.length_cons] at hread
  rw [List.cons_append, TableRef.collect, hread]
  dsimp only
  rw [hpast, Nat.add_sub_cancel, collect_drop _ (rest.length + 1), collect_drop _ rest.length,
    hnext, List.drop_left, TableRef.continues]
  split
  · rename_i hc
    rw [if_pos (by simpa using hc)]
  · rename_i hc
    rw [if_neg (by simpa using hc)]

theorem collect_list (i : ListedTable) (items : List ListedTable) :
    TableRef.collect (some .fromClause) 0
        (unplaced (i.lexemes ++ items.flatMap (fun j => comma :: j.lexemes))) =
      (i :: items).map ListedTable.ref := by
  have hown (i : ListedTable) : unplaced i.lexemes ≠ [] := by
    simp [unplaced, ListedTable.lexemes, ListedTable.nameLexemes]
  have hlength (i : ListedTable) : (unplaced i.lexemes).length = i.lexemes.length :=
    List.length_map _
  have hsplit (ls ms : List Lexeme) : unplaced (ls ++ ms) = unplaced ls ++ unplaced ms :=
    List.map_append
  induction items generalizing i with
  | nil =>
    have hread : TableRef.read .fromClause (unplaced i.lexemes ++ unplaced []) =
        some (i.ref, (unplaced i.lexemes).length) := by
      rw [hlength]
      exact read_item i fun t ht => by contradiction
    rw [List.flatMap_nil, hsplit, collect_read (hown i) hread]
    rfl
  | cons j items ih =>
    have hread : TableRef.read .fromClause
        (unplaced i.lexemes ++ unplaced ((j :: items).flatMap (fun j => comma :: j.lexemes))) =
        some (i.ref, (unplaced i.lexemes).length) := by
      rw [hlength]
      exact read_item i fun t ht => by
        obtain rfl := Option.some.inj ht
        rfl
    have hdue : (unplaced ((j :: items).flatMap (fun j => comma :: j.lexemes))).head?.any
        (·.isMark ',') = true := show comma.isMark ',' = true by decide
    rw [hsplit, collect_read (hown i) hread, if_pos hdue]
    exact congrArg (i.ref :: ·) (ih j)

theorem significant_eq (sql : Text) :
    (Token.significant (tokenize sql)).map Token.toLexeme = significantLexemes sql := by
  rw [significantLexemes, ← map_placeFrom 0 (lexemes sql), List.filter_map]
  rfl

theorem tableRefs_query (i : ListedTable) (items : List ListedTable) :
    (⟨0, tokenize (queryOf (i :: items)), false⟩ : Statement).tableRefs =
      (i :: items).map ListedTable.ref := by
  have hplace (ls : List Lexeme) : (unplaced ls).map Token.toLexeme = ls := by
    rw [unplaced, List.map_map]
    exact List.map_id _
  have hlexemes : (Token.significant (tokenize (queryOf (i :: items)))).map Token.toLexeme =
      (unplaced (significantLexemes (queryOf (i :: items)))).map Token.toLexeme := by
    rw [significant_eq, hplace]
  calc TableRef.collect none 0 (Token.significant (tokenize (queryOf (i :: items))))
      = TableRef.collect none 0 (unplaced (significantLexemes (queryOf (i :: items)))) :=
        same_of_moves (collect_move moves_unplace none 0) hlexemes
    _ = TableRef.collect (some .fromClause) 0
          (unplaced (i.lexemes ++ items.flatMap (fun j => comma :: j.lexemes))) := by
        rw [significant_query]
        rfl
    _ = (i :: items).map ListedTable.ref := collect_list i items

theorem mem_item {i : ListedTable} {l : Lexeme} (hl : l ∈ i.lexemes) :
    (∃ name, l = nameLexeme name) ∨ l = dot ∨ l = asWord := by
  simp only [ListedTable.lexemes, ListedTable.nameLexemes, ListedTable.aliasLexemes,
    List.mem_append] at hl
  rcases hl with (hschema | hname) | halias
  · cases hs : i.schema with
    | none => simp [hs] at hschema
    | some s =>
      simp only [hs, Option.elim_some, List.mem_cons, List.not_mem_nil, or_false] at hschema
      rcases hschema with rfl | rfl
      · exact .inl ⟨s, rfl⟩
      · exact .inr (.inl rfl)
  · exact .inl ⟨i.name, List.mem_singleton.mp hname⟩
  · cases ha : i.aliasName with
    | none => simp [ha] at halias
    | some a =>
      rw [ha, Option.elim_some] at halias
      split at halias
      · rcases List.mem_cons.mp halias with rfl | hrest
        · exact .inr (.inr rfl)
        · exact .inl ⟨a, List.mem_singleton.mp hrest⟩
      · exact .inl ⟨a, List.mem_singleton.mp halias⟩

theorem unmarked_item {i : ListedTable} {l : Lexeme} (hl : l ∈ i.lexemes) :
    l.isMark ';' = false := by
  rcases mem_item hl with ⟨name, rfl⟩ | rfl | rfl
  · exact mark_of_nameLexeme name ';'
  · decide
  · decide

/-- No name puts a semicolon into the query, whatever it is. -/
theorem unmarked_query {i : ListedTable} {items : List ListedTable} {l : Lexeme}
    (hl : l ∈ lexemes (queryOf (i :: items))) : l.isMark ';' = false := by
  cases hm : l.isMark ';' with
  | false => rfl
  | true =>
    have hsignificant : l.isSignificant = true := by
      simp only [isMark, isPunctuation, Bool.and_eq_true, beq_iff_eq] at hm
      rw [isSignificant, hm.1]
    have hread : l ∈ significantLexemes (queryOf (i :: items)) :=
      List.mem_filter.mpr ⟨hl, hsignificant⟩
    have hcomma : comma.isMark ';' = false := by decide
    have hfront : ∀ l ∈ ([⟨.keyword .SELECT, "SELECT"⟩, ⟨.punctuation, [unit '*']⟩,
        ⟨.keyword .FROM, "FROM"⟩] : List Lexeme), l.isMark ';' = false := by decide
    rw [significant_query] at hread
    rcases List.mem_append.mp hread with h | h
    · rw [← hm, hfront l h]
    · rcases List.mem_append.mp h with h | h
      · rw [← hm, unmarked_item h]
      · obtain ⟨j, -, h⟩ := List.mem_flatMap.mp h
        rcases List.mem_cons.mp h with rfl | h
        · rw [← hm, hcomma]
        · rw [← hm, unmarked_item h]

theorem statements_query (i : ListedTable) (items : List ListedTable) :
    statements (queryOf (i :: items)) = [⟨0, tokenize (queryOf (i :: items)), false⟩] :=
  statements_unmarked fun _ hl => unmarked_query hl

/-- Of references that some alias is declared in, the last one that declares it is meant. -/
theorem resolve_declared {refs : List TableRef} {q : Text} {r : TableRef} (hr : r ∈ refs)
    (ha : Aliased q r) :
    ∃ before last after, refs = before ++ last :: after ∧ Aliased q last ∧
      (∀ x ∈ after, ¬ Aliased q x) ∧ TableRef.resolve refs q = last := by
  have hmeans := means_resolve refs q
  generalize TableRef.resolve refs q = found at hmeans ⊢
  rcases hmeans with ⟨hs, hlast, hafter⟩ | ⟨hnone, hs, hname, hfirst⟩ | ⟨hnone, hnames⟩
  · exact ⟨_, _, _, hs, hlast, hafter, rfl⟩
  · exact absurd ha (hnone r hr)
  · exact absurd ha (hnone r hr)

/-- A query of listed tables is one statement that refers to just these tables, and each alias
means the last table that declares it, in any letter case. -/
theorem listed_tables_are_read (items : List ListedTable) (hne : items ≠ []) :
    ∃ s, statements (queryOf items) = [s] ∧ s.tableRefs = items.map ListedTable.ref ∧
      ∀ item ∈ items, ∀ a, item.aliasName = some a → ∀ q : Text, q.lower = a.lower →
        ∃ before last after, items = before ++ last :: after ∧ Aliased q last.ref ∧
          (∀ x ∈ after, ¬ Aliased q x.ref) ∧ TableRef.resolve s.tableRefs q = last.ref := by
  obtain ⟨i, rest, rfl⟩ := List.exists_cons_of_ne_nil hne
  refine ⟨_, statements_query i rest, tableRefs_query i rest, ?_⟩
  intro item hitem a ha q hq
  obtain ⟨before, last, after, hs, hlast, hafter, hr⟩ :=
    resolve_declared (List.mem_map_of_mem hitem) (q := q) (r := item.ref) ⟨a, ha, hq.symm⟩
  obtain ⟨before, more, hitems, rfl, hmore⟩ := List.map_eq_append_iff.mp hs
  obtain ⟨last, after, rfl, rfl, rfl⟩ := List.map_eq_cons_iff.mp hmore
  rw [tableRefs_query]
  exact ⟨before, last, after, hitems, hlast,
    fun x hx => hafter x.ref (List.mem_map_of_mem hx), hr⟩

/-- Both tables have the alias, with AS and without. -/
theorem two_tables_of_one_alias :
    let first : ListedTable := ⟨"order items", some "main", some "x", true⟩
    let second : ListedTable := ⟨"select", none, some "X", false⟩
    queryOf [first, second] =
      "SELECT * FROM main.\x22order items\x22 AS x, \x22select\x22 X" ∧
    ∃ s, statements (queryOf [first, second]) = [s] ∧
      s.tableRefs = [first, second].map ListedTable.ref ∧
      ∃ before last after, [first, second] = before ++ last :: after ∧ Aliased "x" last.ref ∧
        (∀ x ∈ after, ¬ Aliased "x" x.ref) ∧ TableRef.resolve s.tableRefs "x" = last.ref := by
  intro first second
  obtain ⟨s, hs, hrefs, halias⟩ := listed_tables_are_read [first, second] (List.cons_ne_nil _ _)
  exact ⟨by decide +kernel, s, hs, hrefs,
    halias second (by decide) "X" rfl "x" (by decide +kernel)⟩

end SqlShell.Proofs
