import SqlShell.Proofs.Cursors
import SqlShell.Proofs.Trimming

namespace SqlShell.Proofs

theorem ofWord_within (s : Statement) (t : Token) (cursor cursor' : Int) :
    Context.ofWord s (some t) cursor =
      { Context.ofWord s (some t) cursor' with word := Context.partialWord (some t) cursor } := by
  have hstart : (Context.partialWord (some t) cursor').start =
      (Context.partialWord (some t) cursor).start := rfl
  simp only [Context.ofWord, hstart, Option.elim_some]
  generalize (s.significant.filter
    (fun u => (u.stop : Int) ≤ (Context.partialWord (some t) cursor).start)).reverse = before
  cases Context.qualifier? (Context.partialWord (some t) cursor).start before with
  | none => rfl
  | some found => rfl

theorem not_literal_of_word {l : Lexeme} (h : l.isWord = true) : l.isLiteralOrComment = false := by
  obtain ⟨kind, text⟩ := l
  cases kind with
  | identifier | keyword | quotedIdentifier => rfl
  | _ => exact Bool.noConfusion h

theorem not_semicolon_of_word {l : Lexeme} (h : l.isWord = true) : l.isMark ';' = false := by
  refine not_mark_of_kind fun hk => ?_
  simp [Lexeme.isWord, hk] at h

theorem ofSql_word {s : Statement} {t : Token} {cursor : Int}
    (hat : Token.atCursor? s.tokens cursor = some t) (hw : t.isWord = true) :
    Context.ofSql s cursor = Context.ofWord s (some t) cursor := by
  have hout : Token.isInsideLiteral s.tokens cursor = false := by
    rw [Token.isInsideLiteral, hat]
    simp only [not_literal_of_word hw, Bool.false_and]
  rw [Context.ofSql, hout, hat, Option.filter_some, hw]
  rfl

/-- At all cursors in a word and at its end the statement is the same, and so is all that is told
of the place but how much of the word is typed. -/
theorem same_offer_within_word {sql : Text} {t : Token} (ht : t ∈ tokenize sql)
    (hw : t.isWord = true) :
    ∃ s ∈ statements sql, ∃ context : Context, ∀ cursor : Int,
      t.start < cursor → cursor ≤ t.stop → statementAt sql cursor = s ∧
        classify s cursor .empty = { context with
          word := ⟨unquote (t.text.take (cursor - t.start).toNat), t.start, cursor⟩ } := by
  obtain ⟨s, hs, hts⟩ := statement_of_token ht (not_semicolon_of_word hw)
  refine ⟨s, hs, Context.ofWord s (some t) t.stop, fun cursor hlow hhigh => ?_⟩
  refine ⟨statementAt_token hs hts hlow hhigh, ?_⟩
  rw [classify_empty, ofSql_word ((ordered_statement hs).atCursor hts hlow hhigh) hw]
  exact ofWord_within s t cursor t.stop

/-- Behind a point, in a name that is still open. -/
theorem same_offer_within_open_name :
    let sql : Text := "SELECT 1; SELECT t.\"a b"
    let t : Token := ⟨⟨.quotedIdentifier false, "\"a b"⟩, 19⟩
    t ∈ tokenize sql ∧ t.isWord = true ∧
      ∃ s ∈ statements sql, ∃ context : Context, ∀ cursor : Int,
        t.start < cursor → cursor ≤ t.stop → statementAt sql cursor = s ∧
          classify s cursor .empty = { context with
            word := ⟨unquote (t.text.take (cursor - t.start).toNat), t.start, cursor⟩ } :=
  have ht : (⟨⟨.quotedIdentifier false, "\"a b"⟩, 19⟩ : Token) ∈
      tokenize "SELECT 1; SELECT t.\"a b" := by decide +kernel
  ⟨ht, rfl, same_offer_within_word ht rfl⟩

/-- What a stretch ends with is the stretch of that length before its end. -/
theorem extract_ends {sql lead word : Text} {i k : Nat} (h : sql.extract i k = lead ++ word)
    (hi : i ≤ k) (hk : k ≤ sql.length) :
    i + lead.length + word.length = k ∧ sql.extract i (k - word.length) = lead ∧
      sql.extract (k - word.length) k = word := by
  rw [List.extract_eq_take_drop] at h
  have hlength := congrArg List.length h
  rw [List.length_take, List.length_drop, List.length_append] at hlength
  have hfront : k - word.length - i = lead.length := by omega
  have hcut : k - word.length = i + lead.length := by omega
  have hback : k - (i + lead.length) = (k - i) - lead.length := by omega
  refine ⟨by omega, ?_, ?_⟩
  · have htake := congrArg (List.take lead.length) h
    rwa [List.take_take, Nat.min_eq_left (by omega), List.take_left, ← hfront] at htake
  · have hdrop := congrArg (List.drop lead.length) h
    rwa [List.drop_left, List.drop_take, List.drop_drop, ← hback, ← hcut] at hdrop

theorem take_extract {sql : Text} {i j k : Nat} (hj : j ≤ k) :
    (sql.extract i k).take (j - i) = sql.extract i j := by
  rw [List.extract_eq_take_drop, List.extract_eq_take_drop, List.take_take,
    Nat.min_eq_left (by omega)]

theorem extract_self (sql : Text) (i : Nat) : sql.extract i i = [] := by
  rw [List.extract_eq_take_drop, Nat.sub_self, List.take_zero]

/-- What a statement holds before a cursor in it. -/
theorem before_cursor {sql : Text} {s : Statement} {cursor : Nat} (hs : s ∈ statements sql)
    (hc : Holds s cursor) :
    Text.firstItems ((cursor : Int) - s.start) s.text = sql.extract s.start cursor := by
  have hlow : s.start ≤ cursor := Int.ofNat_le.mp hc.begun
  have hhigh : cursor ≤ s.stop := Int.ofNat_le.mp hc.reached
  rw [show (cursor : Int) - s.start = Int.ofNat (cursor - s.start) from (Int.ofNat_sub hlow).symm,
    text_eq_extract hs]
  exact take_extract hhigh

/-- A name typed up to the cursor: the part before the cursor of the only token there, which is a
word of the statement; or nothing. -/
structure TypedName (sql : Text) (s : Statement) (cursor : Nat) (w : PartialWord) : Prop where
  text : w.text = unquote (sql.extract w.start.toNat cursor)
  token : w.start < cursor → ∃ t ∈ s.tokens, t.isWord = true ∧ (t.start : Int) = w.start ∧
    cursor ≤ t.stop ∧ ∀ u ∈ tokenize sql, u.start < cursor → cursor ≤ u.stop → u = t

/-- A command of the client typed up to the cursor, or its argument. Nothing but blanks stands
before the mark of a command in its statement, and a blank stands before an argument. -/
structure TypedCommand (v : Vocabulary) (sql : Text) (s : Statement) (cursor : Nat)
    (w : PartialWord) : Prop where
  text : w.text = sql.extract w.start.toNat cursor
  filled : ∀ u ∈ w.text, u.isBlank = false
  place : (w.text.head?.any v.sigils.contains = true ∧
      ∀ u ∈ sql.extract s.start w.start.toNat, u.isBlank = true) ∨
    (sql.extract s.start w.start.toNat).getLast?.any CodeUnit.isBlank = true

theorem TypedName.empty (sql : Text) (s : Statement) (cursor : Nat) :
    TypedName sql s cursor ⟨[], cursor, cursor⟩ := by
  refine ⟨?_, fun h => absurd h (Int.lt_irrefl _)⟩
  show [] = unquote (sql.extract cursor cursor)
  rw [extract_self]
  rfl

theorem word_ofWord (s : Statement) (token : Option Token) (cursor : Int) :
    (Context.ofWord s token cursor).word = Context.partialWord token cursor := by
  rw [Context.ofWord]
  dsimp only
  split
  · rfl
  · rfl

/-- The word of SQL text begins in the statement and ends at the cursor. -/
theorem word_ofSql {sql : Text} {s : Statement} {cursor : Nat} (hs : s ∈ statements sql)
    (hc : Holds s cursor) :
    let w := (Context.ofSql s cursor).word
    (s.start ≤ w.start ∧ w.start ≤ w.stop ∧ w.stop = cursor) ∧ TypedName sql s cursor w := by
  intro w
  cases hw : (Token.atCursor? s.tokens cursor).filter (·.isWord) with
  | none =>
    have he : w = ⟨[], cursor, cursor⟩ := by
      show (Context.ofSql s cursor).word = _
      rw [Context.ofSql, hw]
      split
      · rfl
      · exact word_ofWord s none cursor
    rw [he]
    exact ⟨⟨hc.begun, Int.le_refl _, rfl⟩, .empty sql s cursor⟩
  | some t =>
    obtain ⟨hat, hword⟩ := Option.filter_eq_some_iff.mp hw
    obtain ⟨ht, hlow, hhigh⟩ := atCursor_some hat
    have hstart := start_le_of_token hs ht
    have he : w = Context.partialWord (some t) cursor := by
      show (Context.ofSql s cursor).word = _
      rw [ofSql_word hat hword, word_ofWord]
    have hm := token_of_statement hs ht
    have htyped : t.text.take ((cursor : Int) - t.start).toNat = sql.extract t.start cursor := by
      rw [token_eq_extract hm, show ((cursor : Int) - t.start).toNat = cursor - t.start by omega]
      exact take_extract (by omega)
    rw [he]
    refine ⟨⟨Int.ofNat_le.mpr hstart, Int.le_of_lt hlow, rfl⟩, congrArg unquote htyped, fun _ => ?_⟩
    refine ⟨t, ht, hword, rfl, by omega, fun u hu hlow' hhigh' => ?_⟩
    exact (ordered_tokenize sql).unique hm hlow hhigh hu (by omega) (by omega)

/-- The two places of a command: the command itself, and behind a blank its argument. -/
theorem classifySpecial_cases {v : Vocabulary} {s : Statement} {cursor : Int} {c : Context}
    {before typed : Text} (h : classifySpecial? v s cursor = some c)
    (hb : Text.firstItems (cursor - s.start) s.text = before)
    (ht : Text.trimStart before = typed) :
    typed.head?.any v.sigils.contains = true ∧
      ((∀ u ∈ typed, u.isBlank = false) ∧
          c.word = ⟨typed, s.start + (before.length - typed.length : Nat), cursor⟩ ∨
        (∃ u ∈ typed, u.isBlank = true) ∧
          c.word = ⟨Text.takeEndWhile (fun u => !u.isBlank) typed,
            cursor - (Text.takeEndWhile (fun u => !u.isBlank) typed).length, cursor⟩) := by
  unfold classifySpecial? at h
  rw [hb] at h
  dsimp only at h
  rw [ht] at h
  cases hmark : typed.head? with
  | none =>
    rw [hmark] at h
    contradiction
  | some mark =>
    rw [hmark] at h
    dsimp only at h
    split at h
    · rename_i hsigil
      refine ⟨hsigil, ?_⟩
      split at h
      · rename_i hany
        obtain rfl := Option.some.inj h
        exact .inr ⟨List.any_eq_true.mp hany, rfl⟩
      · rename_i hnone
        obtain rfl := Option.some.inj h
        exact .inl ⟨by simpa using hnone, rfl⟩
    · contradiction

/-- A word that is cut off the end of what the statement holds before the cursor begins in the
statement. -/
theorem word_of_end {sql lead word : Text} {s : Statement} {cursor : Nat}
    (h : sql.extract s.start cursor = lead ++ word) (hc : Holds s cursor)
    (hlen : cursor ≤ sql.length) :
    s.start + lead.length + word.length = cursor ∧
      sql.extract s.start ((cursor : Int) - word.length).toNat = lead ∧
      word = sql.extract ((cursor : Int) - word.length).toNat cursor := by
  obtain ⟨hsum, hlead, hword⟩ := extract_ends h (Int.ofNat_le.mp hc.begun) hlen
  rw [show ((cursor : Int) - word.length).toNat = cursor - word.length by omega]
  exact ⟨hsum, hlead, hword.symm⟩

theorem blank_before_argument {typed : Text} (h : ∃ u ∈ typed, u.isBlank = true) :
    ∃ u, (Text.dropEndWhile (fun u => !u.isBlank) typed).getLast? = some u ∧
      u.isBlank = true := by
  obtain ⟨u, hu, hblank⟩ := h
  have hne : List.rdropWhile (fun u : CodeUnit => !u.isBlank) typed ≠ [] := by
    intro hnil
    have hfilled := List.rdropWhile_eq_nil_iff.mp hnil u hu
    simp [hblank] at hfilled
  have hlast := List.rdropWhile_last_not _ typed hne
  exact ⟨_, List.getLast?_eq_some_getLast hne, by simpa using hlast⟩

/-- The word of a command begins in the statement and ends at the cursor. -/
theorem word_special {sql : Text} {s : Statement} {cursor : Nat} {v : Vocabulary} {c : Context}
    (hs : s ∈ statements sql) (hc : Holds s cursor) (hlen : cursor ≤ sql.length)
    (h : classifySpecial? v s cursor = some c) :
    (s.start ≤ c.word.start ∧ c.word.start ≤ c.word.stop ∧ c.word.stop = cursor) ∧
      TypedCommand v sql s cursor c.word := by
  let blanks := (sql.extract s.start cursor).takeWhile CodeUnit.isBlank
  let typed := Text.trimStart (sql.extract s.start cursor)
  have hbefore : sql.extract s.start cursor = blanks ++ typed :=
    List.takeWhile_append_dropWhile.symm
  have hblanks : ∀ u ∈ blanks, u.isBlank = true := fun u hu => List.mem_takeWhile_imp hu
  obtain ⟨hmark, ⟨hfilled, hw⟩ | ⟨hany, hw⟩⟩ := classifySpecial_cases h (before_cursor hs hc) rfl
  · obtain ⟨hsum, hlead, htext⟩ := word_of_end hbefore hc hlen
    have hstart : (s.start : Int) + ((sql.extract s.start cursor).length - typed.length : Nat) =
        cursor - typed.length := by
      rw [hbefore, List.length_append]
      omega
    have hlow : (s.start : Int) ≤ cursor - typed.length := by omega
    have hhigh : (cursor : Int) - typed.length ≤ cursor := by omega
    rw [hw, hstart]
    refine ⟨⟨hlow, hhigh, rfl⟩, htext, hfilled, .inl ⟨hmark, ?_⟩⟩
    rw [hlead]
    exact hblanks
  · let head := Text.dropEndWhile (fun u => !u.isBlank) typed
    let argument := Text.takeEndWhile (fun u => !u.isBlank) typed
    have htyped : typed = head ++ argument := List.rdropWhile_append_rtakeWhile.symm
    rw [htyped, ← List.append_assoc] at hbefore
    obtain ⟨hsum, hlead, htext⟩ := word_of_end hbefore hc hlen
    have hlow : (s.start : Int) ≤ cursor - argument.length := by omega
    have hhigh : (cursor : Int) - argument.length ≤ cursor := by omega
    rw [hw]
    refine ⟨⟨hlow, hhigh, rfl⟩, htext, fun u hu => ?_, .inr ?_⟩
    · simpa using List.mem_rtakeWhile_imp hu
    · obtain ⟨u, hlast, hblank⟩ := blank_before_argument hany
      rw [hlead, List.getLast?_append, hlast]
      exact hblank

/-- Wherever in a text the cursor stands, the word there begins in the statement and ends at the
cursor: it is a name that is being typed, or a command of the client where one is due. -/
theorem word_at_cursor {sql : Text} {cursor : Nat} (h : cursor ≤ sql.length) (v : Vocabulary) :
    let s := statementAt sql cursor
    let w := (classify s cursor v).word
    (s.start ≤ w.start ∧ w.start ≤ w.stop ∧ w.stop = cursor) ∧
      (classifySpecial? v s cursor = none → TypedName sql s cursor w) ∧
      ((classifySpecial? v s cursor).isSome = true → TypedCommand v sql s cursor w) := by
  intro s w
  obtain ⟨hs, hc⟩ : s ∈ statements sql ∧ Holds s cursor :=
    statementAt_holds (Int.natCast_nonneg cursor) (Int.ofNat_le.mpr h)
  have hw : w = ((classifySpecial? v s cursor).getD (Context.ofSql s cursor)).word := rfl
  cases hspecial : classifySpecial? v s cursor with
  | none =>
    rw [hspecial] at hw
    obtain ⟨hplace, hname⟩ := word_ofSql hs hc
    rw [hw]
    exact ⟨hplace, fun _ => hname, fun hsome => Bool.noConfusion hsome⟩
  | some c =>
    rw [hspecial] at hw
    obtain ⟨hplace, hcommand⟩ := word_special hs hc h hspecial
    rw [hw]
    exact ⟨hplace, fun hnone => absurd hnone (Option.some_ne_none c), fun _ => hcommand⟩

/-- At the end of an argument behind blanks. -/
theorem word_of_schema_argument :
    let v : Vocabulary := ⟨[(".schema", ⟨".schema", .table, "Show the schema"⟩)]⟩
    let sql : Text := "  .schema  us"
    let cursor : Nat := 13
    let s := statementAt sql cursor
    let w := (classify s cursor v).word
    cursor ≤ sql.length ∧ (s.start ≤ w.start ∧ w.start ≤ w.stop ∧ w.stop = cursor) ∧
      TypedCommand v sql s cursor w := by
  intro v sql cursor s w
  have hlen : cursor ≤ sql.length := by decide +kernel
  obtain ⟨hplace, -, hcommand⟩ := word_at_cursor hlen v
  exact ⟨hlen, hplace, hcommand (by decide +kernel)⟩

end SqlShell.Proofs
