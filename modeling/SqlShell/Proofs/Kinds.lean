import SqlShell.Proofs.LexemeKinds
import SqlShell.Proofs.Placeless
import SqlShell.Proofs.Splitting

namespace SqlShell.Proofs

/-- One of these keywords leads the statement. -/
def leads (x : Statement) (ks : List Keyword) : Bool := x.leading?.any (·.isKeywordOf ks)

/-- A question that only kinds with a keyword answer with yes is one about the leading keyword. -/
theorem kind_test {p : StatementKind → Bool} {ks : List Keyword}
    (hk : ∀ k, p (.ofKeyword k) = ks.contains k) (hspecial : p .special = false)
    (hother : p .other = false) (hunknown : p .unknown = false) (x : Statement) :
    p x.kind = leads x ks := by
  rw [Statement.kind, leads]
  cases x.leading? with
  | none => exact hunknown
  | some t =>
    dsimp only [Option.any_some, Lexeme.isKeywordOf]
    split
    · rename_i hm
      have hnone : t.keyword? = none := by
        rcases Bool.or_eq_true _ _ ▸ hm with hm | hm
        · exact keyword_of_mark hm
        · exact keyword_of_mark hm
      rw [hnone]
      exact hspecial
    · cases t.keyword? with
      | none => exact hother
      | some k => exact hk k

/-- The keywords that lead a statement which changes the schema. -/
def schemaKeywords : List Keyword := [.CREATE, .ALTER, .DROP, .ATTACH, .DETACH]

theorem altersSchema_ofKeyword (k : Keyword) :
    (StatementKind.ofKeyword k).altersSchema = schemaKeywords.contains k := by
  cases k <;> rfl

theorem altersSchema_eq (x : Statement) :
    x.altersSchema = x.leading?.any (·.isKeywordOf schemaKeywords) :=
  kind_test altersSchema_ofKeyword rfl rfl rfl x

theorem isDestructive_shift (n : Nat) (s : Statement) :
    (shiftStatement n s).isDestructive = s.isDestructive := by
  have hm := moves_shift n
  have hk : (shiftStatement n s).kind = s.kind := kind_move hm (significant_move hm s.tokens)
  have hw : (shiftStatement n s).tokens.any (·.isKeyword .WHERE) =
      s.tokens.any (·.isKeyword .WHERE) := any_move hm (·.isKeyword .WHERE) s.tokens
  rw [Statement.isDestructive, Statement.isDestructive, hk, hw]

theorem isDestructive_eq (sql : Text) :
    isDestructive sql = (statements sql).any (fun x => !x.isBlank && x.isDestructive) := by
  rw [isDestructive, executableStatements, List.any_filter]

/-- A statement read alone is as destructive as it is in its text. -/
theorem isDestructive_alone {sql : Text} {x : Statement} (hm : x ∈ executableStatements sql) :
    isDestructive x.text = x.isDestructive := by
  obtain ⟨hx, hn⟩ := List.mem_filter.mp hm
  have hshift : (fun y => !y.isBlank && y.isDestructive) ∘ shiftStatement x.start =
      fun y => !y.isBlank && y.isDestructive := by
    funext y
    simp only [Function.comp_apply, isBlank_shift, isDestructive_shift]
  have hclosing : (closing x).any (fun y => !y.isBlank && y.isDestructive) = false := by
    rw [closing]
    cases x.terminated with
    | true => rfl
    | false => rfl
  rw [isDestructive_eq, ← hshift, ← List.any_map, statements_alone hx, List.any_cons, hclosing,
    hn, Bool.true_and, Bool.or_false]

theorem isDestructive_of_statement {sql : Text} {x : Statement}
    (hm : x ∈ executableStatements sql) (hd : isDestructive x.text = true) :
    isDestructive sql = true := by
  rw [isDestructive_alone hm] at hd
  exact List.any_eq_true.mpr ⟨x, hm, hd⟩

/-- The keywords of changes that a WHERE can limit. -/
def limitable : List Keyword := [.DELETE, .UPDATE]

/-- The verbs that can stand behind a WITH. -/
def verbs : List Keyword := [.SELECT, .INSERT, .REPLACE, .UPDATE, .DELETE, .VALUES]

/-- The tokens outside of all parentheses, of which `depth` are open. -/
def outside : Nat → List Token → List Token
  | _, [] => []
  | 0, t :: ts => if t.isMark '(' then outside 1 ts else t :: outside 0 ts
  | depth + 1, t :: ts =>
    if t.isMark '(' then outside (depth + 2) ts
    else if t.isMark ')' then outside depth ts
    else outside (depth + 1) ts

theorem outside_subset (depth : Nat) (ts : List Token) : outside depth ts ⊆ ts := by
  fun_induction outside depth ts <;> grind

/-- The statement deletes or updates without a WHERE of its own. -/
inductive Unlimited (x : Statement) : Prop
  | leading (h : leads x limitable = true)
      (hw : ∀ t ∈ outside 0 x.tokens, t.isKeyword .WHERE = false)
  | common (h : leads x [.WITH] = true)
      (hv : (outside 0 x.tokens).dropWhile (fun t => !t.isKeywordOf verbs) = v :: rest)
      (hk : v.isKeywordOf limitable = true) (hw : ∀ t ∈ rest, t.isKeyword .WHERE = false)

/-- The statement destroys more than single rows: it drops an object, or it deletes or updates
whole tables. -/
def Destroys (x : Statement) : Prop := leads x [.DROP] = true ∨ Unlimited x

/-- The change stands behind a WITH, or a WHERE stands somewhere else in the statement. -/
def Hidden (x : Statement) : Prop :=
  leads x [.WITH] = true ∨ leads x limitable = true ∧ ∃ t ∈ x.tokens, t.isKeyword .WHERE = true

theorem isDestructive_iff {x : Statement} : x.isDestructive = true ↔
    leads x [.DROP] = true ∨
      leads x limitable = true ∧ ∀ t ∈ x.tokens, t.isKeyword .WHERE = false := by
  have hdrop : (x.kind == .drop) = leads x [.DROP] :=
    kind_test (p := (· == .drop)) (fun k => by cases k <;> rfl) rfl rfl rfl x
  have hlimit : (x.kind == .delete || x.kind == .update) = leads x limitable :=
    kind_test (p := fun k => k == .delete || k == .update) (fun k => by cases k <;> rfl)
      rfl rfl rfl x
  rw [← hdrop, ← hlimit, Statement.isDestructive]
  cases x.kind <;> simp

theorem leads_other {x : Statement} {ks js : List Keyword} (h : leads x ks = true)
    (hd : ∀ k ∈ ks, js.contains k = false) : leads x js = false := by
  rw [leads] at h ⊢
  cases ht : x.leading? with
  | none => rfl
  | some t =>
    rw [ht, Option.any_some, Lexeme.isKeywordOf] at h
    rw [Option.any_some, Lexeme.isKeywordOf]
    cases hk : t.keyword? with
    | none => rfl
    | some k =>
      rw [hk, Option.any_some, List.contains_iff_mem] at h
      exact hd k h

theorem not_blank_of_leads {x : Statement} {ks : List Keyword} (h : leads x ks = true) :
    x.isBlank = false := by
  rw [leads] at h
  rw [Statement.isBlank]
  cases ht : x.leading? with
  | none =>
    rw [ht] at h
    contradiction
  | some t => rfl

theorem not_blank_of_destructive {x : Statement} (h : x.isDestructive = true) :
    x.isBlank = false := by
  rcases isDestructive_iff.mp h with hdrop | ⟨hlimit, -⟩
  · exact not_blank_of_leads hdrop
  · exact not_blank_of_leads hlimit

/-- A statement that destroys is seen unless it is hidden, and no other is taken for one. -/
theorem isDestructive_iff_destroys {x : Statement} :
    x.isDestructive = true ↔ Destroys x ∧ ¬ Hidden x := by
  rw [isDestructive_iff]
  constructor
  · rintro (hdrop | ⟨hlimit, hw⟩)
    · refine ⟨.inl hdrop, ?_⟩
      rintro (hwith | ⟨hlimit, -⟩)
      · rw [leads_other hdrop (by decide)] at hwith
        contradiction
      · rw [leads_other hdrop (by decide)] at hlimit
        contradiction
    · refine ⟨.inr (.leading hlimit fun t ht => hw t (outside_subset 0 x.tokens ht)), ?_⟩
      rintro (hwith | ⟨-, t, ht, hwhere⟩)
      · rw [leads_other hlimit (by decide)] at hwith
        contradiction
      · rw [hw t ht] at hwhere
        contradiction
  · rintro ⟨hdrop | hall, hseen⟩
    · exact .inl hdrop
    · cases hall with
      | leading hlimit _ =>
        refine .inr ⟨hlimit, fun t ht => ?_⟩
        rw [Bool.eq_false_iff]
        exact fun hwhere => hseen (.inr ⟨hlimit, t, ht, hwhere⟩)
      | common hwith _ _ _ => exact absurd (.inl hwith) hseen

/-- A text is taken for destructive exactly if one of its statements drops an object, or deletes or
updates without a WHERE of its own, and neither a WITH before it nor a WHERE in its parentheses
hides that. -/
theorem destructive_text_iff (sql : Text) :
    isDestructive sql = true ↔ ∃ x ∈ statements sql, Destroys x ∧ ¬ Hidden x := by
  rw [isDestructive_eq, List.any_eq_true]
  constructor
  · rintro ⟨x, hx, h⟩
    rw [Bool.and_eq_true] at h
    exact ⟨x, hx, isDestructive_iff_destroys.mp h.2⟩
  · rintro ⟨x, hx, h⟩
    have hd := isDestructive_iff_destroys.mpr h
    exact ⟨x, hx, by rw [not_blank_of_destructive hd, hd]; rfl⟩

/-- An update whose only WHERE is that of a query in it changes the whole table, and so does a
delete behind a WITH; neither is taken for destructive. -/
theorem hidden_changes_unflagged :
    let nested : Text := "UPDATE t SET a = (SELECT b FROM u WHERE u.id = 1)"
    let common : Text := "WITH x AS (SELECT 1) DELETE FROM t"
    (∃ x ∈ statements nested, Destroys x ∧ isDestructive nested = false) ∧
      ∃ x ∈ statements common, Destroys x ∧ isDestructive common = false := by
  intro nested common
  let x : Statement := ⟨0, tokenize nested, false⟩
  let y : Statement := ⟨0, tokenize common, false⟩
  let verb : Token := ⟨⟨.keyword .DELETE, "DELETE"⟩, 21⟩
  let rest : List Token := placeFrom 27 (lexemes " FROM t")
  have hx : x ∈ statements nested ∧ leads x limitable = true ∧
      (∀ t ∈ outside 0 x.tokens, t.isKeyword .WHERE = false) ∧ isDestructive nested = false := by
    decide +kernel
  have hy : y ∈ statements common ∧ leads y [.WITH] = true ∧
      (outside 0 y.tokens).dropWhile (fun t => !t.isKeywordOf verbs) = verb :: rest ∧
      verb.isKeywordOf limitable = true ∧ (∀ t ∈ rest, t.isKeyword .WHERE = false) ∧
      isDestructive common = false := by
    decide +kernel
  obtain ⟨hx, hlimit, hown, hflag⟩ := hx
  obtain ⟨hy, hwith, hverb, hdelete, hnone, hflag'⟩ := hy
  exact ⟨⟨x, hx, .inr (.leading hlimit hown), hflag⟩,
    y, hy, .inr (.common hwith hverb hdelete hnone), hflag'⟩

end SqlShell.Proofs
