import SqlShell.Context.Classify

namespace SqlShell.Proofs

/-- Brings tokens to other places and leaves them what they are. -/
def Moves (move : Token → Token) : Prop := ∀ t, (move t).toLexeme = t.toLexeme

theorem moves_shift (n : Nat) : Moves (Token.shift n) := fun _ => rfl

theorem Moves.comp {move : Token → Token} (h : Moves move) (f : Lexeme → α) :
    (fun t => f t.toLexeme) ∘ move = fun t => f t.toLexeme := by
  funext t
  exact congrArg f (h t)

theorem leading_eq (s : Statement) : s.leading? = s.significant.head? :=
  (List.head?_filter ..).symm

section
variable {move : Token → Token} (hm : Moves move)
include hm

theorem significant_move (ts : List Token) :
    Token.significant (ts.map move) = (Token.significant ts).map move := by
  rw [Token.significant, List.filter_map, hm.comp Lexeme.isSignificant]
  rfl

theorem head_move (f : Lexeme → Bool) (ts : List Token) :
    (ts.map move).head?.any (fun t => f t.toLexeme) = ts.head?.any (fun t => f t.toLexeme) := by
  cases ts with
  | nil => rfl
  | cons t ts => exact congrArg f (hm t)

theorem any_move (f : Lexeme → Bool) (ts : List Token) :
    (ts.map move).any (fun t => f t.toLexeme) = ts.any (fun t => f t.toLexeme) := by
  rw [List.any_map, hm.comp f]

theorem kind_move {s t : Statement} (h : t.significant = s.significant.map move) :
    t.kind = s.kind := by
  rw [Statement.kind, Statement.kind, leading_eq, leading_eq, h, List.head?_map]
  cases s.significant.head? with
  | none => rfl
  | some u => simp only [Option.map_some, hm u]

theorem introducer_move (t : Token) : TableRef.introducer? (move t) = TableRef.introducer? t := by
  simp only [TableRef.introducer?, hm t]

theorem readAlias_move (ts : List Token) :
    TableRef.readAlias (ts.map move) = TableRef.readAlias ts := by
  match ts with
  | [] => rfl
  | [t] => simp only [List.map, TableRef.readAlias, hm t]
  | t :: u :: ts => simp only [List.map, TableRef.readAlias, hm t, hm u]

theorem readName_move (ts : List Token) :
    TableRef.readName (ts.map move) = TableRef.readName ts := by
  match ts with
  | [] => rfl
  | [t] => simp only [List.map, TableRef.readName, hm t]
  | [t, u] => simp only [List.map, TableRef.readName, hm t]
  | t :: u :: v :: ts => simp only [List.map, TableRef.readName, hm t, hm u, hm v]

theorem read_move (source : TableRef.Source) (ts : List Token) :
    TableRef.read source (ts.map move) = TableRef.read source ts := by
  rw [TableRef.read, TableRef.read, readName_move hm]
  cases TableRef.readName ts with
  | none => rfl
  | some read =>
    obtain ⟨schema, name, n⟩ := read
    simp only [← List.map_drop, readAlias_move hm]

theorem continues_move (source : TableRef.Source) (ts : List Token) :
    TableRef.continues source (ts.map move) = TableRef.continues source ts := by
  rw [TableRef.continues, TableRef.continues, head_move hm (·.isMark ',')]

theorem collect_move (due : Option TableRef.Source) (taken : Nat) (ts : List Token) :
    TableRef.collect due taken (ts.map move) = TableRef.collect due taken ts := by
  induction ts generalizing due taken with
  | nil => simp only [List.map_nil, TableRef.collect]
  | cons t ts ih =>
    cases taken with
    | succ taken => simp only [List.map_cons, TableRef.collect, ih]
    | zero =>
      cases due with
      | none => simp only [List.map_cons, TableRef.collect, introducer_move hm, ih]
      | some source =>
        have hread := read_move hm source (t :: ts)
        rw [List.map_cons] at hread
        simp only [List.map_cons, TableRef.collect, hread, introducer_move hm, ih]
        simp only [← List.map_cons, ← List.map_drop, continues_move hm]

theorem tableRefs_move {s t : Statement} (h : t.significant = s.significant.map move) :
    t.tableRefs = s.tableRefs := by
  rw [Statement.tableRefs, Statement.tableRefs, h, collect_move hm]

theorem clauseWord_move (t : Token) (before : Option Token) :
    ClauseWord.ofToken? (move t) (before.map move) = ClauseWord.ofToken? t before := by
  cases before with
  | none => simp only [Option.map_none, ClauseWord.ofToken?, hm t]
  | some u => simp only [Option.map_some, ClauseWord.ofToken?, Option.bind_some, hm t, hm u]

theorem search_move (depth : Nat) (parenthesis : Option Nat) (ts : List Token) :
    Clause.search depth parenthesis (ts.map move) = Clause.search depth parenthesis ts := by
  induction ts generalizing depth parenthesis with
  | nil => rfl
  | cons t ts ih =>
    simp only [List.map_cons, Clause.search, hm t, ih, List.length_map, List.head?_map,
      clauseWord_move hm]

theorem clause_move (ts : List Token) : Clause.find (ts.map move) = Clause.find ts :=
  search_move hm 0 none ts

theorem namesNewTable_move (ts : List Token) :
    Context.namesNewTable (ts.map move) = Context.namesNewTable ts := by
  cases ts with
  | nil => rfl
  | cons t ts =>
    rw [List.map_cons, Context.namesNewTable, Context.namesNewTable, hm t,
      head_move hm (·.isKeyword .CREATE)]

theorem createsIndex_move (ts : List Token) :
    Context.createsIndex (ts.map move) = Context.createsIndex ts := by
  rw [Context.createsIndex, Context.createsIndex, any_move hm (·.isKeyword .INDEX),
    List.getLast?_map]
  cases ts.getLast? with
  | none => rfl
  | some t => simp only [Option.map_some, Option.any_some, hm t]

theorem dueObjects_move (ts : List Token) :
    Context.dueObjects? (ts.map move) = Context.dueObjects? ts := by
  match ts with
  | [] => rfl
  | [t] =>
    have hc := clause_move hm [t]
    have hi := createsIndex_move hm [t]
    simp only [List.map] at hc hi
    simp only [List.map, Context.dueObjects?, hm t, hc, hi]
  | t :: u :: ts =>
    have ih := dueObjects_move ts
    have hc := clause_move hm (t :: u :: ts)
    have hi := createsIndex_move hm (t :: u :: ts)
    have hn := namesNewTable_move hm (u :: ts)
    simp only [List.map_cons] at hc hi hn
    simp only [List.map_cons, Context.dueObjects?, List.head?_cons, Option.any_some, hm t, hm u,
      hc, hi, hn, ih]
    rfl

theorem openedPragma_move (ts : List Token) :
    Context.openedPragma? (ts.map move) = Context.openedPragma? ts := by
  match ts with
  | [] => rfl
  | [t] => rfl
  | t :: u :: ts =>
    have hc := clause_move hm (t :: u :: ts)
    simp only [List.map_cons] at hc
    simp only [List.map_cons, Context.openedPragma?, hm t, hm u, hc]

theorem opensSubquery_move (ts : List Token) :
    Context.opensSubquery (ts.map move) = Context.opensSubquery ts := by
  match ts with
  | [] => rfl
  | [t] => rfl
  | t :: u :: ts => simp only [List.map_cons, Context.opensSubquery, hm t, hm u]

theorem insertScope_move (refs : List TableRef) (ts : List Token) :
    Context.insertScope? refs (ts.map move) = Context.insertScope? refs ts := by
  have hopen := head_move hm (fun l => l.isMark '(' || l.isMark ',') ts
  have howner (i : Nat) : (ts.map move).reverse[i]? = (ts.reverse[i]?).map move := by
    rw [← List.map_reverse, List.getElem?_map]
  simp only [Context.insertScope?, clause_move hm, hopen, howner]
  cases (Clause.find ts).parenthesis with
  | none => rfl
  | some i =>
    cases i with
    | zero => rfl
    | succ i =>
      simp only [Nat.add_one_ne_zero, if_false, Nat.add_sub_cancel]
      cases ts.reverse[i]? with
      | none => rfl
      | some t =>
        simp only [Option.map_some, Option.filter_some, hm t]
        cases t.isName with
        | false => rfl
        | true => simp only [if_true, hm t]

theorem isOperand_move (t : Token) : Context.isOperand (move t) = Context.isOperand t := by
  simp only [Context.isOperand, hm t]

theorem expressionDue_move (ts : List Token) :
    Context.expressionDue (ts.map move) = Context.expressionDue ts := by
  cases ts with
  | nil => rfl
  | cons t ts =>
    have hc := clause_move hm (t :: ts)
    rw [List.map_cons] at hc
    simp only [List.map_cons, Context.expressionDue, List.head?_map, clauseWord_move hm, hm t, hc]

theorem unqualified_move (refs : List TableRef) (ts : List Token) :
    Context.unqualified refs (ts.map move) = Context.unqualified refs ts := by
  cases ts with
  | nil => rfl
  | cons t ts =>
    have hd := dueObjects_move hm (t :: ts)
    have hs := opensSubquery_move hm (t :: ts)
    have hp := openedPragma_move hm (t :: ts)
    have hi := insertScope_move hm refs (t :: ts)
    have he := expressionDue_move hm (t :: ts)
    rw [List.map_cons] at hd hs hp hi he
    simp only [List.map_cons, Context.unqualified, hd, hs, hp, hi, he, hm t, isOperand_move hm]

theorem qualified_move (refs : List TableRef) (ts : List Token) (qualifier : Text) :
    Context.qualified refs (ts.map move) qualifier = Context.qualified refs ts qualifier := by
  rw [Context.qualified, Context.qualified, dueObjects_move hm,
    head_move hm (·.isKeyword .PRAGMA)]

end

end SqlShell.Proofs
