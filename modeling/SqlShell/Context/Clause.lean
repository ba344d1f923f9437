import SqlShell.Token.Basic

namespace SqlShell

/-- A keyword, BY being one with the word that it completes. -/
inductive ClauseWord where
  | keyword (k : Keyword)
  | orderBy
  | groupBy
  | partitionBy
  deriving DecidableEq, Repr

namespace ClauseWord

/-- The word that a token is, given the token before it. -/
def ofToken? (t : Token) (before : Option Token) : Option ClauseWord :=
  match t.keyword? with
  | none => none
  | some .BY =>
    match before.bind (·.keyword?) with
    | some .ORDER => some orderBy
    | some .GROUP => some groupBy
    | some .PARTITION => some partitionBy
    | _ => some (keyword .BY)
  | some k => some (keyword k)

/-- An expression over columns stands in these clauses. -/
def holdsColumns : ClauseWord → Bool
  | keyword .SELECT | keyword .WHERE | keyword .SET | keyword .ON | keyword .HAVING
  | keyword .USING | keyword .RETURNING | orderBy | groupBy | partitionBy => true
  | _ => false

/-- An expression follows directly. -/
def startsExpression : ClauseWord → Bool
  | keyword .SELECT | keyword .WHERE | keyword .SET | keyword .ON | keyword .HAVING
  | keyword .RETURNING | orderBy | groupBy | partitionBy | keyword .AND | keyword .OR
  | keyword .NOT | keyword .DISTINCT | keyword .CASE | keyword .WHEN | keyword .THEN
  | keyword .ELSE | keyword .BETWEEN | keyword .LIKE | keyword .GLOB | keyword .IS
  | keyword .IN => true
  | _ => false

def opensClause : ClauseWord → Bool
  | keyword .FROM | keyword .JOIN | keyword .INTO | keyword .UPDATE | keyword .VALUES
  | keyword .LIMIT | keyword .OFFSET | keyword .PRAGMA | keyword .TABLE | keyword .UNION
  | keyword .INTERSECT | keyword .EXCEPT | keyword .WINDOW => true
  | w => w.holdsColumns

end ClauseWord

/-- The word of a clause with its index, and the index of the innermost parenthesis that is
opened after that word and not closed. -/
structure Clause where
  opening : Option (ClauseWord × Nat)
  parenthesis : Option Nat
  deriving DecidableEq, Repr

namespace Clause

def word? (c : Clause) : Option ClauseWord := c.opening.map Prod.fst

def isOneOf (c : Clause) (ks : List Keyword) : Bool :=
  c.word?.any (fun w => ks.any (fun k => w == .keyword k))

/-- Steps over closed groups; `depth` of them are being stepped over. -/
def search (depth : Nat) (parenthesis : Option Nat) : List Token → Clause
  | [] => ⟨none, parenthesis⟩
  | t :: before =>
    if t.isMark ')' then search (depth + 1) parenthesis before
    else if t.isMark '(' then
      if depth = 0 then search 0 (some (parenthesis.getD before.length)) before
      else search (depth - 1) parenthesis before
    else if depth != 0 then search depth parenthesis before
    else match (ClauseWord.ofToken? t before.head?).filter ClauseWord.opensClause with
      | some w => ⟨some (w, before.length), parenthesis⟩
      | none => search depth parenthesis before

/-- The clause of the place that these tokens lead up to. -/
def find (before : List Token) : Clause := search 0 none before

end Clause

end SqlShell
