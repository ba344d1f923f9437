import SqlShell.Statement.Basic
import SqlShell.Token.Name

namespace SqlShell

/-- What made a name a table reference. -/
inductive TableRef.Source where
  | fromClause
  | joinClause
  | updateTarget
  | insertTarget
  | qualifier
  deriving DecidableEq, Repr

structure TableRef where
  name : Text
  schema : Option Text
  aliasName : Option Text
  source : TableRef.Source
  deriving DecidableEq, Repr

namespace TableRef

/-- The keywords after which a table is due. -/
def introducer? (t : Token) : Option Source :=
  match t.keyword? with
  | some .FROM => some .fromClause
  | some .JOIN => some .joinClause
  | some .UPDATE => some .updateTarget
  | some .INTO => some .insertTarget
  | _ => none

/-- An optional alias, with or without AS, and how many tokens it takes. -/
def readAlias : List Token → Option Text × Nat
  | t :: u :: _ =>
    if t.isKeyword .AS && u.isNameLike then (some (unquote u.text), 2)
    else if t.isNameLike then (some (unquote t.text), 1)
    else (none, 0)
  | [t] => if t.isNameLike then (some (unquote t.text), 1) else (none, 0)
  | [] => (none, 0)

/-- The name of a table, its schema if one is written, and how many tokens they take. -/
def readName : List Token → Option (Option Text × Text × Nat)
  | t :: dot :: u :: _ =>
    if t.isNameLike then
      if dot.isMark '.' && u.isNameLike then some (some (unquote t.text), unquote u.text, 3)
      else some (none, unquote t.text, 1)
    else none
  | t :: _ => if t.isNameLike then some (none, unquote t.text, 1) else none
  | [] => none

/-- The reference that significant tokens begin with, and how many of them it takes. -/
def read (source : Source) (tokens : List Token) : Option (TableRef × Nat) :=
  match readName tokens with
  | none => none
  | some (schema, name, n) =>
    let (aliasName, m) := readAlias (tokens.drop n)
    some (⟨name, schema, aliasName, source⟩, n + m)

/-- Whether another reference is due: only FROM takes a list. -/
def continues (source : Source) (rest : List Token) : Bool :=
  source == .fromClause && rest.head?.any (·.isMark ',')

/-- The references among significant tokens, of which the first `taken` belong to one already
read. `due` is what introduced the table that is due next, if one is. -/
def collect : Option Source → Nat → List Token → List TableRef
  | _, _, [] => []
  | due, taken + 1, _ :: rest => collect due taken rest
  | due, 0, t :: rest =>
    match due with
    | none => collect (introducer? t) 0 rest
    | some source =>
      match read source (t :: rest) with
      | none => collect (introducer? t) 0 rest
      | some (ref, n) =>
        if continues source ((t :: rest).drop n) then ref :: collect (some source) n rest
        else ref :: collect none (n - 1) rest

/-- What columns of the table are qualified with. -/
def label (r : TableRef) : Text := r.aliasName.getD r.name

/-- The last reference whose alias has these small letters. -/
def aliased? (refs : List TableRef) (key : Text) : Option TableRef :=
  refs.reverse.find? (fun r => r.aliasName.any (fun a => a.lower == key))

/-- The table that a qualifier means: an alias first, then the name of a table referred to, then
the qualifier itself as a name. -/
def resolve (refs : List TableRef) (qualifier : Text) : TableRef :=
  match aliased? refs qualifier.lower with
  | some r => r
  | none =>
    match refs.find? (fun r => r.name.lower == qualifier.lower) with
    | some r => r
    | none => ⟨qualifier, none, none, .qualifier⟩

/-- Each alias, in small letters, with the last reference that declares it. -/
def aliases (refs : List TableRef) : List (Text × TableRef) :=
  (refs.filterMap (fun r => r.aliasName.map Text.lower)).eraseDups.filterMap
    (fun a => (aliased? refs a).map (fun r => (a, r)))

end TableRef

/-- The tables a statement refers to, in the order of the text. -/
def Statement.tableRefs (s : Statement) : List TableRef :=
  TableRef.collect none 0 s.significant

end SqlShell
