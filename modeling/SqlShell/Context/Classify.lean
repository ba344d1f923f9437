import SqlShell.Context.Clause
import SqlShell.Context.Special

namespace SqlShell

namespace Context

def tablesAndViews : List SchemaObject := [.table, .view]

/-- `CREATE [VIRTUAL] TABLE` or `CREATE TEMP TABLE` precedes a new name. -/
def namesNewTable : List Token → Bool
  | prev :: before =>
    prev.isKeywordOf [.CREATE, .VIRTUAL]
      || (prev.isKeywordOf [.TEMP, .TEMPORARY] && before.head?.any (·.isKeyword .CREATE))
  | [] => false

/-- Inside `CREATE INDEX`, of which CREATE is the first token. -/
def createsIndex (tokens : List Token) : Bool :=
  tokens.getLast?.any (·.isKeyword .CREATE) && tokens.any (·.isKeyword .INDEX)

/-- The objects whose name is due after these tokens, if one is. -/
def dueObjects? : List Token → Option (List SchemaObject)
  | [] => none
  | last :: before =>
    match last.keyword? with
    | some .FROM | some .JOIN | some .INTO | some .UPDATE => some tablesAndViews
    | some .TABLE => if namesNewTable before then none else some [.table]
    | some .VIEW => if before.head?.any (·.isKeyword .DROP) then some [.view] else none
    | some .INDEX => if before.head?.any (·.isKeyword .DROP) then some [.index] else none
    | some .REINDEX | some .ANALYZE => some [.table, .index]
    | some .BY => if before.head?.any (·.isKeyword .INDEXED) then some [.index] else none
    | some .EXISTS =>
      match before with
      | prev :: rest => if prev.isKeyword .IF then dueObjects? rest else none
      | [] => none
    | some .ON => if createsIndex (last :: before) then some [.table] else none
    | some _ => none
    | none =>
      if last.isMark ',' && (Clause.find (last :: before)).isOneOf [.FROM, .JOIN] then
        some tablesAndViews
      else none

/-- Everything an expression can begin with. -/
def expressionSuggestions (refs : List TableRef) : Suggestion × List Suggestion :=
  (.column refs,
   [.function, .aliasName (refs.filter (·.aliasName.isSome)), .table none tablesAndViews,
    .keyword .all])

/-- Marks after which an operand is due. -/
def operandMarks : List Text :=
  [",", "(", "=", "==", "!=", "<>", "<", ">", "<=", ">=", "+", "-", "*", "/", "%", "||", "->",
   "->>", "&", "|", "<<", ">>", "~"].map Text.ofString

def tablePragmas : List Text :=
  ["table_info", "table_xinfo", "index_list", "foreign_key_list",
   "foreign_key_check"].map Text.ofString

def indexPragmas : List Text := ["index_info", "index_xinfo"].map Text.ofString

/-- What the argument of a pragma names. -/
def pragmaArgument (pragma : Text) : Suggestion :=
  if tablePragmas.contains pragma then .table none [.table]
  else if indexPragmas.contains pragma then .table none [.index]
  else .anything

/-- The table whose columns an open INSERT column list names. -/
def insertScope? (refs : List TableRef) (before : List Token) : Option TableRef :=
  let clause := Clause.find before
  if clause.isOneOf [.INTO] && before.head?.any (fun t => t.isMark '(' || t.isMark ',') then
    match clause.parenthesis with
    | none => none
    | some i =>
      let owner := if i = 0 then none else before.reverse[i - 1]?
      match owner.filter (·.isName) with
      | none => none
      | some t =>
        let name := unquote t.text
        some ((refs.find? (fun r => r.source == .insertTarget && r.name == name)).getD
          ⟨name, none, none, .insertTarget⟩)
  else none

/-- A name, a value or a closed group: the next keyword is due. -/
def isOperand (t : Token) : Bool :=
  t.isName || t.isMark ')' || match t.kind with
    | .number | .string _ => true
    | _ => false

/-- The name of the pragma whose argument list has just been opened. -/
def openedPragma? : List Token → Option Text
  | last :: prev :: before =>
    if (Clause.find (last :: prev :: before)).isOneOf [.PRAGMA] && last.isMark '('
        && prev.isName then
      some (unquote prev.text).lower
    else none
  | _ => none

/-- A subquery has just been opened where a table is due. -/
def opensSubquery : List Token → Bool
  | last :: prev :: _ => last.isMark '(' && prev.isKeywordOf [.FROM, .JOIN]
  | _ => false

/-- An expression is due after these tokens. -/
def expressionDue : List Token → Bool
  | [] => false
  | last :: before =>
    (ClauseWord.ofToken? last before.head?).any ClauseWord.startsExpression
      || (last.isPunctuationOf operandMarks
        && (Clause.find (last :: before)).word?.any ClauseWord.holdsColumns)

/-- The suggestions for an unqualified word after these tokens. -/
def unqualified (refs : List TableRef) (before : List Token) : Suggestion × List Suggestion :=
  match before with
  | [] => (.keyword .statement, [])
  | last :: _ =>
    match dueObjects? before with
    | some objects => (.table none objects, [])
    | none =>
      if opensSubquery before then (.keyword .statement, [])
      else match openedPragma? before with
        | some pragma => (pragmaArgument pragma, [])
        | none =>
          match insertScope? refs before with
          | some ref => (.column [ref], [])
          | none =>
            if last.isKeyword .PRAGMA then (.pragma none, [])
            else if expressionDue before then expressionSuggestions refs
            else if isOperand last then (.keyword .all, [])
            else (.anything, [])

/-- The suggestion for a word qualified by `qualifier`, after the tokens before the qualifier. -/
def qualified (refs : List TableRef) (before : List Token) (qualifier : Text) : Suggestion :=
  match dueObjects? before with
  | some objects => .table (some qualifier) objects
  | none =>
    if before.head?.any (·.isKeyword .PRAGMA) then .pragma (some qualifier)
    else .column [TableRef.resolve refs qualifier]

/-- The qualifier written directly before `start`, and the tokens before it. -/
def qualifier? (start : Int) : List Token → Option (Text × List Token)
  | dot :: owner :: before =>
    if dot.isMark '.' && (dot.stop : Int) = start && owner.isWord && owner.stop = dot.start then
      some (unquote owner.text, before)
    else none
  | _ => none

/-- A word with an opening parenthesis behind it may be a function. -/
def addFunction (opened : Bool) (suggestions : Suggestion × List Suggestion) :
    Suggestion × List Suggestion :=
  let (primary, others) := suggestions
  if opened && !(primary :: others).contains .function then (primary, others ++ [.function])
  else (primary, others)

/-- The word at the cursor: the part before the cursor of the token it is in. -/
def partialWord (token : Option Token) (cursor : Int) : PartialWord :=
  match token with
  | some t => ⟨unquote (t.text.take (cursor - t.start).toNat), t.start, cursor⟩
  | none => ⟨[], cursor, cursor⟩

/-- The context of SQL text outside strings and comments. -/
def ofWord (s : Statement) (token : Option Token) (cursor : Int) : Context :=
  let word := partialWord token cursor
  let significant := s.significant
  let before := (significant.filter (fun t => t.stop ≤ word.start)).reverse
  let afterWord : Int := token.elim cursor (fun t => t.stop)
  let next := significant.find? (fun t => afterWord ≤ t.start)
  match qualifier? word.start before with
  | some (qualifier, owners) =>
    ⟨qualified s.tableRefs owners qualifier, [], word, some qualifier, s.kind⟩
  | none =>
    let (primary, others) :=
      addFunction (next.any (·.isMark '(')) (unqualified s.tableRefs before)
    ⟨primary, others, word, none, s.kind⟩

/-- The context of SQL text. -/
def ofSql (s : Statement) (cursor : Int) : Context :=
  if Token.isInsideLiteral s.tokens cursor then
    ⟨.literal, [], ⟨[], cursor, cursor⟩, none, s.kind⟩
  else ofWord s ((Token.atCursor? s.tokens cursor).filter (·.isWord)) cursor

end Context

/-- What can be completed at the cursor in a statement, commands in the vocabulary included. -/
def classify (s : Statement) (cursor : Int) (vocabulary : Vocabulary) : Context :=
  (classifySpecial? vocabulary s cursor).getD (Context.ofSql s cursor)

end SqlShell
