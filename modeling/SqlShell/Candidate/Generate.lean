import SqlShell.Candidate.Basic
import SqlShell.Context.Basic
import SqlShell.Schema.Snapshot

namespace SqlShell

/-- Whether the proposals of a suggestion are read from the schema. -/
def Suggestion.readsSchema : Suggestion → Bool
  | .table _ _ | .column _ | .pragma _ => true
  | _ => false

namespace Proposal

def keywords (words : List Text) : List Proposal :=
  words.map (fun w => ⟨.keyword, w, w, .keyword, false, none⟩)

/-- The database whose objects a snapshot lists. -/
def snapshotDatabase : Text := "main"

def objectNames (s : SchemaSnapshot) : SchemaObject → List Text
  | .table => s.tableNames
  | .view => s.viewNames
  | .index => s.indexes

def objectLabel : SchemaObject → Text
  | .table => "table"
  | .view => "view"
  | .index => "index"

def objects (s : SchemaSnapshot) (kind : SchemaObject) : List Proposal :=
  (objectNames s kind).map
    (fun n => ⟨.table, n, escapeName n, .schema, true, some (objectLabel kind)⟩)

def tables (s : SchemaSnapshot) (schema : Option Text) (kinds : List SchemaObject) :
    List Proposal :=
  if schema.all (fun name => name.lower == snapshotDatabase) then kinds.flatMap (objects s) else []

/-- Two aliases of one table both contribute its columns. -/
def columns (s : SchemaSnapshot) (scope : List TableRef) : List Proposal :=
  scope.flatMap (fun r => (s.columns r.name).map
    (fun c => ⟨.column, c, escapeName c, .scope, true, some r.label⟩))

def aliases (refs : List TableRef) : List Proposal :=
  refs.filterMap (fun r => r.aliasName.map
    (fun a => ⟨.aliasName, a, escapeName a, .scope, true, some r.name⟩))

/-- The built-in functions, then those that only the connection knows. -/
def functions (s : Option SchemaSnapshot) : List Proposal :=
  Words.functions.map (fun n => ⟨.function, n, n, .builtinFunction, false, none⟩)
    ++ ((s.elim [] SchemaSnapshot.functions).filter (fun n => !Words.isBuiltinFunction n)).map
      (fun n => ⟨.function, n, n, .schema, true, some "user"⟩)

def pragmas (s : SchemaSnapshot) (schema : Option Text) : List Proposal :=
  if schema.all s.knowsDatabase then
    s.pragmas.map (fun n => ⟨.pragma, n, n, .schema, true, none⟩)
  else []

def commands (v : Vocabulary) : List Proposal :=
  v.entries.map (fun (c, spec) => ⟨.special, c, c, .keyword, false, some spec.description⟩)

/-- The proposals of one suggestion. Without a snapshot the schema has nothing to offer. -/
def ofSuggestion (s : Option SchemaSnapshot) (v : Vocabulary) : Suggestion → List Proposal
  | .keyword .statement => keywords Words.statements
  | .keyword .all => keywords Words.keywords
  | .table schema kinds => s.elim [] (tables · schema kinds)
  | .column scope => s.elim [] (columns · scope)
  | .aliasName refs => aliases refs
  | .function => functions s
  | .pragma schema => s.elim [] (pragmas · schema)
  | .special none => commands v
  | .special (some _) => []
  | .literal => []
  | .anything => keywords Words.keywords

def ofSuggestions (s : Option SchemaSnapshot) (v : Vocabulary) (suggestions : List Suggestion) :
    List Proposal :=
  suggestions.flatMap (ofSuggestion s v)

end Proposal

end SqlShell
