import SqlShell.Statement.Basic

namespace SqlShell

inductive StatementKind where
  | select | insert | update | delete | common | create | alter | drop | pragma | attach | detach
  | special | other | unknown
  deriving DecidableEq, Repr

namespace StatementKind

def ofKeyword : Keyword → StatementKind
  | .SELECT | .VALUES => select
  | .INSERT | .REPLACE => insert
  | .UPDATE => update
  | .DELETE => delete
  | .WITH => common
  | .CREATE => create
  | .ALTER => alter
  | .DROP => drop
  | .PRAGMA => pragma
  | .ATTACH => attach
  | .DETACH => detach
  | _ => other

def name : StatementKind → String
  | select => "SELECT"
  | insert => "INSERT"
  | update => "UPDATE"
  | delete => "DELETE"
  | common => "WITH"
  | create => "CREATE"
  | alter => "ALTER"
  | drop => "DROP"
  | pragma => "PRAGMA"
  | attach => "ATTACH"
  | detach => "DETACH"
  | special => "SPECIAL"
  | other => "OTHER"
  | unknown => "UNKNOWN"

/-- Changes what tables, views and indexes there are, or where they are found. -/
def altersSchema : StatementKind → Bool
  | create | alter | drop | attach | detach => true
  | _ => false

end StatementKind

namespace Statement

def kind (s : Statement) : StatementKind :=
  match s.leading? with
  | none => .unknown
  | some t =>
    if t.isMark '.' || t.isMark '\\' then .special
    else (t.keyword?.map StatementKind.ofKeyword).getD .other

def altersSchema (s : Statement) : Bool := s.kind.altersSchema

/-- Drops an object, or deletes or updates without any WHERE. -/
def isDestructive (s : Statement) : Bool :=
  match s.kind with
  | .drop => true
  | .delete | .update => !s.tokens.any (·.isKeyword .WHERE)
  | _ => false

end Statement

def isDestructive (sql : Text) : Bool := (executableStatements sql).any Statement.isDestructive

end SqlShell
