import SqlShell.TableRef
import SqlShell.Statement.Kind
import SqlShell.OrderedMap

namespace SqlShell

inductive SchemaObject where
  | table | view | index
  deriving DecidableEq, Repr

inductive KeywordSet where
  /-- Keywords that begin a statement. -/
  | statement
  | all
  deriving DecidableEq, Repr

inductive Suggestion where
  | keyword (set : KeywordSet)
  | table (schema : Option Text) (objects : List SchemaObject)
  | column (scope : List TableRef)
  | aliasName (refs : List TableRef)
  | function
  | pragma (schema : Option Text)
  /-- A command of the client itself; its arguments if the command is already written. -/
  | special (command : Option Text)
  /-- Inside a string or comment. -/
  | literal
  /-- Nothing is known about this place. -/
  | anything
  deriving DecidableEq, Repr

inductive Suggestion.Kind where
  | keyword | table | column | aliasName | function | pragma | special | unknown
  deriving DecidableEq, Repr

def Suggestion.kind : Suggestion → Suggestion.Kind
  | keyword _ => .keyword
  | table _ _ => .table
  | column _ => .column
  | aliasName _ => .aliasName
  | function => .function
  | pragma _ => .pragma
  | special _ => .special
  | literal | anything => .unknown

/-- The name typed so far, without quotes, and the stretch of text that holds it. -/
structure PartialWord where
  text : Text
  start : Int
  stop : Int
  deriving DecidableEq, Repr

structure Context where
  primary : Suggestion
  others : List Suggestion
  word : PartialWord
  /-- The name before the point of a qualified word. -/
  qualifier : Option Text
  statementKind : StatementKind
  deriving DecidableEq, Repr

def Context.suggestions (c : Context) : List Suggestion := c.primary :: c.others

def Context.kind (c : Context) : Suggestion.Kind := c.primary.kind

/-- What the argument of a command of the client is. -/
inductive ArgumentKind where
  | none | table | view | index | text
  deriving DecidableEq, Repr

structure CommandSpec where
  name : Text
  argument : ArgumentKind
  description : Text
  deriving DecidableEq, Repr

/-- The written forms of commands of the client. -/
abbrev Vocabulary := OrderedMap Text CommandSpec

end SqlShell
