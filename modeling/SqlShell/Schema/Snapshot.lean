import SqlShell.OrderedMap
import SqlShell.Text.Case

namespace SqlShell

/-- A span of time or a moment, counted in milliseconds. -/
abbrev Millis := Float

structure SchemaSnapshot where
  /-- Columns in order, by table. -/
  tables : OrderedMap Text (List Text)
  views : OrderedMap Text (List Text)
  indexes : List Text
  pragmas : List Text
  functions : List Text
  databases : List Text
  refreshedAt : Millis

namespace SchemaSnapshot

/-- A later entry of a table or view replaces the columns of an earlier one; other names are
kept once each. -/
def ofLists (tables views : List (Text × List Text))
    (indexes pragmas functions databases : List Text) (refreshedAt : Millis) : SchemaSnapshot :=
  { tables := .ofList tables
    views := .ofList views
    indexes := indexes.eraseDups
    pragmas := pragmas.eraseDups
    functions := functions.eraseDups
    databases
    refreshedAt }

def tableNames (s : SchemaSnapshot) : List Text := s.tables.keys

def viewNames (s : SchemaSnapshot) : List Text := s.views.keys

/-- Tables stand after views, so that a table wins over a view of its name. -/
def relations (s : SchemaSnapshot) : List (Text × List Text) := s.views.entries ++ s.tables.entries

/-- The columns of the last relation with this name in any letter case; none if there is none. -/
def columns (s : SchemaSnapshot) (name : Text) : List Text :=
  let key := name.lower
  ((s.relations.reverse.find? (fun r => r.1.lower == key)).map Prod.snd).getD []

def knowsDatabase (s : SchemaSnapshot) (name : Text) : Bool :=
  let key := name.lower
  s.databases.any (fun d => d.lower == key)

end SchemaSnapshot

end SqlShell
