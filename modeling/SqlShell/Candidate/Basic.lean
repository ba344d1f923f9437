import SqlShell.Text.Case

namespace SqlShell

inductive Candidate.Kind where
  | keyword | table | column | aliasName | function | pragma | special
  deriving DecidableEq, Repr

/-- Where a proposal comes from. -/
inductive Proposal.Source where
  /-- Columns and aliases of the tables of the statement. -/
  | scope
  | schema
  | builtinFunction
  | keyword
  deriving DecidableEq, Repr

structure Proposal where
  kind : Candidate.Kind
  /-- What the typed word is compared with. -/
  name : Text
  /-- What is inserted. -/
  text : Text
  source : Proposal.Source
  /-- Whether the typed word may stand inside the name. -/
  fuzzy : Bool
  detail : Option Text
  deriving DecidableEq, Repr

/-- How a name matches the typed word. -/
inductive Candidate.Match where
  | front
  | inside
  /-- Nothing has been typed. -/
  | untyped
  deriving DecidableEq, Repr

structure Candidate where
  text : Text
  kind : Candidate.Kind
  priority : Nat
  matched : Candidate.Match
  detail : Option Text
  deriving DecidableEq, Repr

inductive KeywordCasing where
  | upper
  | lower
  /-- As the last typed letter. -/
  | auto
  deriving DecidableEq, Repr

namespace KeywordCasing

def all : List KeywordCasing := [upper, lower, auto]

def name : KeywordCasing → Text
  | upper => "upper"
  | lower => "lower"
  | auto => "auto"

def ofName? (t : Text) : Option KeywordCasing := all.find? (fun c => c.name == t)

def names : Text := Text.join ", " (all.map name)

end KeywordCasing

end SqlShell
