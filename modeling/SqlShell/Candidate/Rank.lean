import SqlShell.Candidate.Basic

namespace SqlShell

namespace Candidate.Match

/-- How a name matches a typed word, letter case aside. -/
def of? (name typed : Text) : Option Candidate.Match :=
  if typed.isEmpty then some untyped
  else if typed.lower.startsWith name.lower then some front
  else if typed.lower.includes name.lower then some inside
  else none

/-- Wider apart than the bonus of any source. -/
def tier : Candidate.Match → Nat
  | front => 20000
  | inside => 10000
  | untyped => 0

end Candidate.Match

def Proposal.Source.bonus : Proposal.Source → Nat
  | scope => 400
  | schema => 300
  | builtinFunction => 200
  | keyword => 100

/-- Writes a keyword in the wanted letter case; a last typed unit that differs from its capital
form asks for small letters. -/
def KeywordCasing.apply (casing : KeywordCasing) (typed text : Text) : Text :=
  match casing with
  | upper => text.upper
  | lower => text.lower
  | auto =>
    let last : Text := typed.drop (typed.length - 1)
    if last.upper != last then text.lower else text.upper

namespace Proposal

def accepts (p : Proposal) (substrings : Bool) : Candidate.Match → Bool
  | .inside => substrings && p.fuzzy
  | _ => true

/-- How a proposal matches the typed word, if it is to be offered at all. -/
def match? (p : Proposal) (typed : Text) (substrings : Bool) : Option Candidate.Match :=
  (Candidate.Match.of? p.name typed).filter (p.accepts substrings)

def score (p : Proposal) (m : Candidate.Match) : Nat := m.tier + p.source.bonus

/-- Keywords and built-in functions are written as the user writes keywords. -/
def followsCasing (p : Proposal) : Bool :=
  p.kind == .keyword || (p.kind == .function && p.source == .builtinFunction)

def candidate (p : Proposal) (casing : KeywordCasing) (typed : Text) (m : Candidate.Match) :
    Candidate :=
  { text := if p.followsCasing then casing.apply typed p.text else p.text
    kind := p.kind
    priority := p.score m
    matched := m
    detail := p.detail }

end Proposal

/-- A candidate with the name that orders it. -/
structure Ranked where
  key : Text
  candidate : Candidate

/-- Higher priority first, then by name, then by text. -/
def Ranked.le (a b : Ranked) : Bool :=
  if a.candidate.priority != b.candidate.priority then
    b.candidate.priority < a.candidate.priority
  else if a.key != b.key then a.key.before b.key
  else !b.candidate.text.before a.candidate.text

/-- Keeps the first item of each key. -/
def distinctBy [BEq κ] (key : α → κ) : List α → List α
  | [] => []
  | a :: rest => a :: (distinctBy key rest).filter (fun b => !(key b == key a))

namespace Candidate

/-- What makes two candidates the same offer. -/
def identity (c : Candidate) : Text × Candidate.Kind := (c.text, c.kind)

def ranked (casing : KeywordCasing) (substrings : Bool) (typed : Text) (proposals : List Proposal) :
    List Ranked :=
  proposals.filterMap (fun p => (p.match? typed substrings).map
    (fun m => ⟨p.name.lower, p.candidate casing typed m⟩))

/-- The candidates for a typed word, in the order in which they are offered. -/
def rank (casing : KeywordCasing) (substrings : Bool) (typed : Text) (proposals : List Proposal) :
    List Candidate :=
  distinctBy identity (((ranked casing substrings typed proposals).mergeSort Ranked.le).map
    Ranked.candidate)

end Candidate

end SqlShell
