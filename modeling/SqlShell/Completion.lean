import SqlShell.Candidate.Generate
import SqlShell.Candidate.Rank
import SqlShell.Context.Classify
import SqlShell.Number.Decimal

namespace SqlShell

/-- A cursor as a caller gives it, who may be wrong. -/
inductive Cursor where
  | offset (n : Int)
  /-- Between units, or nowhere. -/
  | elsewhere (x : Float)

namespace Cursor

/-- Beyond 2^53 doubles no longer tell neighbouring offsets apart. -/
def ofFloat (x : Float) : Cursor :=
  match (Binary.ofFloat x).integer? with
  | some n => if n.natAbs ≤ Nat.pow 2 53 then offset n else elsewhere x
  | none => elsewhere x

def text : Cursor → Text
  | offset n => Text.ofInt n
  | elsewhere x => Number.text x

end Cursor

/-- Mistakes of a caller. No SQL text is one. -/
inductive CompletionError where
  | outOfRange (cursor : Cursor) (length : Nat)
  | noSchema

namespace CompletionError

def message : CompletionError → Text
  | outOfRange cursor length =>
    .concat ["Cursor position ", cursor.text, " is outside [0, ", .ofNat length, "]"]
  | noSchema => "Schema metadata is not loaded"

end CompletionError

/-- What a caller asks for; each part that is left out takes its default. -/
structure CompletionOptions where
  casing : Option KeywordCasing := none
  substrings : Option Bool := none
  timing : Option Bool := none
  vocabulary : Option Vocabulary := none

namespace CompletionOptions

/-- The options of `o`, completed by those of `defaults`. -/
def orElse (o defaults : CompletionOptions) : CompletionOptions :=
  { casing := o.casing.or defaults.casing
    substrings := o.substrings.or defaults.substrings
    timing := o.timing.or defaults.timing
    vocabulary := o.vocabulary.or defaults.vocabulary }

def casingOrDefault (o : CompletionOptions) : KeywordCasing := o.casing.getD .upper

def substringsOrDefault (o : CompletionOptions) : Bool := o.substrings.getD true

def vocabularyOrEmpty (o : CompletionOptions) : Vocabulary := o.vocabulary.getD .empty

end CompletionOptions

/-- Time spent on each part of a completion. -/
structure Timing where
  tokenize : Millis
  split : Millis
  classify : Millis
  rank : Millis
  total : Millis

/-- From the readings of a clock at the start, around each part, and at the end. -/
def Timing.ofReadings (reading : Nat → Millis) : Timing :=
  { tokenize := reading 2 - reading 1
    split := reading 4 - reading 3
    classify := reading 6 - reading 5
    rank := reading 8 - reading 7
    total := reading 9 - reading 0 }

structure Completion where
  candidates : List Candidate
  context : Context
  statement : Statement
  timing : Option Timing

namespace Completion

/-- The candidates of suggestions. Suggestions that read the schema need a snapshot; an empty one
will do. -/
def candidatesFor (suggestions : List Suggestion) (typed : Text) (schema : Option SchemaSnapshot)
    (options : CompletionOptions) : Except CompletionError (List Candidate) :=
  if schema.isNone && suggestions.any Suggestion.readsSchema then .error .noSchema
  else .ok (Candidate.rank options.casingOrDefault options.substringsOrDefault typed
    (Proposal.ofSuggestions schema options.vocabularyOrEmpty suggestions))

/-- The completion at an offset that lies in the text. -/
def atOffset (sql : Text) (offset : Nat) (schema : Option SchemaSnapshot)
    (options : CompletionOptions) (reading : Nat → Millis) : Except CompletionError Completion :=
  let statement := statementAt sql offset
  let context := classify statement offset options.vocabularyOrEmpty
  (candidatesFor context.suggestions context.word.text schema options).map (fun candidates =>
    { candidates, context, statement
      timing := if options.timing.getD false then some (.ofReadings reading) else none })

/-- The completion at a cursor, with the readings of a clock taken on the way. -/
def run (sql : Text) (cursor : Cursor) (schema : Option SchemaSnapshot)
    (options : CompletionOptions) (reading : Nat → Millis) : Except CompletionError Completion :=
  match cursor with
  | .offset (.ofNat n) =>
    if n ≤ sql.length then atOffset sql n schema options reading
    else .error (.outOfRange cursor sql.length)
  | _ => .error (.outOfRange cursor sql.length)

end Completion

end SqlShell
