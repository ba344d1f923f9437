import SqlShell.Query.Result

namespace SqlShell

inductive Stream where
  | out | err
  deriving DecidableEq, Repr

/-- What the user does at the line editor. -/
inductive UserInput where
  | line (text : Text)
  /-- Several lines that arrive before any of them is looked at. -/
  | lines (texts : List Text)
  | interrupt
  | endOfInput
  /-- Asks to complete a line. -/
  | tab (line : Text)
  /-- Lets time pass. -/
  | wait (elapsed : Millis)

inductive Event where
  /-- A statement was handed to the database. -/
  | prepared (sql : Text)
  | bound (parameters : List Text)
  | opened (path : Text) (readOnly : Bool) (timeout : Millis)
  | disconnected
  | logged (stream : Stream) (line : Text)
  | printed (line : Text)
  | printedError (line : Text)
  | written (stream : Stream) (text : Text)
  | schemaChanged
  /-- A listener was told of a snapshot with so many tables. -/
  | published (tables : Nat)
  | result (r : QueryResult)
  | input (i : UserInput)
  /-- Texts that can take the place of the part of the line that is given last. -/
  | offered (texts : List Text) (typed : Text)
  | prompted (text : Text)
  | asked (text : Text)
  /-- The line editor was closed. -/
  | closed

end SqlShell
