import SqlShell.Number.Decimal
import SqlShell.Schema.Snapshot
import SqlShell.Text.Blank

namespace SqlShell

structure QueryResult where
  /-- The text of the statement without the blanks around it. -/
  statement : Text
  columns : List Text := []
  rows : List (List Text) := []
  rowCount : Nat := 0
  status : Text := []
  elapsed : Millis := 0
  /-- Empty if the statement succeeded. -/
  error : Text := []
  cancelled : Bool := false
  /-- Whether the session is to end. -/
  exit : Bool := false

/-- A count of rows in words. -/
def rowsInWords (n : Nat) : Text :=
  .concat [.ofNat n, if n = 1 then " row" else " rows"]

/-- The status of a result that has rows. -/
def rowsInSet (n : Nat) : Text := .concat [rowsInWords n, " in set"]

/-- The status of a statement that changes rows. -/
def rowsAffected (n : Nat) : Text := .concat ["Query OK, ", rowsInWords n, " affected"]

namespace QueryResult

def failed (statement : Text) (elapsed : Millis) (error : Text) : QueryResult :=
  { statement, elapsed, error }

def stopped (statement : Text) (elapsed : Millis) : QueryResult :=
  { statement, elapsed, status := "Cancelled", cancelled := true }

def tabbed (cells : List Text) : Text := Text.join [unit '\t'] cells

/-- The header and the rows, the status, and how long it took if that is asked for. -/
def lines (r : QueryResult) (timing : Bool) : List Text :=
  (if r.columns.isEmpty then [] else tabbed r.columns :: r.rows.map tabbed)
    ++ (if r.status.isEmpty then [] else [r.status])
    ++ (if timing then [.concat ["Time: ", Number.fixed 3 (r.elapsed / 1000), "s"]] else [])

end QueryResult

end SqlShell
