import SqlShell.Number.Decimal
import SqlShell.Text.Utf8

namespace SqlShell

inductive Datum where
  | null
  /-- No value at all. -/
  | absent
  | number (x : Float)
  /-- Whole numbers that a double may not hold. -/
  | integer (n : Int)
  | text (t : Text)
  | blob (bytes : List UInt8)
  | truth (b : Bool)

namespace Datum

def hexDigit (n : Nat) : CodeUnit := unit ((Nat.digitChar n).toUpper)

def hex (bytes : List UInt8) : Text :=
  bytes.flatMap (fun b => [hexDigit (b.toNat / 16), hexDigit (b.toNat % 16)])

/-- The plain text of a value; a blob is read as UTF-8. -/
def plain : Datum → Text
  | null => "null"
  | absent => "undefined"
  | number x => Number.text x
  | integer n => Text.ofInt n
  | text t => t
  | blob bytes => Utf8.decode bytes
  | truth b => if b then "true" else "false"

/-- A value in a result: no value is NULL, a blob is written as a literal. -/
def display : Datum → Text
  | null | absent => "NULL"
  | blob bytes => .concat ["X'", hex bytes, "'"]
  | d => d.plain

/-- A value in the output of a command of the client. -/
def cell : Datum → Text
  | null => "NULL"
  | d => d.plain

end Datum

end SqlShell
