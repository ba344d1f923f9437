import SqlShell.Number.Decimal
import SqlShell.Text.Blank
import SqlShell.Toml.Basic

namespace SqlShell.Toml

/-- Digits of which two neighbours may have one underscore between them, without it. -/
def plainDigits? (isDigit : CodeUnit → Bool) (t : Text) : Option Text :=
  let (first, rest) := Text.splitOn (unit '_') t
  if (first :: rest).all (fun part => !part.isEmpty && part.all isDigit) then
    some (Text.concat (first :: rest))
  else none

def digitValue (u : CodeUnit) : Nat :=
  if u.isDigit then u.toNat - '0'.toNat
  else if unit 'a' ≤ u then u.toNat - 'a'.toNat + 10
  else u.toNat - 'A'.toNat + 10

def numeral (base : Nat) (digits : Text) : Nat :=
  digits.foldl (fun n u => n * base + digitValue u) 0

/-- Whether a sign leads, and which; the rest of the text. -/
def sign : Text → Option Bool × Text
  | u :: rest =>
    if u = unit '-' then (some true, rest)
    else if u = unit '+' then (some false, rest)
    else (none, u :: rest)
  | [] => (none, [])

/-- A zero that is followed by another digit. -/
def hasLeadingZero : Text → Bool
  | z :: u :: _ => z == unit '0' && (u.isDigit || u == unit '_')
  | _ => false

/-- The numeral behind a mark such as `0x`. -/
def marked? (t : Text) : Option Nat :=
  match t with
  | z :: m :: digits =>
    if z != unit '0' then none
    else if m = unit 'x' then (plainDigits? CodeUnit.isHexDigit digits).map (numeral 16)
    else if m = unit 'o' then
      (plainDigits? (fun u => u.isDigit && u < unit '8') digits).map (numeral 8)
    else if m = unit 'b' then
      (plainDigits? (fun u => u.isDigit && u < unit '2') digits).map (numeral 2)
    else none
  | _ => none

/-- Larger whole numbers cannot be told apart once they are doubles. -/
def largestInteger : Nat := Nat.pow 2 53 - 1

def bounded (n : Int) : Option Toml := if n.natAbs ≤ largestInteger then some (integer n) else none

def integer? (t : Text) : Option Toml :=
  match marked? t with
  | some n => bounded n
  | none =>
    let (negative, digits) := sign t
    if hasLeadingZero digits then none
    else match plainDigits? CodeUnit.isDigit digits with
      | some digits =>
        let n : Int := numeral 10 digits
        bounded (if negative = some true then -n else n)
      | none => none

/-- The two sides of the first unit that satisfies `p`; the right one is missing without it. -/
def cut (p : CodeUnit → Bool) (t : Text) : Text × Option Text :=
  (t.takeWhile (fun u => !p u), (t.dropWhile (fun u => !p u)).tail?)

/-- An exponent with its sign; zero if there is none. -/
def exponent? : Option Text → Option Int
  | none => some 0
  | some t =>
    let (negative, digits) := sign t
    (plainDigits? CodeUnit.isDigit digits).map (fun digits =>
      let n : Int := numeral 10 digits
      if negative = some true then -n else n)

/-- The digits behind the point; none if there is no point. -/
def fraction? : Option Text → Option Text
  | none => some []
  | some t => plainDigits? CodeUnit.isDigit t

def float? (t : Text) : Option Toml :=
  let (negative, body) := sign t
  let (significand, power) := cut (fun u => u == unit 'e' || u == unit 'E') body
  let (whole, fraction) := cut (· == unit '.') significand
  if hasLeadingZero body then none
  else match plainDigits? CodeUnit.isDigit whole, fraction? fraction, exponent? power with
    | some whole, some fraction, some power =>
      let x := Number.ofDecimal (numeral 10 (whole ++ fraction)) (power - fraction.length)
      some (float (if negative = some true then -x else x))
    | _, _, _ => none

/-- A numeral of exactly `count` digits between two bounds, and the rest of the text. -/
def field? (count lo hi : Nat) (t : Text) : Option Text :=
  let digits := t.take count
  let n := numeral 10 digits
  if digits.length = count && digits.all CodeUnit.isDigit && lo ≤ n && n ≤ hi then
    some (t.drop count)
  else none

def mark? (c : Char) : Text → Option Text
  | u :: rest => if u = unit c then some rest else none
  | [] => none

def dateEnd? (t : Text) : Option Text := do
  let t ← field? 4 0 9999 t
  let t ← mark? '-' t
  let t ← field? 2 1 12 t
  let t ← mark? '-' t
  field? 2 1 31 t

/-- Digits of a second behind its point. -/
def secondFraction? : Text → Option Text
  | u :: rest =>
    if u = unit '.' then
      if (rest.takeWhile CodeUnit.isDigit).isEmpty then none
      else some (rest.dropWhile CodeUnit.isDigit)
    else some (u :: rest)
  | [] => some []

def timeEnd? (t : Text) : Option Text := do
  let t ← field? 2 0 23 t
  let t ← mark? ':' t
  let t ← field? 2 0 59 t
  let t ← mark? ':' t
  let t ← field? 2 0 59 t
  secondFraction? t

/-- The distance to universal time, if one is written; nothing may follow. -/
def isOffset : Text → Bool
  | [] => true
  | u :: rest =>
    if u = unit 'Z' || u = unit 'z' then rest.isEmpty
    else if u = unit '+' || u = unit '-' then
      (do
        let t ← field? 2 0 23 rest
        let t ← mark? ':' t
        field? 2 0 59 t) == some []
    else false

/-- What may stand behind a date. -/
def isDateTail : Text → Bool
  | [] => true
  | u :: rest =>
    (u == unit 'T' || u == unit 't' || u == unit ' ') && (timeEnd? rest).any isOffset

/-- A time without a date has no distance to universal time. -/
def isMoment (t : Text) : Bool := (dateEnd? t).any isDateTail || timeEnd? t == some []

def word? (t : Text) : Option Toml :=
  if t = "true" then some (truth true)
  else if t = "false" then some (truth false)
  else if t = "inf" || t = "+inf" then some (float (1 / 0))
  else if t = "-inf" then some (float (-1 / 0))
  else if t = "nan" || t = "+nan" || t = "-nan" then some (float (0 / 0))
  else none

/-- The value that an unquoted text stands for. Digits alone are a whole number, in range or not. -/
def scalar? (t : Text) : Option Toml :=
  match word? t with
  | some v => some v
  | none =>
    let (_, digits) := sign t
    if (marked? t).isSome || (plainDigits? CodeUnit.isDigit digits).isSome then integer? t
    else match float? t with
      | some v => some v
      | none => if isMoment t then some moment else none

end SqlShell.Toml
