import SqlShell.Number.Binary
import SqlShell.Text.Basic

namespace SqlShell.Number

/-- `digits * 10 ^ exponent`. -/
structure Decimal where
  digits : Nat
  exponent : Int
  deriving Repr, DecidableEq

def digitCount (n : Nat) : Nat := (Nat.toDigits 10 n).length

/-- So many decimal places that one unit in the last is no more than `2 ^ q`. -/
def places (q : Int) : Nat := (-q).toNat / 3 + 1

/-- The least `e` with `m * 2 ^ q < 10 ^ e`, for a positive double. -/
def magnitude (m : Nat) (q : Int) : Int :=
  digitCount (m * power 2 q * power 10 (places q) / power 2 (-q)) - places q

/-- Quarters of a unit in the last place, relative to which the ends of the interval of reals
that round to a double are whole. -/
structure Interval where
  low : Nat
  value : Nat
  high : Nat
  closed : Bool

/-- Below a power of two the neighbouring double is only half as far away. -/
def interval (m : Nat) (q : Int) : Interval :=
  let low := if m = Nat.pow 2 52 && q != -1074 then 4 * m - 1 else 4 * m - 2
  ⟨low, 4 * m, 4 * m + 2, m % 2 == 0⟩

/-- The multiple of `10 ^ j` that lies in the interval of `m * 2 ^ q`; of two the nearer, of two
equally near the even one. -/
def nearest? (m : Nat) (q j : Int) : Option Decimal :=
  let iv := interval m q
  let left := power 10 j * power 2 (2 - q)
  let right := power 2 (q - 2) * power 10 (-j)
  let below := iv.value * right / left
  let inside (n : Nat) : Bool :=
    if iv.closed then iv.low * right ≤ n * left && n * left ≤ iv.high * right
    else iv.low * right < n * left && n * left < iv.high * right
  let gapBelow := iv.value * right - below * left
  let gapAbove := (below + 1) * left - iv.value * right
  let takeBelow := gapBelow < gapAbove || (gapBelow == gapAbove && below % 2 == 0)
  match inside below, inside (below + 1) with
  | true, true => some ⟨if takeBelow then below else below + 1, j⟩
  | true, false => some ⟨below, j⟩
  | false, true => some ⟨below + 1, j⟩
  | false, false => none

/-- Seventeen digits tell any two doubles apart. -/
def shortest (m : Nat) (q : Int) : Decimal :=
  let e := magnitude m q
  ((List.range 17).findSome? (fun (k : Nat) => nearest? m q (e - (k + 1)))).getD ⟨m * power 2 q, 0⟩

/-- The digits without trailing zeros, and the place of the point counted from their front. -/
def Decimal.layout (d : Decimal) : Text × Int :=
  let digits := Text.ofNat d.digits
  let kept := (digits.reverse.dropWhile (· == unit '0')).reverse
  (kept, digits.length + d.exponent)

/-- Positional notation is kept while the point stands within these many places. -/
def positionalLimit : Nat := 21

def leadingZeroLimit : Nat := 6

def zeros (n : Nat) : Text := List.replicate n (unit '0')

def write (digits : Text) (point : Int) : Text :=
  let count : Int := digits.length
  if count ≤ point && point ≤ positionalLimit then digits ++ zeros (point - count).toNat
  else if 0 < point && point ≤ positionalLimit then
    digits.take point.toNat ++ unit '.' :: digits.drop point.toNat
  else if -leadingZeroLimit < point && point ≤ 0 then
    Text.ofString "0." ++ zeros (-point).toNat ++ digits
  else
    let e := point - 1
    let sign := if e < 0 then unit '-' else unit '+'
    let fraction := if digits.length ≤ 1 then [] else unit '.' :: digits.drop 1
    digits.take 1 ++ fraction ++ [unit 'e', sign] ++ Text.ofNat e.natAbs

def withSign (negative : Bool) (t : Text) : Text := if negative then unit '-' :: t else t

/-- Zero has no sign. -/
def text (x : Float) : Text :=
  match Binary.ofFloat x with
  | .nan => "NaN"
  | .infinite negative => withSign negative "Infinity"
  | .finite negative m q =>
    if m = 0 then "0"
    else
      let (digits, point) := (shortest m q).layout
      withSign negative (write digits point)

/-- The quotient rounded to the nearest whole number, a half upwards. -/
def roundHalfUp (numerator denominator : Nat) : Nat :=
  (2 * numerator + denominator) / (2 * denominator)

/-- `places` digits after the point; from 10^21 on the shortest text instead. -/
def fixed (places : Nat) (x : Float) : Text :=
  match Binary.ofFloat x with
  | .finite negative m q =>
    if magnitude m q > positionalLimit then text x
    else
      let n := roundHalfUp (m * power 2 q * power 10 places) (power 2 (-q))
      let whole := Text.ofNat (n / power 10 places)
      let fraction := Text.ofNat (n % power 10 places)
      withSign (negative && m != 0)
        (whole ++ unit '.' :: (zeros (places - fraction.length) ++ fraction))
  | _ => text x

/-- The double nearest to `digits * 10 ^ exponent`. -/
def ofDecimal (digits : Nat) (exponent : Int) : Float :=
  let places : Int := digitCount digits + exponent
  if digits = 0 then 0
  else if 310 < places then 1 / 0
  else if places < -400 then 0
  else .ofScientific digits (exponent < 0) exponent.natAbs

end SqlShell.Number
