
namespace SqlShell

/-- An exponent below zero counts as zero. -/
def Number.power (base : Nat) (exponent : Int) : Nat := base.pow exponent.toNat

inductive Binary where
  | nan
  | infinite (negative : Bool)
  /-- The value is `mantissa * 2 ^ exponent`, negated if `negative` holds. -/
  | finite (negative : Bool) (mantissa : Nat) (exponent : Int)
  deriving Repr, DecidableEq

namespace Binary

def ofFloat (x : Float) : Binary :=
  let bits := x.toBits.toNat
  let negative := bits / Nat.pow 2 63 == 1
  let field : Nat := bits / Nat.pow 2 52 % Nat.pow 2 11
  let fraction : Nat := bits % Nat.pow 2 52
  if field = 2047 then if fraction = 0 then infinite negative else nan
  else if field = 0 then finite negative fraction (-1074)
  else finite negative (Nat.pow 2 52 + fraction) ((field : Int) - 1075)

/-- The whole number a finite double is, if it is one. -/
def integer? : Binary → Option Int
  | finite negative m q =>
    let numerator := m * Number.power 2 q
    let denominator := Number.power 2 (-q)
    let magnitude :=
      if numerator % denominator = 0 then some (numerator / denominator) else none
    magnitude.map (fun n => if negative then -(n : Int) else n)
  | _ => none

end Binary

end SqlShell
