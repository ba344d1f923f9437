import SqlShell.Text.Basic

namespace SqlShell.Utf8

def replacement : Nat := 0xFFFD

/-- How many bytes follow a first byte, and between which bounds the next of them lies. -/
def continuation? (b : UInt8) : Option (Nat × UInt8 × UInt8) :=
  if 0xC2 ≤ b && b ≤ 0xDF then some (1, 0x80, 0xBF)
  else if b == 0xE0 then some (2, 0xA0, 0xBF)
  else if b == 0xED then some (2, 0x80, 0x9F)
  else if 0xE1 ≤ b && b ≤ 0xEF then some (2, 0x80, 0xBF)
  else if b == 0xF0 then some (3, 0x90, 0xBF)
  else if 0xF1 ≤ b && b ≤ 0xF3 then some (3, 0x80, 0xBF)
  else if b == 0xF4 then some (3, 0x80, 0x8F)
  else none

/-- The bits of the code point in its first byte. -/
def leadBits (b : UInt8) (following : Nat) : Nat := b.toNat % Nat.pow 2 (6 - following)

/-- A code point that has begun: the bits so far, how many bytes are missing, and the bounds of the
next one. -/
structure Pending where
  bits : Nat
  missing : Nat
  lo : UInt8
  hi : UInt8

/-- What a byte begins: nothing it completes, or a code point. -/
def begin (b : UInt8) : List Nat × Option Pending :=
  if b < 0x80 then ([b.toNat], none)
  else match continuation? b with
    | some (n, lo, hi) => ([], some ⟨leadBits b n, n, lo, hi⟩)
    | none => ([replacement], none)

def pointsFrom (pending : Option Pending) : List UInt8 → List Nat
  | [] => if pending.isSome then [replacement] else []
  | b :: rest =>
    match pending with
    | none =>
      let (done, next) := begin b
      done ++ pointsFrom next rest
    | some p =>
      if p.lo ≤ b && b ≤ p.hi then
        let bits := p.bits * 64 + b.toNat % 64
        if p.missing = 1 then bits :: pointsFrom none rest
        else pointsFrom (some ⟨bits, p.missing - 1, 0x80, 0xBF⟩) rest
      else
        let (done, next) := begin b
        replacement :: done ++ pointsFrom next rest

def decode (bytes : List UInt8) : Text := Text.ofPoints (pointsFrom none bytes)

end SqlShell.Utf8
