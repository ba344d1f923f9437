
namespace SqlShell

/-- One 16-bit unit of a text. -/
abbrev CodeUnit := UInt16

abbrev Text := List CodeUnit

/-- The unit of a character of the basic plane. -/
def unit (c : Char) : CodeUnit := c.val.toUInt16

namespace Text

/-- The units of a code point: itself in the basic plane, a surrogate pair beyond it. -/
def ofPoint (n : Nat) : Text :=
  if n < 0x10000 then [n.toUInt16]
  else [(0xD800 + (n - 0x10000) / 0x400).toUInt16, (0xDC00 + (n - 0x10000) % 0x400).toUInt16]

def ofString (s : String) : Text := s.toList.flatMap (fun c => ofPoint c.toNat)

instance : Coe String Text := ⟨ofString⟩

def isHighSurrogate (u : CodeUnit) : Bool := 0xD800 ≤ u && u ≤ 0xDBFF

def isLowSurrogate (u : CodeUnit) : Bool := 0xDC00 ≤ u && u ≤ 0xDFFF

/-- The code points of a text; half of a pair that stands alone counts as one. -/
def points : Text → List Nat
  | [] => []
  | [u] => [u.toNat]
  | u :: v :: rest =>
    if isHighSurrogate u && isLowSurrogate v then
      (0x10000 + (u.toNat - 0xD800) * 0x400 + (v.toNat - 0xDC00)) :: points rest
    else u.toNat :: points (v :: rest)

def ofPoints (ns : List Nat) : Text := ns.flatMap ofPoint

def concat (parts : List Text) : Text := parts.flatten

def join (separator : Text) (parts : List Text) : Text := separator.intercalate parts

/-- Decimal digits without sign or padding. -/
def ofNat (n : Nat) : Text := ofString (toString n)

def ofInt : Int → Text
  | .ofNat n => ofNat n
  | .negSucc n => unit '-' :: ofNat (n + 1)

def startsWith (part t : Text) : Bool := part.isPrefixOf t

def includes (part : Text) : Text → Bool
  | [] => part.isEmpty
  | u :: rest => startsWith part (u :: rest) || includes part rest

/-- Order by unit, the shorter of two texts first when one begins with the other. -/
def before : Text → Text → Bool
  | _, [] => false
  | [], _ :: _ => true
  | u :: s, v :: t => if u = v then before s t else u < v

/-- The text cut at each `separator`, which belongs to no part; at least one part. -/
def splitOn (separator : CodeUnit) : Text → Text × List Text
  | [] => ([], [])
  | u :: rest =>
    let (part, parts) := splitOn separator rest
    if u = separator then ([], part :: parts) else (u :: part, parts)

/-- The first `n` items; a negative `n` leaves off that many at the end instead. -/
def firstItems (n : Int) (items : List α) : List α :=
  match n with
  | .ofNat n => items.take n
  | .negSucc n => items.take (items.length - (n + 1))

end Text

end SqlShell
