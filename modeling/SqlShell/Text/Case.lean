import SqlShell.Text.Letter
import SqlShell.Text.CaseTable

namespace SqlShell

def CaseRun.maps (r : CaseRun) (n : Nat) : Bool :=
  n ≤ r.last && (n - r.first) % r.step == 0

/-- The image of `n` under runs that rise by their first code point; `n` itself if none maps it. -/
def applyRuns (n : Nat) : List CaseRun → Nat
  | [] => n
  | r :: rest =>
    if n < r.first then n
    else if r.maps n then (n + r.change).toNat
    else applyRuns n rest

/-- The entry of `n` in a table that rises by its keys. -/
def expansion? (n : Nat) : List (Nat × List Nat) → Option (List Nat)
  | [] => none
  | (key, image) :: rest =>
    if n < key then none else if n = key then some image else expansion? n rest

namespace Text

def upperPoint (n : Nat) : List Nat :=
  (expansion? n upperExpansions).getD [applyRuns n upperRuns]

def lowerPoint (n : Nat) : List Nat :=
  (expansion? n lowerExpansions).getD [applyRuns n lowerRuns]

def upper (t : Text) : Text := ofPoints ((points t).flatMap upperPoint)

/-- Whether the nearest code point that is not skipped is a cased one. -/
def meetsCased : List Nat → Bool
  | [] => false
  | n :: rest =>
    if inRanges n caseIgnorableRanges then meetsCased rest else inRanges n casedRanges

/-- Small forms; `seen` holds the code points already passed, nearest first. -/
def lowerAfter (seen : List Nat) : List Nat → List Nat
  | [] => []
  | n :: rest =>
    let image :=
      if n = 0x3A3 then
        if meetsCased seen && !meetsCased rest then [0x3C2] else [0x3C3]
      else lowerPoint n
    image ++ lowerAfter (n :: seen) rest

def lower (t : Text) : Text := ofPoints (lowerAfter [] (points t))

end Text

end SqlShell
