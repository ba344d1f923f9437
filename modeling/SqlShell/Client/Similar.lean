import SqlShell.Text.Basic

namespace SqlShell.Similar

/-- The last row of a table of distances that is read from left to right. `above` and `twoAbove`
are the rows before it with their units, `u` is the unit of this row and `previous` that of the row
above. -/
def row (u : CodeUnit) (previous : Option CodeUnit) :
    (left corner : Nat) → (lastUnit : Option CodeUnit) → (cornerAbove : Option Nat) →
    (word : Text) → (above twoAbove : List Nat) → List Nat
  | left, corner, lastUnit, cornerAbove, v :: word, up :: above, twoAbove =>
    let replaced := corner + if u = v then 0 else 1
    let edited := min (min (up + 1) (left + 1)) replaced
    let exchanged :=
      match cornerAbove with
      | some c => if lastUnit = some u && previous = some v then min edited (c + 1) else edited
      | none => edited
    exchanged :: row u previous exchanged up (some v) twoAbove.head? word above twoAbove.tail
  | _, _, _, _, _, _, _ => []

/-- The distances of every beginning of `word` from the units read so far. -/
def rows (word : Text) : Text → (previous : Option CodeUnit) → (n : Nat) →
    (above twoAbove : List Nat) → List Nat
  | [], _, _, above, _ => above
  | u :: rest, previous, n, above, twoAbove =>
    let next := (n + 1) ::
      row u previous (n + 1) (above.headD 0) none none word above.tail twoAbove
    rows word rest (some u) (n + 1) next above

def distance (a b : Text) : Nat :=
  (rows b a none 0 (List.range (b.length + 1)) []).getLastD 0

/-- More edits than this make no likeness. -/
def limit : Nat := 3

/-- Words whose lengths differ by more than the limit are not compared. -/
def boundedDistance (a b : Text) : Nat :=
  if limit < a.length - b.length + (b.length - a.length) then max a.length b.length
  else distance a b

/-- More than two fifths of the longer word have to be left alone. -/
def isLike (a b : Text) : Bool :=
  let length := max a.length b.length
  1 < b.length && 2 * length < 5 * (length - boundedDistance a b)
    && boundedDistance a b ≤ limit

/-- The candidates nearest to a word, in the order of their texts. -/
def suggestions (word : Text) (candidates : List Text) : List Text :=
  let like := candidates.filter (isLike word)
  let best := (like.map (boundedDistance word)).min?.getD 0
  (like.filter (fun c => boundedDistance word c == best)).mergeSort (fun a b => !b.before a)

end SqlShell.Similar
