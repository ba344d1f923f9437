import SqlShell.Token.Scan
import SqlShell.Words

namespace SqlShell

/-- Undoes the doubling of a mark, pair by pair from the front. -/
def undouble (mark : CodeUnit) : Text → Text
  | u :: v :: rest =>
    if u = mark && v = mark then mark :: undouble mark rest else u :: undouble mark (v :: rest)
  | t => t

def double (mark : CodeUnit) (t : Text) : Text :=
  t.flatMap (fun u => if u = mark then [mark, mark] else [u])

/-- The name that a word stands for. A missing closing mark is tolerated. -/
def unquote : Text → Text
  | [] => []
  | u :: body =>
    match closingQuote? u with
    | none => u :: body
    | some closer =>
      let inner := if body.getLast? = some closer then body.dropLast else body
      if isDoubling closer then undouble closer inner else inner

def isPlainName : Text → Bool
  | [] => false
  | u :: rest =>
    (u.isPlainLetter || u == unit '_') && rest.all (fun v => v.isPlainWord || v == unit '$')

/-- A word that stands for the name: the name itself if it is plain and no keyword. -/
def escapeName (name : Text) : Text :=
  if isPlainName name && !Words.isReserved name then name
  else unit '\x22' :: double (unit '\x22') name ++ [unit '\x22']

end SqlShell
