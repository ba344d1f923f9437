import SqlShell.Token.Basic
import SqlShell.Text.Blank

namespace SqlShell

/-- The mark that ends an identifier quoted by this opening mark. -/
def closingQuote? (u : CodeUnit) : Option CodeUnit :=
  if u = unit '\x22' then some (unit '\x22')
  else if u = unit '\x60' then some (unit '\x60')
  else if u = unit '[' then some (unit ']')
  else none

/-- A closing mark that is doubled stands for itself; a square bracket cannot be doubled. -/
def isDoubling (closer : CodeUnit) : Bool := closer != unit ']'

namespace Lexeme

/-- How many units of a quoted body are taken, its closing mark included, and whether there is
such a mark. -/
def quotedRun (closer : CodeUnit) : Text → Nat × Bool
  | [] => (0, false)
  | [u] => (1, u == closer)
  | u :: v :: rest =>
    if u = closer then
      if isDoubling closer && v == closer then
        let (n, closed) := quotedRun closer rest
        (n + 2, closed)
      else (1, true)
    else
      let (n, closed) := quotedRun closer (v :: rest)
      (n + 1, closed)

/-- The same for the body of a block comment. -/
def commentRun : Text → Nat × Bool
  | [] => (0, false)
  | [_] => (1, false)
  | u :: v :: rest =>
    if u = unit '*' && v = unit '/' then (2, true)
    else
      let (n, closed) := commentRun (v :: rest)
      (n + 1, closed)

def digitRun (t : Text) : Nat := (t.takeWhile CodeUnit.isDigit).length

/-- The length of an exponent; zero where the text goes on otherwise. -/
def exponentRun : Text → Nat
  | e :: rest =>
    if e = unit 'e' || e = unit 'E' then
      match rest with
      | sign :: digits =>
        if sign = unit '+' || sign = unit '-' then
          if digitRun digits = 0 then 0 else 2 + digitRun digits
        else if digitRun rest = 0 then 0 else 1 + digitRun rest
      | [] => 0
    else 0
  | [] => 0

/-- The length of a fraction that starts with its point; its digits may be missing. -/
def fractionRun : Text → Nat
  | p :: rest => if p = unit '.' then 1 + digitRun rest else 0
  | [] => 0

def decimalRun (t : Text) : Nat :=
  let whole := digitRun t
  let fraction := fractionRun (t.drop whole)
  whole + fraction + exponentRun (t.drop (whole + fraction))

/-- The length of a number in base sixteen with its mark; zero where there is none. -/
def hexadecimalRun : Text → Nat
  | z :: x :: rest =>
    let n := (rest.takeWhile CodeUnit.isHexDigit).length
    if z = unit '0' && (x = unit 'x' || x = unit 'X') && n != 0 then 2 + n else 0
  | _ => 0

def numberRun (t : Text) : Nat :=
  if hexadecimalRun t = 0 then decimalRun t else hexadecimalRun t

def isWordStart (u : CodeUnit) : Bool := u.isLetter || u == unit '_'

def isWordPart (u : CodeUnit) : Bool :=
  u.isLetter || u.isNumber || u == unit '_' || u == unit '$'

/-- Operators of more than one unit, the longest first. -/
def longOperators : List Text :=
  ["->>", "||", "<=", ">=", "<>", "!=", "==", "<<", ">>", "->"].map Text.ofString

def operatorRun (t : Text) : Nat :=
  match longOperators.find? (·.isPrefixOf t) with
  | some op => op.length
  | none => 1

def wordKind (t : Text) : Kind :=
  match Keyword.ofWord? t with
  | some k => .keyword k
  | none => .identifier

/-- The kind of the lexeme that `u :: rest` begins with, and how many units of `rest` it takes. -/
def front (u : CodeUnit) (rest : Text) : Kind × Nat :=
  let next := rest.head?
  if u.isBlank then (.whitespace, (rest.takeWhile CodeUnit.isBlank).length)
  else if u = unit '-' && next = some (unit '-') then
    (.lineComment, (rest.takeWhile (· != unit '\n')).length)
  else if u = unit '/' && next = some (unit '*') then
    let (n, closed) := commentRun (rest.drop 1)
    (.blockComment closed, 1 + n)
  else if u = unit '\x27' then
    let (n, closed) := quotedRun (unit '\x27') rest
    (.string closed, n)
  else if (u = unit 'x' || u = unit 'X') && next = some (unit '\x27') then
    let (n, closed) := quotedRun (unit '\x27') (rest.drop 1)
    (.string closed, 1 + n)
  else match closingQuote? u with
    | some closer =>
      let (n, closed) := quotedRun closer rest
      (.quotedIdentifier closed, n)
    | none =>
      if u.isDigit || (u = unit '.' && next.any CodeUnit.isDigit) then
        (.number, numberRun (u :: rest) - 1)
      else if isWordStart u then
        let n := (rest.takeWhile isWordPart).length
        (wordKind (u :: rest.take n), n)
      else (.punctuation, operatorRun (u :: rest) - 1)

/-- Reads a text of which the first `taken` units belong to a lexeme already read. -/
def readFrom : Nat → Text → List Lexeme
  | _, [] => []
  | taken + 1, _ :: rest => readFrom taken rest
  | 0, u :: rest =>
    let (kind, n) := front u rest
    ⟨kind, u :: rest.take n⟩ :: readFrom n rest

end Lexeme

def lexemes (sql : Text) : List Lexeme := Lexeme.readFrom 0 sql

/-- Gives each lexeme the place where the one before it ends. -/
def placeFrom (start : Nat) : List Lexeme → List Token
  | [] => []
  | l :: rest => ⟨l, start⟩ :: placeFrom (start + l.text.length) rest

def tokenize (sql : Text) : List Token := placeFrom 0 (lexemes sql)

end SqlShell
