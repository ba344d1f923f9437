import SqlShell.Text.Basic

namespace SqlShell

namespace CodeUnit

/-- White space, line ends and the byte order mark. -/
def isBlank (u : CodeUnit) : Bool :=
  (9 ≤ u && u ≤ 13) || u == 0x20 || u == 0xA0 || u == 0x1680 || (0x2000 ≤ u && u ≤ 0x200A)
    || u == 0x2028 || u == 0x2029 || u == 0x202F || u == 0x205F || u == 0x3000 || u == 0xFEFF

/-- ASCII digits only. -/
def isDigit (u : CodeUnit) : Bool := unit '0' ≤ u && u ≤ unit '9'

def isHexDigit (u : CodeUnit) : Bool :=
  isDigit u || (unit 'a' ≤ u && u ≤ unit 'f') || (unit 'A' ≤ u && u ≤ unit 'F')

/-- ASCII letters only. -/
def isPlainLetter (u : CodeUnit) : Bool :=
  (unit 'a' ≤ u && u ≤ unit 'z') || (unit 'A' ≤ u && u ≤ unit 'Z')

/-- ASCII letters, ASCII digits and the underscore. -/
def isPlainWord (u : CodeUnit) : Bool := isPlainLetter u || isDigit u || u == unit '_'

end CodeUnit

namespace Text

def trimStart (t : Text) : Text := t.dropWhile CodeUnit.isBlank

/-- Drops the units at the end that satisfy `p`. -/
def dropEndWhile (p : CodeUnit → Bool) (t : Text) : Text := (t.reverse.dropWhile p).reverse

/-- The longest end of the text whose units all satisfy `p`. -/
def takeEndWhile (p : CodeUnit → Bool) (t : Text) : Text := (t.reverse.takeWhile p).reverse

def trimEnd (t : Text) : Text := dropEndWhile CodeUnit.isBlank t

def trim (t : Text) : Text := trimEnd (trimStart t)

end Text

end SqlShell
