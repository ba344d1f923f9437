import SqlShell.Keyword

namespace SqlShell

/-- What a stretch of text is. `closed` says whether the closing delimiter was found before the
end of the text. -/
inductive Lexeme.Kind where
  | whitespace
  /-- Runs from two hyphens up to the line end, which stays outside. -/
  | lineComment
  | blockComment (closed : Bool)
  | string (closed : Bool)
  | quotedIdentifier (closed : Bool)
  | number
  | keyword (k : Keyword)
  | identifier
  | punctuation
  deriving DecidableEq, Repr

/-- A stretch of text with its delimiters. -/
structure Lexeme where
  kind : Lexeme.Kind
  text : Text
  deriving DecidableEq, Repr

/-- A lexeme at its place in a longer text. -/
structure Token extends Lexeme where
  start : Nat
  deriving DecidableEq, Repr

namespace Lexeme

def isUnterminated (l : Lexeme) : Bool :=
  match l.kind with
  | .blockComment closed | .string closed | .quotedIdentifier closed => !closed
  | _ => false

/-- Neither white space nor a comment. -/
def isSignificant (l : Lexeme) : Bool :=
  match l.kind with
  | .whitespace | .lineComment | .blockComment _ => false
  | _ => true

def keyword? (l : Lexeme) : Option Keyword :=
  match l.kind with
  | .keyword k => some k
  | _ => none

/-- Can hold a name that is being typed. -/
def isWord (l : Lexeme) : Bool :=
  match l.kind with
  | .identifier | .keyword _ | .quotedIdentifier _ => true
  | _ => false

/-- An identifier, quoted or not. -/
def isName (l : Lexeme) : Bool :=
  match l.kind with
  | .identifier | .quotedIdentifier _ => true
  | _ => false

/-- A name, or a keyword that is read as one where a name is due. -/
def isNameLike (l : Lexeme) : Bool :=
  l.isName || l.keyword?.any Keyword.isName

def isKeyword (l : Lexeme) (k : Keyword) : Bool := l.keyword? == some k

def isKeywordOf (l : Lexeme) (ks : List Keyword) : Bool := l.keyword?.any ks.contains

/-- A keyword with one of the given spellings; any keyword if none is given. -/
def isSpelled (l : Lexeme) (spellings : List Text) : Bool :=
  l.keyword?.any (fun k => spellings.isEmpty || spellings.contains k.text)

def isPunctuation (l : Lexeme) (mark : Text) : Bool :=
  l.kind == .punctuation && l.text == mark

def isPunctuationOf (l : Lexeme) (marks : List Text) : Bool :=
  l.kind == .punctuation && marks.contains l.text

/-- The punctuation mark of one unit `c`. -/
def isMark (l : Lexeme) (c : Char) : Bool := l.isPunctuation [unit c]

def isLiteralOrComment (l : Lexeme) : Bool :=
  match l.kind with
  | .string _ | .lineComment | .blockComment _ => true
  | _ => false

end Lexeme

namespace Token

def stop (t : Token) : Nat := t.start + t.text.length

/-- The same lexeme `n` units further on. -/
def shift (n : Nat) (t : Token) : Token := { t with start := t.start + n }

def significant (tokens : List Token) : List Token := tokens.filter (·.isSignificant)

/-- The token that contains the cursor or ends at it; one that starts at it is not meant. -/
def atCursor? (tokens : List Token) (cursor : Int) : Option Token :=
  ((tokens.takeWhile (fun t => t.start < cursor)).filter (fun t => cursor ≤ t.stop)).getLast?

/-- Whether what is typed at the cursor belongs to a string or a comment. Behind the closing
delimiter it does not; at the end of a line comment it still does. -/
def isInsideLiteral (tokens : List Token) (cursor : Int) : Bool :=
  match atCursor? tokens cursor with
  | none => false
  | some t =>
    t.isLiteralOrComment && (cursor < t.stop || t.isUnterminated || t.kind == .lineComment)

end Token

end SqlShell
