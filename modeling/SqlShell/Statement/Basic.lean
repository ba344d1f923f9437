import SqlShell.Token.Scan

namespace SqlShell

structure Statement where
  start : Nat
  /-- Without the semicolon that terminates the statement. -/
  tokens : List Token
  terminated : Bool
  deriving DecidableEq, Repr

namespace Statement

def text (s : Statement) : Text :=
  s.tokens.flatMap (·.text) ++ if s.terminated then [unit ';'] else []

def stop (s : Statement) : Nat := s.start + s.text.length

def significant (s : Statement) : List Token := Token.significant s.tokens

/-- The first token that is neither white space nor a comment. -/
def leading? (s : Statement) : Option Token := s.tokens.find? (·.isSignificant)

def isBlank (s : Statement) : Bool := s.leading?.isNone

/-- What the tokens of a statement read so far say about trigger bodies. -/
structure Progress where
  /-- Whether CREATE leads the statement, once a significant token has been read. -/
  creates : Option Bool := none
  trigger : Bool := false
  /-- How many BEGIN and CASE of the trigger body wait for their END. -/
  depth : Nat := 0
  deriving DecidableEq, Repr

/-- Counts BEGIN, CASE and END of a trigger; CASE opens a block only inside another one. -/
def Progress.count (p : Progress) (t : Token) : Progress :=
  if t.isKeyword .BEGIN || (p.depth != 0 && t.isKeyword .CASE) then
    { p with depth := p.depth + 1 }
  else if t.isKeyword .END then { p with depth := p.depth - 1 }
  else p

def Progress.read (p : Progress) (t : Token) : Progress :=
  if t.isSignificant then
    let creates := p.creates.getD (t.isKeyword .CREATE)
    let trigger := p.trigger || (creates && t.isKeyword .TRIGGER)
    let p := { p with creates := some creates, trigger := trigger }
    if trigger then p.count t else p
  else p

def Progress.endsAt (p : Progress) (t : Token) : Bool := t.isMark ';' && p.depth == 0

/-- Splits the rest of a statement that begins at `start`, and what follows it. There is always
an unterminated last statement, which may be empty. -/
def splitFrom (start : Nat) (p : Progress) : List Token → Statement × List Statement
  | [] => (⟨start, [], false⟩, [])
  | t :: rest =>
    if p.endsAt t then
      let (next, more) := splitFrom t.stop {} rest
      (⟨start, [], true⟩, next :: more)
    else
      let (s, more) := splitFrom start (p.read t) rest
      ({ s with tokens := t :: s.tokens }, more)

end Statement

/-- The statements of a text: the first one and those after it. -/
def splitText (sql : Text) : Statement × List Statement := Statement.splitFrom 0 {} (tokenize sql)

def statements (sql : Text) : List Statement :=
  let (first, rest) := splitText sql
  first :: rest

/-- The statement that the cursor stands in, else the last one. -/
def Statement.at (cursor : Int) (s : Statement) : List Statement → Statement
  | [] => s
  | next :: rest =>
    if s.start ≤ cursor && cursor < s.stop then s else Statement.at cursor next rest

def statementAt (sql : Text) (cursor : Int) : Statement :=
  let (first, rest) := splitText sql
  Statement.at cursor first rest

/-- The statements of a text that hold more than white space and comments. -/
def executableStatements (sql : Text) : List Statement :=
  (statements sql).filter (fun s => !s.isBlank)

end SqlShell
