import SqlShell.Toml.Scalar

namespace SqlShell.Toml

def isSpace (u : CodeUnit) : Bool := u == unit ' ' || u == unit '\t'

/-- Control characters other than the tab, which must not be written as they are. -/
def isControl (u : CodeUnit) : Bool := (u < 0x20 && u != unit '\t') || u == 0x7F

def startsLine : Text → Bool
  | u :: rest => u == unit '\n' || (u == unit '\r' && rest.head? == some (unit '\n'))
  | [] => false

def skipSpace (t : Text) : Text := t.dropWhile isSpace

/-- Skips spaces, line ends and comments; `comment` says whether the text begins in a comment. -/
def skipVoid (comment : Bool) : Text → Option Text
  | [] => some []
  | u :: rest =>
    if startsLine (u :: rest) then skipVoid (comment && u == unit '\r') rest
    else if comment then if isControl u then none else skipVoid true rest
    else if isSpace u then skipVoid false rest
    else if u = unit '#' then skipVoid true rest
    else some (u :: rest)

/-- What follows the end of the line; nothing but spaces and a comment may come before it. -/
def skipLine (t : Text) : Option Text :=
  match skipSpace t with
  | [] => some []
  | u :: rest =>
    if u = unit '#' || startsLine (u :: rest) then skipVoid false (u :: rest) else none

/-- The character that a letter behind a backslash stands for. -/
def escaped? (u : CodeUnit) : Option CodeUnit :=
  if u = unit 'b' then some 8
  else if u = unit 't' then some 9
  else if u = unit 'n' then some 10
  else if u = unit 'f' then some 12
  else if u = unit 'r' then some 13
  else if u = unit '\x22' || u = unit '\\' then some u
  else none

/-- A code point written as `count` digits of base sixteen; half a surrogate pair is none. -/
def codePoint? (count : Nat) (t : Text) : Option (Text × Text) :=
  let digits := t.take count
  let n := numeral 16 digits
  if digits.length = count && digits.all CodeUnit.isHexDigit && n.isValidChar then
    some (Text.ofPoint n, t.drop count)
  else none

/-- Skips spaces and line ends. -/
def skipBlank : Text → Text
  | u :: rest => if isSpace u || startsLine (u :: rest) then skipBlank rest else u :: rest
  | [] => []

/-- What a backslash and the text behind it stand for, and the rest. -/
def escape? (multiline : Bool) : Text → Option (Text × Text)
  | [] => none
  | u :: rest =>
    if u = unit 'u' then codePoint? 4 rest
    else if u = unit 'U' then codePoint? 8 rest
    else match escaped? u with
      | some v => some ([v], rest)
      | none =>
        let next := skipSpace (u :: rest)
        if multiline && startsLine next then some ([], skipBlank next) else none

/-- The form of a string. -/
structure Quoting where
  mark : CodeUnit
  multiline : Bool

def Quoting.isLiteral (q : Quoting) : Bool := q.mark == unit '\x27'

/-- Behind the closing marks: marks just before them belong to the string, two at most. -/
def Quoting.closing? (q : Quoting) (t : Text) : Option (Text × Text) :=
  let marks := (t.takeWhile (· == q.mark)).length
  if q.multiline then
    if marks < 3 then none
    else
      let extra := min 2 (marks - 3)
      some (List.replicate extra q.mark, t.drop (3 + extra))
  else if marks = 0 then none else some ([], t.drop 1)

/-- The content of a string up to its closing marks, and what follows them. -/
def stringBody (q : Quoting) : Nat → Text → Option (Text × Text)
  | 0, _ => none
  | _ + 1, [] => none
  | fuel + 1, u :: rest =>
    match q.closing? (u :: rest) with
    | some done => some done
    | none =>
      if u = unit '\\' && !q.isLiteral then do
        let (content, rest) ← escape? q.multiline rest
        let (more, rest) ← stringBody q fuel rest
        pure (content ++ more, rest)
      else if (startsLine (u :: rest) || u = unit '\n') && !q.multiline then none
      else if isControl u && !startsLine (u :: rest) then none
      else do
        let (more, rest) ← stringBody q fuel rest
        pure (u :: more, rest)

/-- A line end just behind the opening marks does not count. -/
def dropFirstLineEnd : Text → Text
  | u :: rest =>
    if u = unit '\n' then rest
    else if startsLine (u :: rest) then rest.drop 1
    else u :: rest
  | [] => []

/-- The string that begins with the mark `q`. -/
def string? (multilineAllowed : Bool) (q : CodeUnit) (rest : Text) : Option (Text × Text) :=
  if rest.take 2 = [q, q] then
    if multilineAllowed then
      stringBody ⟨q, true⟩ (rest.length + 1) (dropFirstLineEnd (rest.drop 2))
    else none
  else stringBody ⟨q, false⟩ (rest.length + 1) rest

def isQuote (u : CodeUnit) : Bool := u == unit '\x22' || u == unit '\x27'

def isBareKey (u : CodeUnit) : Bool := u.isPlainWord || u == unit '-'

def keyPart? : Text → Option (Text × Text)
  | [] => none
  | u :: rest =>
    if isQuote u then string? false u rest
    else
      let part := (u :: rest).takeWhile isBareKey
      if part.isEmpty then none else some (part, (u :: rest).dropWhile isBareKey)

/-- A key with its parts, and what follows it and the spaces behind it. -/
def key? : Nat → Text → Option (List Text × Text)
  | 0, _ => none
  | fuel + 1, t => do
    let (part, rest) ← keyPart? (skipSpace t)
    match skipSpace rest with
    | u :: rest =>
      if u = unit '.' then
        let (parts, rest) ← key? fuel rest
        pure (part :: parts, rest)
      else pure ([part], u :: rest)
    | [] => pure ([part], [])

def keyOf? (t : Text) : Option (List Text × Text) := key? (t.length + 1) t

def endsScalar (u : CodeUnit) : Bool :=
  u == unit ',' || u == unit ']' || u == unit '\x7d' || u == unit '#' || u == unit '\n'
    || u == unit '\r'

/-- How many brackets and braces may be open at once. -/
def nestingLimit : Nat := 1000

mutual

/-- The value that a text begins with, and what follows it; `depth` more brackets and braces may be
opened. -/
def value? (depth : Nat) : Nat → Text → Option (Toml × Text)
  | 0, _ => none
  | _ + 1, [] => none
  | fuel + 1, u :: rest =>
    if isQuote u then (string? true u rest).map (fun (t, rest) => (text t, rest))
    else if depth = 0 && (u == unit '[' || u == unit '\x7b') then none
    else if u = unit '[' then
      (items? (depth - 1) fuel rest).map (fun (vs, rest) => (array vs, rest))
    else if u = unit '\x7b' then
      match skipSpace rest with
      | v :: after =>
        if v = unit '\x7d' then some (table .inline [], after)
        else
          (fields? (depth - 1) fuel [] (v :: after)).map
            (fun (fs, rest) => (table .inline fs, rest))
      | [] => none
    else
      let body := (u :: rest).takeWhile (fun u => !endsScalar u)
      (scalar? (Text.dropEndWhile isSpace body)).map
        (fun v => (v, (u :: rest).dropWhile (fun u => !endsScalar u)))

/-- The items of an array up to its closing bracket; a comma may stand before it. -/
def items? (depth : Nat) : Nat → Text → Option (List Toml × Text)
  | 0, _ => none
  | fuel + 1, t => do
    match ← skipVoid false t with
    | [] => none
    | u :: rest =>
      if u = unit ']' then pure ([], rest)
      else
        let (v, rest) ← value? depth fuel (u :: rest)
        match ← skipVoid false rest with
        | [] => none
        | u :: rest =>
          if u = unit ']' then pure ([v], rest)
          else if u = unit ',' then
            let (vs, rest) ← items? depth fuel rest
            pure (v :: vs, rest)
          else none

/-- The fields of an inline table, behind those in `fields`, up to its closing brace. -/
def fields? (depth : Nat) : Nat → Fields → Text → Option (Fields × Text)
  | 0, _, _ => none
  | fuel + 1, fields, t => do
    let (path, rest) ← keyOf? t
    let rest ← mark? '=' rest
    let (v, rest) ← value? depth fuel (skipSpace rest)
    let fields ← assign v path fields
    match skipSpace rest with
    | u :: rest =>
      if u = unit '\x7d' then pure (fields, rest)
      else if u = unit ',' then fields? depth fuel fields rest
      else none
    | [] => none

end

/-- A document that is read so far, and the table that keys belong to. -/
structure Reading where
  fields : Fields
  path : List Text

/-- The header of a table, behind its first bracket. -/
def header? (r : Reading) (t : Text) : Option (Reading × Text) := do
  let isArray := t.head? == some (unit '[')
  let (path, rest) ← keyOf? (if isArray then t.drop 1 else t)
  let rest ← mark? ']' rest
  let rest ← if isArray then mark? ']' rest else some rest
  let fields ← if isArray then appendTable path r.fields else openTable path r.fields
  pure (⟨fields, path⟩, rest)

def assignment? (r : Reading) (t : Text) : Option (Reading × Text) := do
  let (path, rest) ← keyOf? t
  let rest ← mark? '=' rest
  let (v, rest) ← value? nestingLimit (rest.length + 1) (skipSpace rest)
  let fields ← inside (assign v path) r.path r.fields
  pure (⟨fields, r.path⟩, rest)

/-- Reads the lines that are left, each a header or an assignment. -/
def lines? : Nat → Reading → Text → Option Fields
  | _, r, [] => some r.fields
  | 0, _, _ => none
  | fuel + 1, r, u :: rest => do
    let (r, rest) ←
      if u = unit '[' then header? r rest else assignment? r (u :: rest)
    lines? fuel r (← skipLine rest)

/-- A byte order mark before the document is skipped. -/
def dropOrderMark (t : Text) : Text := if t.head? = some 0xFEFF then t.drop 1 else t

def parse? (t : Text) : Option Fields := do
  let t := dropOrderMark t
  lines? (t.length + 1) ⟨[], []⟩ (← skipVoid false t)

end SqlShell.Toml
