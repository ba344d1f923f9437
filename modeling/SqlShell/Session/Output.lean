import SqlShell.Database.Basic

namespace SqlShell

structure Output where
  line : Text → Event := .printed
  errorLine : Text → Event := .printedError
  /-- Why nothing can be shown, if so. -/
  failure : Option Failure := none

namespace Output

/-- Lines written to the streams of the process. -/
def streams : Output :=
  { line := fun t => .written .out (t ++ [unit '\n'])
    errorLine := fun t => .written .err (t ++ [unit '\n']) }

def print (o : Output) (line : Text) (w : World σ) : Except Failure Unit × World σ :=
  match o.failure with
  | some f => (.error f, w)
  | none => (.ok (), w.emit [o.line line])

def printAll (o : Output) : List Text → World σ → Except Failure Unit × World σ
  | [], w => (.ok (), w)
  | line :: rest, w =>
    match o.print line w with
    | (.error f, w) => (.error f, w)
    | (.ok (), w) => o.printAll rest w

def printError (o : Output) (message : Text) (w : World σ) : World σ :=
  w.emit [o.errorLine (.concat ["Error: ", message])]

end Output

end SqlShell
