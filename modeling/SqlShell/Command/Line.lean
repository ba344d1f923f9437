import SqlShell.Text.Blank

namespace SqlShell

structure CommandLine where
  command : Text
  argument : Text
  /-- Whether a plus stands behind the command. -/
  verbose : Bool
  deriving DecidableEq, Repr

namespace CommandLine

/-- A sign is no part of a command, unless it is all there is. -/
def split (head argument : Text) : CommandLine :=
  if head.length ≤ 1 then ⟨head, argument, false⟩
  else match head.getLast? with
    | some u =>
      if u = unit '+' then ⟨head.dropLast, argument, true⟩
      else if u = unit '-' then ⟨head.dropLast, argument, false⟩
      else ⟨head, argument, false⟩
    | none => ⟨head, argument, false⟩

def parse (line : Text) : CommandLine :=
  let body := Text.trim (Text.dropEndWhile (· == unit ';') (Text.trim line))
  split (body.takeWhile (fun u => !u.isBlank))
    (Text.trim (body.dropWhile (fun u => !u.isBlank)))

end CommandLine

end SqlShell
