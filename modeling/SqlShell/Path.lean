import SqlShell.Text.Basic

namespace SqlShell.Path

def slash : CodeUnit := unit '/'

def isAbsolute (path : Text) : Bool := path.head? == some slash

/-- The parts between slashes. -/
def parts (path : Text) : List Text :=
  let (first, rest) := Text.splitOn slash path
  first :: rest

/-- Takes one part into a list of parts that holds the last one first. A step up cancels the part
before it; at the root it is lost, in a relative path it is kept. -/
def take (absolute : Bool) (taken : List Text) (part : Text) : List Text :=
  if part.isEmpty || part = "." then taken
  else if part = ".." then
    match taken with
    | [] => if absolute then [] else [part]
    | last :: before => if last = ".." then part :: taken else before
  else part :: taken

/-- The parts of a path without empty ones, steps to the same place and steps up. -/
def resolvedParts (path : Text) : List Text :=
  ((parts path).foldl (take (isAbsolute path)) []).reverse

def joinParts (names : List Text) : Text := Text.join [slash] names

/-- The shortest path to the same place; a slash at the end is kept. -/
def normalize (path : Text) : Text :=
  let body := joinParts (resolvedParts path)
  let trailing := path.getLast? = some slash
  if isAbsolute path then
    if body.isEmpty then [slash] else slash :: body ++ if trailing then [slash] else []
  else if body.isEmpty then if trailing then "./" else "."
  else body ++ if trailing then [slash] else []

/-- One path after the other; empty ones do not count. -/
def join (paths : List Text) : Text := normalize (joinParts (paths.filter (fun p => !p.isEmpty)))

/-- The parts of the absolute path that a path means, seen from a directory. -/
def absoluteParts (directory path : Text) : List Text :=
  resolvedParts (if isAbsolute path then path else Text.concat [directory, [slash], path])

/-- The directory that holds what a path means. -/
def directoryOf (directory path : Text) : Text :=
  slash :: joinParts (absoluteParts directory path).dropLast

/-- The last part; slashes at the end do not count. -/
def baseName (path : Text) : Text :=
  ((parts path).filter (fun p => !p.isEmpty)).getLast?.getD []

end SqlShell.Path
