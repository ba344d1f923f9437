import SqlShell.Database.Basic

namespace SqlShell

structure ScriptEntry where
  sql : Text
  reply : Reply

namespace ScriptEntry

def isSpace (u : CodeUnit) : Bool :=
  u == unit ' ' || u == unit '\t' || u == unit '\r' || u == unit '\n'

/-- Each run of spaces as one space; `spaced` says whether the unit before is in such a run. -/
def squeeze (spaced : Bool) : Text → Text
  | [] => []
  | u :: rest =>
    if isSpace u then
      if spaced then squeeze true rest else unit ' ' :: squeeze true rest
    else u :: squeeze false rest

def dropSpace (t : Text) : Text := if t.head? = some (unit ' ') then t.drop 1 else t

/-- The text of a statement on one line, without the space around it. -/
def oneLine (sql : Text) : Text :=
  let t := dropSpace (squeeze false sql)
  if t.getLast? = some (unit ' ') then t.dropLast else t

end ScriptEntry

structure Script where
  entries : List ScriptEntry
  readOnly : Bool
  inTransaction : Bool

namespace Script

def noAnswer (sql : Text) : Reply :=
  ⟨0, false, .error (.error .general (.concat ["no scripted answer: ", sql]))⟩

/-- Takes out the first answer to a statement unless there is no other. -/
def useUp (sql : Text) : List ScriptEntry → List ScriptEntry
  | [] => []
  | e :: rest =>
    if e.sql = sql then if rest.any (fun e => e.sql = sql) then rest else e :: rest
    else e :: useUp sql rest

def prepare (sql : Text) (s : Script) : Reply × Script :=
  let line := ScriptEntry.oneLine sql
  match s.entries.find? (fun e => e.sql = line) with
  | none => (noAnswer line, s)
  | some e => (e.reply, { s with entries := useUp line s.entries })

def database : Database Script := ⟨prepare, Script.readOnly, Script.inTransaction⟩

end Script

end SqlShell
