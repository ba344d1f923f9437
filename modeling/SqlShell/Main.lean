import SqlShell.Client.Launch

namespace SqlShell

namespace Terminal

/-- Half of a surrogate pair that stands alone shows as a replacement character. -/
def character (point : Nat) : Char :=
  if point.isValidChar then Char.ofNat point else '\uFFFD'

def string (t : Text) : String := String.ofList ((Text.points t).map character)

def write (stream : IO.FS.Stream) (t : Text) : IO Unit := do
  stream.putStr (string t)
  stream.flush

def display : Event → IO Unit
  | .written .out t | .prompted t | .asked t => do write (← IO.getStdout) t
  | .written .err t => do write (← IO.getStderr) t
  | _ => pure ()

/-- The input that a line of the terminal is. Only the end of all lines is empty. -/
def input (line : String) : UserInput :=
  if line.isEmpty then .endOfInput
  else .line (Text.dropEndWhile (fun u => u == unit '\n' || u == unit '\r') (Text.ofString line))

partial def interact (s : Session Unit) (st : Session.State Unit) (moment : Nat) : IO Unit := do
  st.world.events.forM display
  if st.closed then pure ()
  else
    let line ← (← IO.getStdin).getLine
    let now ← IO.monoMsNow
    let st := { st with world := { st.world with events := [] } }
    interact s ([.wait (now - moment).toFloat, input line].foldl s.step st) now

def run : Launch Unit → IO UInt32
  | .finished outcome w => do
    let (code, w) := Launch.exitCode outcome Output.streams w
    w.events.forM display
    pure code.toUInt32
  | .interactive s st => do
    interact s st (← IO.monoMsNow)
    pure 0

/-- The directories from the root to the working directory exist. -/
def surroundings : IO Surroundings := do
  let directory := Text.ofString ((← IO.getEnv "PWD").getD "/")
  pure
    { workingDirectory := directory
      homeDirectory := Text.ofString ((← IO.getEnv "HOME").getD "/")
      configDirectory := (← IO.getEnv "XDG_CONFIG_HOME").map Text.ofString
      pathExists := fun path => path.isPrefixOf directory
      contents := fun _ => none }

end Terminal

end SqlShell

open SqlShell in
def main (arguments : List String) : IO UInt32 := do
  match Invocation.parse (arguments.map Text.ofString) with
  | .error refusal =>
    Terminal.display refusal.event
    pure (if refusal.stream = .out then 0 else 1)
  | .ok (path, options) =>
    let client : Client Unit :=
      { surroundings := ← Terminal.surroundings
        database := .blank
        logger := .streams
        output := .streams
        editor := .terminal }
    Terminal.run (client.launch path options { database := () })
