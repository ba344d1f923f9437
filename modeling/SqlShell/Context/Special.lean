import SqlShell.Context.Basic

namespace SqlShell

namespace Vocabulary

/-- The marks that commands begin with; letters, digits and blanks are no such marks. -/
def sigils (v : Vocabulary) : List CodeUnit :=
  (v.keys.filterMap List.head?).filter (fun u => !u.isPlainWord && !u.isBlank)

def find? (v : Vocabulary) (command : Text) : Option CommandSpec :=
  (v.lookup command).or (v.lookup command.lower)

end Vocabulary

/-- Drops one plus or minus at the end. -/
def dropSign (command : Text) : Text :=
  if command.getLast? = some (unit '+') || command.getLast? = some (unit '-') then
    command.dropLast
  else command

/-- What is offered for the argument of a written command. -/
def argumentSuggestion (v : Vocabulary) (command : Text) : Suggestion :=
  match (v.find? command).map CommandSpec.argument with
  | some .table => .table none [.table, .view]
  | some .view => .table none [.view]
  | some .index => .table none [.index]
  | _ => .special (some command)

def specialContext (primary : Suggestion) (text : Text) (start stop : Int) : Context :=
  ⟨primary, [], ⟨text, start, stop⟩, none, .special⟩

/-- The context in a line that begins with the mark of a command, if this is one. -/
def classifySpecial? (v : Vocabulary) (s : Statement) (cursor : Int) : Option Context :=
  let before := Text.firstItems (cursor - s.start) s.text
  let typed := Text.trimStart before
  match typed.head? with
  | none => none
  | some mark =>
    if v.sigils.contains mark then
      if typed.any CodeUnit.isBlank then
        let command := dropSign (typed.takeWhile (fun u => !u.isBlank))
        let argument := Text.takeEndWhile (fun u => !u.isBlank) typed
        some (specialContext (argumentSuggestion v command) argument
          (cursor - argument.length) cursor)
      else
        some (specialContext (.special none) typed
          (s.start + (before.length - typed.length : Nat)) cursor)
    else none

end SqlShell
