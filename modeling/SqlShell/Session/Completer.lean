import SqlShell.Completion
import SqlShell.Config

namespace SqlShell.Completer

def options (config : Config) (vocabulary : Vocabulary) : CompletionOptions :=
  { casing := some config.casing, substrings := some config.substrings
    vocabulary := some vocabulary }

/-- A line editor puts the text in the place of the word, so its name has to begin with it. -/
def continuesTyped (typed : Text) (c : Candidate) : Bool :=
  typed.lower.isPrefixOf (unquote c.text).lower

/-- The texts that can be put in the place of the second component, which is a part of the text. -/
def complete (schema : Option SchemaSnapshot) (config : Config) (vocabulary : Vocabulary)
    (pending : List Text) (line : Text) : List Text × Text :=
  let sql := Text.join [unit '\n'] (pending ++ [line])
  let outcome := Completion.run sql (.offset sql.length) schema (options config vocabulary)
    (fun _ => 0)
  match outcome with
  | .error _ => ([], [])
  | .ok c =>
    let word := c.context.word
    let matching := c.candidates.filter (continuesTyped word.text)
    ((Text.firstItems config.maxSuggestions matching).map Candidate.text,
      sql.extract word.start.toNat word.stop.toNat)

end SqlShell.Completer
