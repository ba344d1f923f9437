import SqlShell.Text.Basic

namespace SqlShell.Prompt

def placeholder : Text := "\\d"

/-- The name with its dollar signs replaced, between the two parts of the template around it. -/
def expand (before after : Text) : Text → Text
  | [] => []
  | [u] => [u]
  | u :: v :: rest =>
    if u != unit '$' then u :: expand before after (v :: rest)
    else if v = unit '$' then unit '$' :: expand before after rest
    else if v = unit '&' then placeholder ++ expand before after rest
    else if v = unit '\x60' then before ++ expand before after rest
    else if v = unit '\x27' then after ++ expand before after rest
    else u :: expand before after (v :: rest)

/-- Renders what is left of a template, of which `before` has been passed. -/
def renderFrom (name before : Text) : Text → Text
  | u :: v :: rest =>
    if u = unit '\\' && v = unit 'd' then
      expand before rest name ++ renderFrom name (before ++ [u, v]) rest
    else u :: renderFrom name (before ++ [u]) (v :: rest)
  | t => t

def render (template name : Text) : Text := renderFrom name [] template

/-- Asks for the rest of a statement. -/
def continuation : Text := "-> "

end SqlShell.Prompt
