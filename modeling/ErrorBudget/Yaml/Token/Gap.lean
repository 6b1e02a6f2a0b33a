/-
  ErrorBudget.Yaml.Token.Gap

  White space inside a scalar. On one line it stays as it is; over several
  lines a single line feed becomes a space, and of several the first goes.
-/
import ErrorBudget.Yaml.Character

namespace ErrorBudget.Yaml

/-- The white space since the last word. `first` is the first line end, and
    `others` are those after it, the latest first. -/
structure Gap where
  /-- Blanks on the line of the last word, the latest first. -/
  blanks : List Char := []
  broken : Bool := false
  first : List Char := []
  others : List Char := []

namespace Gap

/-- The gap with one more character. -/
def add (g : Gap) (c : Char) : Gap :=
  if isBreak c then
    if g.broken then { g with others := c :: g.others }
    else { blanks := [], broken := true, first := [c], others := [] }
  else if g.broken then g
  else { g with blanks := c :: g.blanks }

/-- The gap after a line end that is escaped and so leaves nothing. -/
def escaped : Gap := { broken := true }

/-- What a text, its latest character first, is after the gap. -/
def close (g : Gap) (done : List Char) : List Char :=
  if !g.broken then g.blanks ++ done
  else if g.first = ['\n'] then
    if g.others.isEmpty then ' ' :: done else g.others ++ done
  else g.others ++ g.first ++ done

end Gap

/-- A scalar's text and where it ends. -/
structure Scanned where
  text : List Char
  cursor : Cursor
  /-- Whether white space over a line end was passed after the text. -/
  broken : Bool := false

end ErrorBudget.Yaml
