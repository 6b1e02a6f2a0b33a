/-
  ErrorBudget.Document.Text

  Documents and class files written in YAML. A blank text defines nothing; any
  other is read, and the names in it are checked.
-/
import ErrorBudget.Slo.Layout
import ErrorBudget.Yaml.Reader

namespace ErrorBudget

/-- What a text from a source defines; nothing if it is blank. -/
def readDefinitions {α : Type} (reader : Yaml.Place → Reader α) (blank : α)
    (source text : String) : Except Fault α :=
  if Text.isBlank text then .ok blank
  else match Yaml.read reader text with
    | .ok x => .ok x
    | .error e => .error (.load source (.yaml e))

/-- The document in a text. It may not define too many services, and its names have
    to stand. -/
def Document.ofText (source text : String) : Except Fault Document := do
  let d ← readDefinitions Document.read {} source text
  if maxSlos < d.slos.length then throw (.load source .tooManySlos)
  d.check
  return d

/-- The class file in a text. -/
def ClassFile.ofText (source text : String) : Except Fault ClassFile := do
  let f ← readDefinitions ClassFile.read {} source text
  f.check
  return f

end ErrorBudget
