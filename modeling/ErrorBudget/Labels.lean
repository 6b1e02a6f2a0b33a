/-
  ErrorBudget.Labels

  Label sets: what a rule, an alert or a manifest is marked with.
-/
import ErrorBudget.KeyMap

namespace ErrorBudget

/-- A label set: texts by their keys, in ascending order of the keys. -/
abbrev Labels := KeyMap String

end ErrorBudget
