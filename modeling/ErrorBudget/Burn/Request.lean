/-
  ErrorBudget.Burn.Request

  What an alerting method is asked for, and the alert rules that answer it.
-/
import ErrorBudget.Burn.Condition
import ErrorBudget.Rule
import ErrorBudget.Slo

namespace ErrorBudget.Burn

/-- The settings from which a signal's alerts are made. -/
structure Request where
  service : String
  /-- The span that the objective covers. -/
  objectiveWindow : Duration := Duration.zero
  windows : List Window := []
  shortWindow : Bool := true
  burnRate : Option Float := none
  alertWindow : String := ""
  alertWait : String := ""

/-- Name of an alert. -/
def alertName (service : String) (signal : Signal) (severity : Severity) : String :=
  "slo:" ++ service ++ "." ++ signal.fragment ++ "." ++ severity.text

/-- The labels that every alert starts with. -/
def alertLabels (severity : Severity) (signal : Signal) : Labels :=
  KeyMap.ofList [("severity", severity.text), ("signal", signal.text)]

/-- The alert rule that fires when any of the conditions has held for `wait`. -/
def alertRule (service : String) (signal : Signal) (severity : Severity)
    (conditions : List Condition) (wait : Duration) : AlertRule :=
  { alert := alertName service signal severity
    expr := Condition.text conditions
    wait := wait
    labels := alertLabels severity signal
    annotations := KeyMap.empty }

/-- The share of requests that may fail. -/
def errorBudget (availability : Float) : Float := 1.0 - availability / 100.0

end ErrorBudget.Burn
