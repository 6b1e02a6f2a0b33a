/-
  ErrorBudget.Burn.MultiWindow

  The alerting method with several windows for each severity, each with a burn
  rate of its own.
-/
import ErrorBudget.Burn.Request
import ErrorBudget.Burn.Window

namespace ErrorBudget.Burn.MultiWindow

/-- The condition on errors: more of them than the rate times the budget. -/
def errorCondition (r : Request) (availability : Float) (w : BurnWindow) : Condition :=
  { ratio := .errors
    labels := serviceLabels r.service
    relation := .above
    threshold := .budget w.multiplier (errorBudget availability)
    long := w.long
    short := w.short }

/-- The condition on one latency target: so few fast requests that the budget for
    slow ones burns at the rate. -/
def latencyCondition (r : Request) (t : LatencyTarget) (w : BurnWindow) : Condition :=
  { ratio := .latency
    labels := latencyLabels r.service t.le
    relation := .below
    threshold := .value (1.0 - ((100.0 - t.target) * w.multiplier * 0.01))
    long := w.long
    short := w.short }

/-- The alerts on errors, one for each severity that has windows. -/
def errorAlerts (r : Request) (availability : Float) : Except Fault (List AlertRule) := do
  let windows ← burnWindows r.objectiveWindow r.windows r.shortWindow
  return windows.map fun (severity, burn) =>
    alertRule r.service .error severity (burn.map (errorCondition r availability))
      Duration.zero

/-- The alerts on latency, one for each severity that has windows. -/
def latencyAlerts (r : Request) (targets : List LatencyTarget) :
    Except Fault (List AlertRule) := do
  let windows ← burnWindows r.objectiveWindow r.windows r.shortWindow
  return windows.map fun (severity, burn) =>
    alertRule r.service .latency severity
      (targets.flatMap fun t => burn.map (latencyCondition r t)) Duration.zero

end ErrorBudget.Burn.MultiWindow
