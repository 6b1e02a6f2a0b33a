/-
  ErrorBudget.Burn.FixedWindow

  The alerting method with one window and one threshold, which makes page
  alerts only.
-/
import ErrorBudget.Burn.Request
import ErrorBudget.Duration.Parser
import ErrorBudget.Fault

namespace ErrorBudget.Burn.FixedWindow

/-- The burn rate that is alerted on unless another is set. -/
def defaultRate : Float := 1.0

/-- The window has to be one that is recorded. -/
def checkWindow (window : String) : Except Fault Unit :=
  if Schedule.isSampled window then .ok () else .error (.unsampledWindow window)

/-- How long the condition has to hold; no text is no wait. -/
def wait (text : String) : Except Fault Duration :=
  if text.isEmpty then .ok Duration.zero
  else match Duration.read text with
    | .ok d => .ok d
    | .error defect => .error (.duration text defect)

/-- The condition on errors: more of them than the rate times the budget. -/
def errorCondition (r : Request) (availability : Float) : Condition :=
  { ratio := .errors
    labels := serviceLabels r.service
    relation := .above
    threshold := .scaled (r.burnRate.getD defaultRate) (errorBudget availability)
    long := r.alertWindow
    short := none }

/-- The condition on one latency target: fewer fast requests than the rate times
    the target. -/
def latencyCondition (r : Request) (t : LatencyTarget) : Condition :=
  { ratio := .latency
    labels := latencyLabels r.service t.le
    relation := .below
    threshold := .scaled (r.burnRate.getD defaultRate) (1.0 - ((100.0 - t.target) * 0.01))
    long := r.alertWindow
    short := none }

/-- The alerts on errors. -/
def errorAlerts (r : Request) (availability : Float) : Except Fault (List AlertRule) := do
  checkWindow r.alertWindow
  let wait ← wait r.alertWait
  return [alertRule r.service .error .page [errorCondition r availability] wait]

/-- The alerts on latency. -/
def latencyAlerts (r : Request) (targets : List LatencyTarget) :
    Except Fault (List AlertRule) := do
  checkWindow r.alertWindow
  let wait ← wait r.alertWait
  return [alertRule r.service .latency .page (targets.map (latencyCondition r)) wait]

end ErrorBudget.Burn.FixedWindow
