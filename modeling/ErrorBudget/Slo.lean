/-
  ErrorBudget.Slo

  Service level objectives: what a service promises, how its signals are
  measured, and when to alert on them.
-/
import ErrorBudget.Duration
import ErrorBudget.Labels

namespace ErrorBudget

/-- The share of requests, in percent, that has to finish within a bound. -/
structure LatencyTarget where
  /-- The histogram boundary, as the `le` label writes it. -/
  le : String
  target : Float
deriving Inhabited

/-- What a service promises, in percent, and over which span. -/
structure Objectives where
  availability : Float := 0.0
  latency : List LatencyTarget := []
  window : Duration := Duration.zero
deriving Inhabited

/-- A custom alerting window: how much of the budget, in percent, may be spent
    within a span before an alert of the tagged severity fires. -/
structure Window where
  duration : Duration
  consumption : Float
  notification : String
deriving Inhabited

/-- How one ratio of a service is measured, and how it is alerted on. -/
structure Indicator where
  /-- Query template; empty for a ratio that is not recorded. -/
  expr : String := ""
  /-- Name of the alerting method; empty for none. -/
  alertMethod : String := ""
  alertWindow : String := ""
  alertWait : String := ""
  burnRate : Float := 0.0
  windows : List Window := []
  shortWindow : Option Bool := none
  buckets : List String := []
deriving Inhabited

namespace Indicator

/-- Whether the ratio is recorded. -/
def hasExpr (i : Indicator) : Bool := !i.expr.isEmpty

/-- Whether the ratio is alerted on. -/
def hasAlertMethod (i : Indicator) : Bool := !i.alertMethod.isEmpty

/-- Whether conditions also look at a short window; they do unless told not to. -/
def shortWindowEnabled (i : Indicator) : Bool := i.shortWindow.getD true

/-- The burn rate in place of the usual one; only positive rates count. -/
def burnRateOverride (i : Indicator) : Option Float :=
  if i.burnRate > 0.0 then some i.burnRate else none

end Indicator

/-- A named set of objectives that services can refer to. -/
structure ServiceClass where
  name : String
  objectives : Objectives := {}
deriving Inhabited

/-- The service level objectives of one service. -/
structure Slo where
  name : String
  /-- Name of the class whose objectives apply; empty for its own. -/
  className : String := ""
  objectives : Objectives := {}
  /-- Leaves out the `service` label, for metrics that bring their own. -/
  honorLabels : Bool := false
  traffic : Indicator := {}
  errors : Indicator := {}
  latency : Indicator := {}
  quantiles : Indicator := {}
  labels : Labels := KeyMap.empty
  annotations : Labels := KeyMap.empty
deriving Inhabited

namespace Objectives

/-- The share of requests that may fail. -/
def errorBudget (o : Objectives) : Float := 1.0 - o.availability / 100.0

/-- The histogram boundaries of the latency targets. -/
def latencyBuckets (o : Objectives) : List String := o.latency.map (·.le)

end Objectives

end ErrorBudget
