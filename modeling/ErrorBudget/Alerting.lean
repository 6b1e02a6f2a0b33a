/-
  ErrorBudget.Alerting

  The alert rules of a service: those on errors, then those on latency, with
  the service's labels and annotations, and without tickets if they are off.
-/
import ErrorBudget.Burn.Method

namespace ErrorBudget

/-- The methods that a service's two signals are alerted on with. -/
structure AlertMethods where
  errors : Option Burn.Method
  latency : Option Burn.Method

namespace AlertMethods

/-- The method of one indicator; an indicator without a name has none. -/
def resolveOne (slo : Slo) (i : Indicator) (registry : Burn.Registry) (field : String) :
    Except Fault (Option Burn.Method) :=
  if !i.hasAlertMethod then .ok none
  else match registry.resolve i.alertMethod with
    | .ok m => .ok (some m)
    | .error fault => .error (.ofSlo slo.name (field ++ ".alertMethod") fault)

/-- The methods of both signals, which have to be there if they are named. -/
def resolve (slo : Slo) (registry : Burn.Registry) : Except Fault AlertMethods := do
  let errors ← resolveOne slo slo.errors registry "errorRateRecord"
  let latency ← resolveOne slo slo.latency registry "latencyRecord"
  return ⟨errors, latency⟩

end AlertMethods

namespace Alerting

/-- The field that a method's fault is about. -/
def faultField : Fault → String
  | .unsampledWindow _ => "alertWindow"
  | .duration _ _ => "alertWait"
  | .missingObjectiveWindow => "windows"
  | _ => "alertMethod"

/-- A method's answer, a fault with the field that it is about. -/
def locate {α : Type} (slo : Slo) (block : String) : Except Fault α → Except Fault α
  | .ok x => .ok x
  | .error fault => .error (.ofSlo slo.name (block ++ "." ++ faultField fault) fault)

/-- What is asked for an indicator. -/
def request (slo : Slo) (objectives : Objectives) (i : Indicator) (burnRate : Option Float) :
    Burn.Request :=
  { service := slo.name
    objectiveWindow := objectives.window
    windows := i.windows
    shortWindow := i.shortWindowEnabled
    burnRate := burnRate
    alertWindow := i.alertWindow
    alertWait := i.alertWait }

/-- What is asked for errors. -/
def errorRequest (slo : Slo) (objectives : Objectives) : Burn.Request :=
  request slo objectives slo.errors slo.errors.burnRateOverride

/-- What is asked for latency; the burn rate of the errors counts if it has none. -/
def latencyRequest (slo : Slo) (objectives : Objectives) : Burn.Request :=
  request slo objectives slo.latency
    (slo.latency.burnRateOverride.or slo.errors.burnRateOverride)

/-- Alerts of one signal and the method that made them. -/
structure Batch where
  method : String
  signal : Signal
  alerts : List AlertRule

/-- The alerts on errors, if there is a method for them. -/
def errorBatch (slo : Slo) (objectives : Objectives) (methods : AlertMethods) :
    Except Fault (Option Batch) :=
  match methods.errors with
  | none => .ok none
  | some m =>
    match locate slo "errorRateRecord"
        (m.errorAlerts (errorRequest slo objectives) objectives.availability) with
    | .ok alerts => .ok (some ⟨m.name, .error, alerts⟩)
    | .error fault => .error fault

/-- The alerts on latency, if there are a method for them and targets. -/
def latencyBatch (slo : Slo) (objectives : Objectives) (methods : AlertMethods) :
    Except Fault (Option Batch) :=
  match methods.latency with
  | none => .ok none
  | some m =>
    if objectives.latency.isEmpty then .ok none
    else match locate slo "latencyRecord"
        (m.latencyAlerts (latencyRequest slo objectives) objectives.latency) with
      | .ok alerts => .ok (some ⟨m.name, .latency, alerts⟩)
      | .error fault => .error fault

/-- An alert with the labels and annotations of its service over its own. -/
def withMetadata (slo : Slo) (a : AlertRule) : AlertRule :=
  { a with
    labels := a.labels.union slo.labels
    annotations := a.annotations.union slo.annotations }

/-- Whether an alert stays: one whose labels name a ticket goes if tickets are off. -/
def isKept (disableTicket : Bool) (a : AlertRule) : Bool :=
  !(disableTicket && a.severity? == some .ticket)

/-- The alerts of a batch, if there is one. -/
def alertsOf (b : Option Batch) : List AlertRule :=
  (b.map Batch.alerts).getD []

/-- The alert rules of a service. -/
def alerts (slo : Slo) (objectives : Objectives) (methods : AlertMethods)
    (disableTicket : Bool) : Except Fault (List AlertRule) := do
  let errors ← errorBatch slo objectives methods
  let latency ← latencyBatch slo objectives methods
  return ((alertsOf errors ++ alertsOf latency).map (withMetadata slo)).filter
    (isKept disableTicket)

end Alerting

end ErrorBudget
