/-
  ErrorBudget.Recording

  The recording rules of a service. Every window of the schedule has, in this
  order, the traffic, the errors, the latency quantiles and the ratio of fast
  requests for each boundary, as far as there are templates for them.
-/
import ErrorBudget.Rule
import ErrorBudget.Schedule
import ErrorBudget.Slo
import ErrorBudget.Template

namespace ErrorBudget.Recording

/-- The quantiles that are recorded, with the part of the record's name. -/
def quantiles : List (String × Float) :=
  [("p50", 0.5), ("p95", 0.95), ("p99", 0.99)]

/-- Labels that every recording rule of a service has: the service unless its
    metrics bring their own, and the service's labels over that. -/
def baseLabels (slo : Slo) : Labels :=
  (if slo.honorLabels then KeyMap.empty else KeyMap.empty.insert "service" slo.name).union
    slo.labels

/-- The boundaries at which latency is recorded: the indicator's own, or those
    of the objectives. -/
def boundaries (slo : Slo) (objectives : Objectives) : List String :=
  if slo.latency.buckets.isEmpty then objectives.latencyBuckets else slo.latency.buckets

/-! ## Rules of one window -/

/-- The rule that records traffic. -/
def trafficRules (slo : Slo) (bucket : String) : List RecordingRule :=
  if slo.traffic.hasExpr then
    [⟨"slo:service_traffic:ratio_rate_" ++ bucket,
      Template.render slo.traffic.expr { window := some bucket }, baseLabels slo⟩]
  else []

/-- The rule that records errors. -/
def errorRules (slo : Slo) (bucket : String) : List RecordingRule :=
  if slo.errors.hasExpr then
    [⟨"slo:service_errors_total:ratio_rate_" ++ bucket,
      Template.render slo.errors.expr { window := some bucket }, baseLabels slo⟩]
  else []

/-- The rules that record latency quantiles. -/
def quantileRules (slo : Slo) (bucket : String) : List RecordingRule :=
  if slo.quantiles.hasExpr then
    quantiles.map fun (name, quantile) =>
      ⟨"slo:service_latency:" ++ name ++ "_" ++ bucket,
        Template.render slo.quantiles.expr { window := some bucket, quantile := some quantile },
        baseLabels slo⟩
  else []

/-- The rules that record the ratio of requests within each boundary. -/
def latencyRules (slo : Slo) (les : List String) (bucket : String) : List RecordingRule :=
  if slo.latency.hasExpr then
    les.map fun le =>
      ⟨"slo:service_latency:ratio_rate_" ++ bucket,
        Template.render slo.latency.expr { window := some bucket, le := some le },
        (baseLabels slo).insert "le" le⟩
  else []

/-- All rules of a service for one window. -/
def bucketRules (slo : Slo) (les : List String) (bucket : String) : List RecordingRule :=
  trafficRules slo bucket ++ errorRules slo bucket ++ quantileRules slo bucket
    ++ latencyRules slo les bucket

/-! ## Groups -/

/-- The windows that are recorded; without tickets, not those that only ticket
    alerts look at. -/
def keptBuckets (sample : Sample) (disableTicket : Bool) : List String :=
  sample.buckets.filter fun b => !(disableTicket && Schedule.isTicketOnly b)

/-- The group of one sample, unless it has no rules. -/
def group? (slo : Slo) (objectives : Objectives) (disableTicket : Bool) (sample : Sample) :
    Option RecordingGroup :=
  let rules := (keptBuckets sample disableTicket).flatMap
    (bucketRules slo (boundaries slo objectives))
  if rules.isEmpty then none
  else some ⟨"slo:" ++ slo.name ++ ":" ++ sample.name, sample.interval, rules⟩

/-- The recording groups of a service, in the order of the schedule. -/
def groups (slo : Slo) (objectives : Objectives) (disableTicket : Bool) :
    List RecordingGroup :=
  Schedule.samples.filterMap (group? slo objectives disableTicket)

end ErrorBudget.Recording
