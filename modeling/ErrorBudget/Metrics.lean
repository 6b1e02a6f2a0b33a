/-
  ErrorBudget.Metrics

  What a run counts: services with and without rules, rules by kind, and how
  long each service took. A recorder keeps the counts over many runs.
-/
import ErrorBudget.Generate

namespace ErrorBudget.Metrics

/-! ## Events -/

/-- Something that is counted while rules are made. -/
inductive Event where
  | alertRules (method : String) (signal : Signal) (count : Nat)
  | recordingRules (count : Nat)
  | timed
  | generated
  | failed
deriving DecidableEq, Repr

/-- Names of what is kept. -/
def slosGenerated : String := "slogen_slos_generated_total"
/-- Services without rules. -/
def sloFailures : String := "slogen_slo_failures_total"
/-- Recording rules. -/
def recordingRules : String := "slogen_recording_rules_total"
/-- Alert rules, by method and signal. -/
def alertRules : String := "slogen_alert_rules_total"
/-- How long a service took. -/
def generationDuration : String := "slogen_generation_duration_seconds"

/-- What each metric means. -/
def descriptions : List (String × String) :=
  [ (slosGenerated, "Total number of SLOs whose rules were generated successfully"),
    (sloFailures, "Total number of SLOs that failed rule generation"),
    (recordingRules, "Total number of recording rules generated"),
    (alertRules, "Total number of alert rules generated per alert method and signal"),
    (generationDuration, "Time to generate all rule groups for a single SLO in seconds") ]

/-- A batch of alerts is counted once it has been made. -/
def batchEvents (b : Option Alerting.Batch) : List Event :=
  match b with
  | some b => [.alertRules b.method b.signal b.alerts.length]
  | none => []

/-- What is counted while a prepared service's alerts are made; latency comes
    after errors, if those could be made. -/
def alertEvents (p : PreparedSlo) : List Event :=
  match Alerting.errorBatch p.slo p.objectives p.methods with
  | .error _ => []
  | .ok errors => batchEvents errors ++
    match Alerting.latencyBatch p.slo p.objectives p.methods with
    | .error _ => []
    | .ok latency => batchEvents latency

/-- What is counted while the rules of one service are made. -/
def sloEvents (g : Generator) (slo : Slo) (classes : ClassTable) : List Event :=
  match g.prepare slo classes with
  | .error _ => []
  | .ok p => alertEvents p ++
    match g.build p with
    | .error _ => []
    | .ok rules => [.recordingRules rules.recordingRuleCount, .timed]

/-- What is counted while the rules of a document are made. -/
def documentEvents (g : Generator) (d : Document) : List Event :=
  let classes := ClassTable.ofClasses d.classes
  d.slos.flatMap fun slo => sloEvents g slo classes ++
    match g.generate slo classes with
    | .ok _ => [.generated]
    | .error _ => [.failed]

/-! ## Recorder -/

/-- What a recorder keeps for a metric: a sum, or how many samples there were. -/
inductive Value where
  | counter (n : Nat)
  | samples (n : Nat)
deriving DecidableEq, Repr

/-- One metric of a recorder. -/
structure Entry where
  metric : String
  value : Value
deriving DecidableEq, Repr

/-- The metrics that were touched, by name and labels. -/
structure Recorder where
  entries : KeyMap Entry := KeyMap.empty
  described : Bool := false

namespace Recorder

/-- Name and labels of a metric as one text. -/
def key (metric : String) (labels : List (String × String)) : String :=
  metric ++ "\x7b" ++ ",".intercalate (labels.map fun (k, v) => k ++ "=" ++ v) ++ "\x7d"

/-- The recorder with the value of a metric changed; it starts at `start`. -/
def touch (r : Recorder) (metric : String) (labels : List (String × String)) (start : Value)
    (change : Value → Value) : Recorder :=
  let key := key metric labels
  let old := ((r.entries.get? key).map Entry.value).getD start
  { r with entries := r.entries.insert key ⟨metric, change old⟩ }

/-- A counter raised by `n`. -/
def count (r : Recorder) (metric : String) (labels : List (String × String)) (n : Nat) :
    Recorder :=
  r.touch metric labels (.counter 0) fun
    | .counter m => .counter (m + n)
    | v => v

/-- One more sample. -/
def sample (r : Recorder) (metric : String) : Recorder :=
  r.touch metric [] (.samples 0) fun
    | .samples m => .samples (m + 1)
    | v => v

/-- The recorder after an event. -/
def record (r : Recorder) : Event → Recorder
  | .alertRules method signal n =>
    r.count alertRules [("alert_method", method), ("signal", signal.text)] n
  | .recordingRules n => r.count recordingRules [] n
  | .timed => r.sample generationDuration
  | .generated => r.count slosGenerated [] 1
  | .failed => r.count sloFailures [] 1

/-- The recorder after events in order. -/
def recordAll (r : Recorder) (events : List Event) : Recorder :=
  events.foldl record r

/-- The value of a metric, if it was touched. -/
def value? (r : Recorder) (metric : String) (labels : List (String × String)) : Option Value :=
  (r.entries.get? (key metric labels)).map Entry.value

/-- All metrics that were touched, with their descriptions if they were given. -/
def listing (r : Recorder) : List (String × Value × Option String) :=
  r.entries.entries.map fun (key, e) =>
    (key, e.value, if r.described then descriptions.lookup e.metric else none)

end Recorder

end ErrorBudget.Metrics
