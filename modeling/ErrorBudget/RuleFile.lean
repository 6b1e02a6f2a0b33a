/-
  ErrorBudget.RuleFile

  Where rules are kept: in one file that has the groups of all services, or in
  manifests, one for a service's recording rules and one for its alerts.
-/
import ErrorBudget.Rule

namespace ErrorBudget

/-! ## Groups -/

/-- A rule of either kind. -/
inductive GroupedRule where
  | recording (r : RecordingRule)
  | alert (a : AlertRule)
deriving DecidableEq

/-- Rules that are evaluated together. An `interval` of zero is one that is not
    given. -/
structure RuleGroup where
  name : String
  interval : Duration := Duration.zero
  rules : List GroupedRule
deriving DecidableEq

/-- A group of recording rules. -/
def RuleGroup.ofRecording (g : RecordingGroup) : RuleGroup :=
  { name := g.name, interval := g.interval, rules := g.rules.map .recording }

/-- The group of a service's alerts. It has no interval. -/
def RuleGroup.ofAlerts (r : SloRules) : RuleGroup :=
  { name := r.alertGroupName, rules := r.alerts.map .alert }

/-! ## One file -/

/-- Groups of several services. -/
structure RuleFile where
  groups : List RuleGroup
deriving DecidableEq

namespace RuleFile

/-- The groups of a service, the alerts last. -/
def groupsOf (r : SloRules) : List RuleGroup :=
  r.groups.map .ofRecording ++ [.ofAlerts r]

/-- The file of several services. -/
def ofRules (rules : List SloRules) : RuleFile :=
  ⟨rules.flatMap groupsOf⟩

end RuleFile

/-! ## Manifests -/

/-- Groups under a name, marked with labels. -/
structure Manifest where
  name : String
  labels : Labels
  groups : List RuleGroup
deriving DecidableEq

namespace Manifest

/-- The manifests of a service: recording rules and alerts, as far as there are any. -/
def ofSlo (labels : Labels) (r : SloRules) : List Manifest :=
  (if r.groups.isEmpty then []
    else [⟨"slis-" ++ r.slo, labels, r.groups.map .ofRecording⟩])
  ++ (if r.alerts.isEmpty then []
    else [⟨"slos-alerts-" ++ r.slo, labels, [.ofAlerts r]⟩])

/-- The manifests of several services. -/
def ofRules (labels : Labels) (rules : List SloRules) : List Manifest :=
  rules.flatMap (ofSlo labels)

end Manifest

/-! ## Resources -/

/-- What a resource is called, and the labels that mark it. -/
structure ObjectMeta where
  name : String
  labels : Labels
deriving DecidableEq

/-- A resource whose specification holds groups of rules. -/
structure Resource where
  apiVersion : String
  kind : String
  metadata : ObjectMeta
  spec : RuleFile
deriving DecidableEq

/-- The resource that a manifest asks for. -/
def Manifest.resource (m : Manifest) : Resource where
  apiVersion := "monitoring.coreos.com/v1"
  kind := "PrometheusRule"
  metadata := ⟨m.name, m.labels⟩
  spec := ⟨m.groups⟩

end ErrorBudget
