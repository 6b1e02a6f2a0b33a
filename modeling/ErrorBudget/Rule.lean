/-
  ErrorBudget.Rule

  What is made from a service's objectives: rules that record ratios, in
  groups with an interval, and rules that alert on them.
-/
import ErrorBudget.Duration
import ErrorBudget.Labels
import ErrorBudget.Severity

namespace ErrorBudget

/-- Records the value of an expression under a name. -/
structure RecordingRule where
  record : String
  expr : String
  labels : Labels
deriving DecidableEq

/-- Recording rules that are evaluated together. -/
structure RecordingGroup where
  name : String
  interval : Duration
  rules : List RecordingRule
deriving DecidableEq

/-- Alerts when an expression has held for a while. -/
structure AlertRule where
  alert : String
  expr : String
  wait : Duration
  labels : Labels
  annotations : Labels
deriving DecidableEq

/-- The severity that an alert's labels name. -/
def AlertRule.severity? (a : AlertRule) : Option Severity :=
  (a.labels.get? "severity").bind Severity.ofTag?

/-- All rules of one service. -/
structure SloRules where
  slo : String
  groups : List RecordingGroup
  alerts : List AlertRule
deriving DecidableEq

namespace SloRules

/-- How many recording rules there are in all groups. -/
def recordingRuleCount (r : SloRules) : Nat :=
  (r.groups.flatMap RecordingGroup.rules).length

/-- Name of the group that holds the alerts. -/
def alertGroupName (r : SloRules) : String :=
  "slo:" ++ r.slo ++ ":alert"

end SloRules

end ErrorBudget
