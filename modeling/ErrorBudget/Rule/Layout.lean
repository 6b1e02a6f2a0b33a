/-
  ErrorBudget.Rule.Layout

  Rules as trees: the fields that a rule file holds for each of them. What is
  empty is left out.
-/
import ErrorBudget.Rule
import ErrorBudget.Slo.Layout

namespace ErrorBudget

/-- A label set under a name, unless it is empty. -/
def Labels.toField (name : String) (l : Labels) : List (String × Tree) :=
  if l.isEmpty then [] else [(name, l.toTree)]

/-- Name and expression, and the labels if there are any. -/
def RecordingRule.toTree (r : RecordingRule) : Tree :=
  .map ([("record", .text r.record), ("expr", .text r.expr)] ++ r.labels.toField "labels")

/-- Name, interval and rules. -/
def RecordingGroup.toTree (g : RecordingGroup) : Tree :=
  .map
    [ ("name", .text g.name),
      ("interval", g.interval.toTree),
      ("rules", .list (g.rules.map RecordingRule.toTree)) ]

/-- Name and expression; the wait, the labels and the annotations if there are any. -/
def AlertRule.toTree (a : AlertRule) : Tree :=
  .map
    ([("alert", .text a.alert), ("expr", .text a.expr)]
      ++ (if a.wait.isZero then [] else [("for", a.wait.toTree)])
      ++ a.labels.toField "labels" ++ a.annotations.toField "annotations")

/-- Service, groups and alerts. -/
def SloRules.toTree (r : SloRules) : Tree :=
  .map
    [ ("slo", .text r.slo),
      ("groups", .list (r.groups.map RecordingGroup.toTree)),
      ("alerts", .list (r.alerts.map AlertRule.toTree)) ]

end ErrorBudget
