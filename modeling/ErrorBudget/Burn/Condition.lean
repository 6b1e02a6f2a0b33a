/-
  ErrorBudget.Burn.Condition

  Conditions under which an alert fires: a recorded ratio beyond a threshold,
  over a long window and, if there is one, over a short window too.
-/
import ErrorBudget.Decimal.General
import ErrorBudget.Query

namespace ErrorBudget.Burn

/-- The ratio that a signal's conditions look at. -/
inductive Ratio where
  | errors
  | latency
deriving DecidableEq, Repr

/-- The common part of the names under which a ratio is recorded. -/
def Ratio.metric : Ratio → String
  | errors => "slo:service_errors_total"
  | latency => "slo:service_latency"

/-- The name under which a ratio over a window is recorded. -/
def Ratio.record (r : Ratio) (window : String) : String :=
  r.metric ++ ":ratio_rate_" ++ window

/-- What a ratio is compared with. -/
inductive Threshold where
  /-- A number. -/
  | value (x : Float)
  /-- A rate times a number, both to three digits. -/
  | scaled (rate x : Float)
  /-- A rate in its shortest digits times a number, in parentheses. -/
  | budget (rate x : Float)

/-- How many significant digits thresholds have. -/
def precision : Option Nat := some 3

/-- The threshold as an expression. -/
def Threshold.query : Threshold → Query
  | value x => .number (Decimal.general x precision).toList
  | scaled rate x =>
    .product (.number (Decimal.general rate precision).toList)
      (.number (Decimal.general x precision).toList)
  | budget rate x =>
    .group (.product (.number (Decimal.general rate none).toList)
      (.number (Decimal.general x precision).toList))

/-- A ratio beyond a threshold. -/
structure Condition where
  ratio : Ratio
  labels : Labels
  relation : Relation
  threshold : Threshold
  long : String
  short : Option String

namespace Condition

/-- The comparison over one window. -/
def exceeds (c : Condition) (window : String) : Query :=
  .compare c.relation (.series (c.ratio.record window).toList c.labels) c.threshold.query

/-- The condition as an expression: both comparisons in parentheses, or the only
    one. -/
def query (c : Condition) : Query :=
  match c.short with
  | some short => .group (.both (c.exceeds c.long) (c.exceeds short))
  | none => c.exceeds c.long

/-- Conditions of which any may hold, as one expression in the given order. -/
def anyOf? : List Condition → Option Query
  | [] => none
  | c :: cs => some (cs.foldl (fun q d => .either q d.query) c.query)

/-- The written form of conditions of which any may hold; empty for none. -/
def text (cs : List Condition) : String :=
  match anyOf? cs with
  | none => ""
  | some q => String.ofList q.chars

end Condition

/-! ## Labels that conditions select by -/

/-- Selects the series of a service. -/
def serviceLabels (service : String) : Labels :=
  KeyMap.ofList [("service", service)]

/-- Selects the series of a service and a boundary. -/
def latencyLabels (service le : String) : Labels :=
  KeyMap.ofList [("le", le), ("service", service)]

end ErrorBudget.Burn
