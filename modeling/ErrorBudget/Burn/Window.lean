/-
  ErrorBudget.Burn.Window

  The windows over which a budget's burn rate is watched, by severity: a fixed
  table, or windows that are worked out from how much of the budget may be
  spent within a span.
-/
import ErrorBudget.Duration.Printer
import ErrorBudget.Fault
import ErrorBudget.Severity
import ErrorBudget.Slo

namespace ErrorBudget.Burn

/-- A burn rate and the windows over which it must not be exceeded. -/
structure BurnWindow where
  multiplier : Float
  long : String
  short : Option String

/-- The windows to watch when there are no custom ones. -/
def defaultWindows : List (Severity × List BurnWindow) :=
  [ (.page, [⟨14.4, "1h", some "5m"⟩, ⟨6.0, "6h", some "30m"⟩]),
    (.ticket, [⟨3.0, "1d", some "2h"⟩, ⟨1.0, "3d", some "6h"⟩]) ]

/-- A long window is this many times as long as its short window. -/
def shortDivisor : UInt64 := 12

/-- The burn rate that spends a window's share of the budget within its span,
    given that the objective covers `objective`. -/
def BurnWindow.ofWindow? (objective : Duration) (short : Bool) (w : Window) :
    Option BurnWindow :=
  (w.duration.ratio? objective).map fun ratio =>
    { multiplier := (w.consumption / 100.0) / ratio
      long := w.duration.text
      short := if short then (w.duration.div? shortDivisor).map Duration.text else none }

/-- The custom windows with a severity's tag. -/
def tagged (severity : Severity) (windows : List Window) : List Window :=
  windows.filter fun w => Severity.ofTag? w.notification == some severity

/-- The windows to watch, page before ticket. Custom windows need an objective
    that covers some time; a severity that none of them names has no entry. -/
def burnWindows (objective : Duration) (windows : List Window) (short : Bool) :
    Except Fault (List (Severity × List BurnWindow)) :=
  if windows.isEmpty then .ok defaultWindows
  else if objective.isZero then .error .missingObjectiveWindow
  else .ok <| Severity.all.filterMap fun severity =>
    match (tagged severity windows).filterMap (BurnWindow.ofWindow? objective short) with
    | [] => none
    | burn => some (severity, burn)

end ErrorBudget.Burn
