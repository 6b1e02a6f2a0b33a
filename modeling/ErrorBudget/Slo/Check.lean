/-
  ErrorBudget.Slo.Check

  The ranges of numbers that objectives and custom windows have to keep. A
  number that is none, such as NaN, is in no range.
-/
import ErrorBudget.Slo
import ErrorBudget.Fault
import ErrorBudget.Text.Blank

namespace ErrorBudget

/-- Whether a number is a share of the whole: from nothing to all of it. -/
def isPercentage (x : Float) : Bool :=
  0.0 ≤ x && x ≤ 100.0

/-- Whether a number is a share of the whole and not nothing. -/
def isPositivePercentage (x : Float) : Bool :=
  0.0 < x && x ≤ 100.0

/-- A target needs a boundary and a percentage. -/
def LatencyTarget.check (t : LatencyTarget) : Except Fault Unit :=
  if Text.isBlank t.le then .error (.range .blankBoundary)
  else if !isPercentage t.target then .error (.range (.target t.le t.target))
  else .ok ()

/-- Availability first, then each target in order. -/
def Objectives.check (o : Objectives) : Except Fault Unit :=
  if !isPercentage o.availability then .error (.range (.availability o.availability))
  else o.latency.forM LatencyTarget.check

/-- A custom window spends some of the budget over some time. -/
def Window.check (w : Window) (index : Nat) : Except Fault Unit :=
  if !isPositivePercentage w.consumption then
    .error (.range (.consumption index w.consumption))
  else if w.duration.isZero then .error (.range (.emptyWindow index))
  else .ok ()

/-- Checks the windows in order; the first has the number `index`. -/
def Window.checkAll (index : Nat) : List Window → Except Fault Unit
  | [] => .ok ()
  | w :: ws => match w.check index with
    | .error fault => .error fault
    | .ok () => checkAll (index + 1) ws

/-- Checks an indicator's custom windows. -/
def Indicator.checkWindows (i : Indicator) : Except Fault Unit :=
  Window.checkAll 0 i.windows

end ErrorBudget
