/-
  ErrorBudget.Schedule

  How often ratios are recorded and over which windows: short windows often,
  long ones rarely.
-/
import ErrorBudget.Duration

namespace ErrorBudget

/-- Ratios over the same windows, recorded at the same interval. -/
structure Sample where
  name : String
  interval : Duration
  /-- The windows, in the order in which they are recorded. -/
  buckets : List String
deriving DecidableEq, Repr

namespace Schedule

/-- All samples, in the order in which they are recorded. -/
def samples : List Sample :=
  [ ⟨"short", Duration.of 30 .second, ["5m", "30m", "1h"]⟩,
    ⟨"medium", Duration.of 2 .minute, ["2h", "6h"]⟩,
    ⟨"daily", Duration.of 5 .minute, ["1d", "3d"]⟩ ]

/-- All windows that are recorded. -/
def buckets : List String :=
  samples.flatMap Sample.buckets

/-- Windows that only ticket alerts look at. -/
def isTicketOnly (bucket : String) : Bool :=
  ["3d", "1d", "2h"].contains bucket

/-- Whether a window is recorded. -/
def isSampled (window : String) : Bool :=
  buckets.contains window

end Schedule

end ErrorBudget
