/-
  ErrorBudget.Duration

  Spans of time in milliseconds, below `2 ^ 64`, and the units that their text
  is written in.
-/

namespace ErrorBudget

/-- A span of time in whole milliseconds. -/
structure Duration where
  millis : UInt64
deriving DecidableEq, Repr, Inhabited

namespace Duration

/-! ## Units -/

/-- The units of the written form, largest first. -/
inductive Scale where
  | year | week | day | hour | minute | second | millisecond
deriving DecidableEq, Repr

namespace Scale

/-- All units, largest first. -/
def all : List Scale :=
  [year, week, day, hour, minute, second, millisecond]

/-- Length of a unit in milliseconds; a year has 365 days. -/
def millis : Scale → Nat
  | millisecond => 1
  | second => 1000
  | minute => 60 * 1000
  | hour => 60 * 60 * 1000
  | day => 24 * 60 * 60 * 1000
  | week => 7 * 24 * 60 * 60 * 1000
  | year => 365 * 24 * 60 * 60 * 1000

/-- What stands after the amount of a unit. -/
def suffix : Scale → List Char
  | year => ['y']
  | week => ['w']
  | day => ['d']
  | hour => ['h']
  | minute => ['m']
  | second => ['s']
  | millisecond => ['m', 's']

end Scale

/-! ## Values -/

/-- The empty span. -/
def zero : Duration := ⟨0⟩

/-- A span of `n` milliseconds, for `n` below `2 ^ 64`. -/
def ofMillis (n : Nat) : Duration := ⟨UInt64.ofNat n⟩

/-- A span of `n` units, as long as that is below `2 ^ 64` milliseconds. -/
def of (n : Nat) (unit : Scale) : Duration := ofMillis (n * unit.millis)

/-- Whether the span is empty. -/
def isZero (d : Duration) : Bool := d.millis == 0

/-- How many times `whole` goes into `part`, as a double; an empty `whole` has
    no ratio. -/
def ratio? (part whole : Duration) : Option Float :=
  if whole.isZero then none
  else some (part.millis.toFloat / whole.millis.toFloat)

/-- One of `n` equal parts, in whole milliseconds; there are no zero parts. -/
def div? (d : Duration) (n : UInt64) : Option Duration :=
  if n = 0 then none else some ⟨d.millis / n⟩

end Duration

end ErrorBudget
