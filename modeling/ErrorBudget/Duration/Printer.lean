/-
  ErrorBudget.Duration.Printer

  The written form of a span: as many of each unit as fit, largest unit first,
  units without any left out, and `0s` for the empty span.
-/
import ErrorBudget.Duration
import ErrorBudget.Decimal.Digits

namespace ErrorBudget.Duration

/-- An amount of a unit. -/
structure Component where
  amount : Nat
  unit : Scale
deriving DecidableEq, Repr

namespace Component

/-- Digits of the amount, then the unit. -/
def text (c : Component) : List Char :=
  Decimal.digits c.amount ++ c.unit.suffix

/-- Length in milliseconds. -/
def millis (c : Component) : Nat :=
  c.amount * c.unit.millis

end Component

/-- A length of `n` milliseconds in the given units: of each as many as fit into what the
    units before it leave over. -/
def decompose : List Scale → Nat → List Component
  | [], _ => []
  | unit :: units, n =>
    let rest := decompose units (n % unit.millis)
    if n / unit.millis = 0 then rest else ⟨n / unit.millis, unit⟩ :: rest

/-- The written form as characters. -/
def chars (d : Duration) : List Char :=
  if d.isZero then ['0', 's']
  else (decompose Scale.all d.millis.toNat).flatMap Component.text

/-- The written form. -/
def text (d : Duration) : String :=
  String.ofList d.chars

instance : ToString Duration := ⟨text⟩

end ErrorBudget.Duration
