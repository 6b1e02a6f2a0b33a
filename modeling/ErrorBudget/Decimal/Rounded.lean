/-
  ErrorBudget.Decimal.Rounded

  A positive fraction in significant decimal digits: rounded exactly to a
  given number of them, and as the shortest digits that read back as the same
  double.
-/
import ErrorBudget.Decimal.Digits
import ErrorBudget.Decimal.Binary

namespace ErrorBudget.Decimal

/-- Significant digits `d₁ d₂ … dₙ` with the power of ten of `d₁`. -/
structure Scientific where
  digits : List Char
  exponent : Int
deriving DecidableEq, Repr

/-- The digits of `n` as those of a number whose first of `count` digits has the
    power `x`; a carry into one more digit raises the power. -/
def Scientific.ofGrid (n count : Nat) (x : Int) : Scientific :=
  if n = Nat.pow 10 count then ⟨['1'], x + 1⟩ else ⟨trimZeros (Decimal.digits n), x⟩

/-- The quotient `num / den` rounded to `count` significant digits, a half to the even
    neighbour, without the zeros at the end. -/
def rounded (count num den : Nat) : Scientific :=
  let x := magnitude num den
  let shift := (count : Int) - 1 - x
  let n := roundHalfEven (num * Nat.pow 10 shift.toNat) (den * Nat.pow 10 (-shift).toNat)
  .ofGrid n count x

/-! ## Shortest digits that read back -/

/-- Whether `n * 10 ^ (-shift)` lies among the numbers that round to `b`: between
    the midpoints to its neighbours, the midpoints included if `b` is even. -/
def Binary.covers (b : Binary) (n : Nat) (shift : Int) : Bool :=
  let below := if b.startsBinade then b.gap else 2 * b.gap
  let scale := Nat.pow 10 shift.toNat
  let point := 4 * n * b.den * Nat.pow 10 (-shift).toNat
  let low := (4 * b.num - below) * scale
  let high := (4 * b.num + 2 * b.gap) * scale
  if b.significand % 2 = 0 then low ≤ point && point ≤ high
  else low < point && point < high

/-- The neighbour of `b` on the grid of `count` significant digits that reads
    back as `b`; of two the nearer one, and of two equally near the larger. -/
def Binary.onGrid? (b : Binary) (count : Nat) : Option Scientific :=
  let x := magnitude b.num b.den
  let shift := (count : Int) - 1 - x
  let top := b.num * Nat.pow 10 shift.toNat
  let bottom := b.den * Nat.pow 10 (-shift).toNat
  let floor := top / bottom
  let below := b.covers floor shift
  let above := b.covers (floor + 1) shift
  let pick :=
    if below && above then
      some (if 2 * (top % bottom) < bottom then floor else floor + 1)
    else if below then some floor
    else if above then some (floor + 1)
    else none
  pick.map fun n => .ofGrid n count x

/-- The fewest significant digits that read back as `b`, which seventeen always do. -/
def Binary.shortest (b : Binary) : Scientific :=
  ((List.range 17).findSome? fun i => b.onGrid? (i + 1)).getD (rounded 17 b.num b.den)

end ErrorBudget.Decimal
