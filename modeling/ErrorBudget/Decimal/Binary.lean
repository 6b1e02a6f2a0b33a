/-
  ErrorBudget.Decimal.Binary

  The number that a double denotes, read off its bits: a sign, a significand
  and a power of two.
-/

namespace ErrorBudget.Decimal

/-- The finite number `significand * 2 ^ exponent`, negated if `negative`. -/
structure Binary where
  negative : Bool
  significand : Nat
  exponent : Int
deriving DecidableEq, Repr

/-- What a double can be. -/
inductive Reading where
  | notANumber
  | infinite (negative : Bool)
  | finite (b : Binary)
deriving DecidableEq, Repr

/-- A double's reading: 1 sign bit, 11 exponent bits, 52 fraction bits. -/
def Reading.ofBits (bits : UInt64) : Reading :=
  let negative : Bool := bits.toNat / Nat.pow 2 63 = 1
  let power : Nat := bits.toNat / Nat.pow 2 52 % Nat.pow 2 11
  let fraction : Nat := bits.toNat % Nat.pow 2 52
  if power = 2047 then
    if fraction = 0 then .infinite negative else .notANumber
  else if power = 0 then
    .finite ⟨negative, fraction, -1074⟩
  else
    .finite ⟨negative, fraction + Nat.pow 2 52, (power : Int) - 1075⟩

/-- The reading of a float's bits. -/
def Reading.ofFloat (x : Float) : Reading :=
  .ofBits x.toBits

namespace Binary

/-- Numerator of the absolute value. -/
def num (b : Binary) : Nat :=
  b.significand * Nat.pow 2 b.exponent.toNat

/-- Denominator of the absolute value. -/
def den (b : Binary) : Nat :=
  Nat.pow 2 (-b.exponent).toNat

/-- Distance to the next number up, over `den`. -/
def gap (b : Binary) : Nat :=
  Nat.pow 2 b.exponent.toNat

/-- The number starts a binade, so that its neighbour below is half a gap away. -/
def startsBinade (b : Binary) : Bool :=
  b.significand = Nat.pow 2 52

end Binary

end ErrorBudget.Decimal
