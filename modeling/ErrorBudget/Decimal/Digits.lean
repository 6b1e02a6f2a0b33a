/-
  ErrorBudget.Decimal.Digits

  Decimal digits of natural numbers, and the power of ten that a positive
  fraction reaches.
-/

namespace ErrorBudget.Decimal

/-- The decimal digits of `n`, most significant first; zero has the digit `0`. -/
def digits (n : Nat) : List Char :=
  Nat.toDigits 10 n

/-- The number that a list of decimal digits denotes. -/
def ofDigits (cs : List Char) : Nat :=
  Nat.ofDigitChars 10 cs 0

@[simp] theorem ofDigits_digits (n : Nat) : ofDigits (digits n) = n :=
  Nat.ofDigitChars_ten_toDigits

/-- How many decimal digits `n` has. -/
def digitCount (n : Nat) : Nat :=
  (digits n).length

/-- The `x` with `10 ^ x ≤ num / den < 10 ^ (x + 1)`, for positive `num` and `den`.

    At or above one it is counted in the digits of the whole part. Below one it
    is the least `k` with `den / num ≤ 10 ^ k`, negated. -/
def magnitude (num den : Nat) : Int :=
  if den ≤ num then
    (digitCount (num / den) : Int) - 1
  else
    -(digitCount ((den + num - 1) / num - 1) : Int)

/-- The whole number nearest to `num / den`, a half to the even neighbour. -/
def roundHalfEven (num den : Nat) : Nat :=
  let q := num / den
  let r := num % den
  if 2 * r < den then q
  else if den < 2 * r then q + 1
  else if q % 2 = 0 then q
  else q + 1

/-- Digits without the zeros at their end. -/
def trimZeros (ds : List Char) : List Char :=
  (ds.reverse.dropWhile (· == '0')).reverse

end ErrorBudget.Decimal
