/-
  ErrorBudget.Proofs.Decimal.Precision

  Doubles in a number of significant digits. The double denotes one exact number, and there is
  one number that it rounds to; the text denotes this number, in the form that its power of
  ten calls for.
-/
import ErrorBudget.Proofs.Decimal.Layout

namespace ErrorBudget.Decimal

/-! ## Significant rounding -/

/-- `r` is `q` in `count` significant digits: the nearest multiple of the power of ten that the
    last of so many digits has in `q`, a half to the even multiple. -/
def RoundsSignificant (count : Nat) (q r : ℚ) : Prop :=
  ∃ m : ℤ, 10 ^ m ≤ |q| ∧ |q| < 10 ^ (m + 1) ∧ RoundsEven (10 ^ (m - (count - 1))) q r

/-- Only one power of ten is that of the first digit. -/
theorem ten_zpow_unique {q : ℚ} {m n : ℤ} (low : 10 ^ m ≤ q) (high : q < 10 ^ (m + 1))
    (low' : 10 ^ n ≤ q) (high' : q < 10 ^ (n + 1)) : m = n := by
  have more : (1 : ℚ) < 10 := by norm_num
  have below := (zpow_lt_zpow_iff_right₀ more).1 (low.trans_lt high')
  have above := (zpow_lt_zpow_iff_right₀ more).1 (low'.trans_lt high)
  omega

theorem RoundsSignificant.unique {count : Nat} {q r s : ℚ} (hr : RoundsSignificant count q r)
    (hs : RoundsSignificant count q s) : r = s := by
  obtain ⟨m, low, high, rounds⟩ := hr
  obtain ⟨n, low', high', rounds'⟩ := hs
  obtain rfl := ten_zpow_unique low high low' high'
  exact rounds.unique (zpow_pos (by norm_num) _) rounds'

theorem RoundsSignificant.neg {count : Nat} {q r : ℚ} (h : RoundsSignificant count q r) :
    RoundsSignificant count (-q) (-r) := by
  obtain ⟨m, low, high, rounds⟩ := h
  exact ⟨m, by rwa [abs_neg], by rwa [abs_neg], rounds.neg⟩

section

variable {num den count : Nat} (num_pos : 0 < num) (den_pos : 0 < den) (count_pos : 0 < count)

include num_pos den_pos count_pos

/-- Significant digits stand for the fraction rounded to so many. -/
theorem roundsSignificant_rounded :
    RoundsSignificant count (num / den) (rounded count num den).value := by
  have fraction_pos : (0 : ℚ) < num / den :=
    div_pos (Nat.cast_pos.2 num_pos) (Nat.cast_pos.2 den_pos)
  have step : magnitude num den - (count - 1) = -((count : Int) - 1 - magnitude num den) := by
    omega
  refine ⟨magnitude num den, ?_, ?_, ?_⟩
  · rw [abs_of_pos fraction_pos]
    exact ten_zpow_magnitude_le num_pos den_pos
  · rw [abs_of_pos fraction_pos]
    exact lt_ten_zpow_magnitude num_pos den_pos
  · rw [value_rounded num_pos den_pos count_pos, step]
    exact roundsEven_scaled num den_pos _

theorem significant_rounded : (rounded count num den).Significant := by
  obtain ⟨n, pos, shown⟩ := rounded_eq_ofGrid num_pos den_pos count_pos
  rw [shown]
  exact Scientific.significant_ofGrid pos _ _

end

/-! ## Doubles -/

/-- A number other than zero is written as it is in significant digits, plainly or with an
    exponent as its first digit calls for. -/
theorem precise_rounds {v : Float} {q : ℚ} (h : number? v = some q) (nonzero : q ≠ 0) (p : Nat) :
    ∃ r, (∀ r', RoundsSignificant (max p 1) q r' ↔ r' = r) ∧
      denoted? (general v (some p)).toList = some r ∧
      ∃ x : ℤ, 10 ^ x ≤ |r| ∧ |r| < 10 ^ (x + 1) ∧
        (IsScientific (general v (some p)).toList ↔ x < -4 ∨ (max p 1 : ℕ) ≤ x) ∧
        (IsPlain (general v (some p)).toList ↔ ¬ (x < -4 ∨ (max p 1 : ℕ) ≤ x)) := by
  obtain ⟨b, finite, rfl⟩ := number?_eq_some h
  have some_digit : 0 < max p 1 := by omega
  have not_zero : b.significand ≠ 0 := by
    intro zero
    rw [Binary.value, zero, Nat.cast_zero, zero_mul, mul_zero] at nonzero
    exact nonzero rfl
  have significant := significant_rounded (Binary.num_pos not_zero) b.den_pos some_digit
  have rounds : RoundsSignificant (max p 1) b.value
      ((if b.negative then -1 else 1) * (rounded (max p 1) b.num b.den).value) := by
    have unsigned := roundsSignificant_rounded (Binary.num_pos not_zero) b.den_pos some_digit
    rw [Binary.value_eq]
    cases b.negative with
    | true =>
      rw [if_pos rfl, neg_one_mul, neg_one_mul]
      exact unsigned.neg
    | false =>
      rw [if_neg Bool.false_ne_true, one_mul, one_mul]
      exact unsigned
  have magnitude : |(if b.negative then -1 else 1) * (rounded (max p 1) b.num b.den).value| =
      (rounded (max p 1) b.num b.den).value := by
    rw [abs_mul, abs_of_nonneg (Scientific.value_nonneg _)]
    cases b.negative with
    | true => rw [if_pos rfl, abs_neg, abs_one, one_mul]
    | false => rw [if_neg Bool.false_ne_true, abs_one, one_mul]
  have text : (general v (some p)).toList = b.general (some p) := by
    rw [general, finite]
    exact String.toList_ofList
  have layout : b.general (some p) =
      if b.negative then '-' :: (rounded (max p 1) b.num b.den).general (max p 1 : ℕ)
      else (rounded (max p 1) b.num b.den).general (max p 1 : ℕ) := by
    rw [Binary.general, if_neg not_zero]
    dsimp only
    rw [Binary.precise_eq not_zero some_digit]
  refine ⟨_, fun r' => ⟨fun hr' => hr'.unique rounds, fun same => same ▸ rounds⟩, ?_,
    (rounded (max p 1) b.num b.den).exponent, ?_, ?_, ?_⟩
  · rw [text]
    exact Binary.denoted?_general not_zero p
  · rw [magnitude]
    exact (Scientific.value_bounds significant).1
  · rw [magnitude]
    exact (Scientific.value_bounds significant).2
  · rw [text, layout]
    exact Scientific.form_general significant _ _

/-- In three digits, a number just below a hundred is carried into a new power of ten, and
    still needs no exponent. -/
theorem precise_rounds_carry :
    general 99.96 (some 3) = "100" ∧ RoundsSignificant 3 (7034059667999293 / 2 ^ 46) 100 ∧
      IsPlain "100".toList := by
  have read : Reading.ofFloat 99.96 = .finite ⟨false, 7034059667999293, -46⟩ := by decide
  have number : number? 99.96 = some (7034059667999293 / 2 ^ 46) := by
    rw [number?, read]
    norm_num [Binary.value]
  have text : general 99.96 (some 3) = "100" := by decide
  obtain ⟨r, rounds, denotes, x, low, high, -, plain⟩ := precise_rounds number (by norm_num) 3
  rw [text] at denotes plain
  have hundred : denoted? "100".toList = some (((100 : Nat) : ℚ) * 10 ^ (0 : Int)) := rfl
  obtain rfl : 100 = r := by
    rw [hundred] at denotes
    simpa using denotes
  have power : x = 2 := ten_zpow_unique low high (by norm_num) (by norm_num)
  exact ⟨text, (rounds 100).2 rfl, plain.2 (by omega)⟩

end ErrorBudget.Decimal
