/-
  ErrorBudget.Proofs.Decimal.Interval

  The numbers that are rounded to one double: those between the midpoints to its neighbours,
  and the midpoints too if its significand is even. On a grid of significant digits, only the
  two neighbours of the double have to be looked at to find the ones that are nearest.
-/
import ErrorBudget.Proofs.Decimal.Nearest

namespace ErrorBudget.Decimal

namespace Binary

/-! ## The interval -/

/-- The midpoint to the neighbour below, which at the start of a binade is nearer. -/
def lower (b : Binary) : ℚ :=
  (b.significand - if b.startsBinade then 1 / 4 else 1 / 2) * 2 ^ b.exponent

/-- The midpoint to the neighbour above. -/
def upper (b : Binary) : ℚ :=
  (b.significand + 1 / 2) * 2 ^ b.exponent

/-- A number between the midpoints, or on one of them if the significand is even. -/
def Captures (b : Binary) (q : ℚ) : Prop :=
  if b.significand % 2 = 0 then b.lower ≤ q ∧ q ≤ b.upper else b.lower < q ∧ q < b.upper

theorem captures_of_between {b : Binary} {q : ℚ} (low : b.lower < q) (high : q < b.upper) :
    b.Captures q := by
  rw [Captures]
  split
  · exact ⟨low.le, high.le⟩
  · exact ⟨low, high⟩

theorem Captures.between {b : Binary} {q : ℚ} (h : b.Captures q) : b.lower ≤ q ∧ q ≤ b.upper := by
  rw [Captures] at h
  split at h
  · exact h
  · exact ⟨h.1.le, h.2.le⟩

theorem Captures.convex {b : Binary} {p q r : ℚ} (hp : b.Captures p) (hr : b.Captures r)
    (low : p ≤ q) (high : q ≤ r) : b.Captures q := by
  rw [Captures] at hp hr ⊢
  split at hp
  · rename_i even
    rw [if_pos even] at hr ⊢
    exact ⟨hp.1.trans low, high.trans hr.2⟩
  · rename_i odd
    rw [if_neg odd] at hr ⊢
    exact ⟨hp.1.trans_le low, high.trans_lt hr.2⟩

/-- A number lies in its own interval. -/
theorem captures_self (b : Binary) : b.Captures (b.num / b.den) := by
  have gap_pos : (0 : ℚ) < 2 ^ b.exponent := zpow_pos two_pos _
  rw [num_div_den]
  refine captures_of_between ?_ ?_
  · rw [lower]
    refine mul_lt_mul_of_pos_right ?_ gap_pos
    split
    · linarith
    · linarith
  · rw [upper]
    exact mul_lt_mul_of_pos_right (by linarith) gap_pos

theorem gap_eq {b : Binary} (h : b.significand ≠ 0) : (b.gap : ℚ) = 2 ^ b.exponent * b.den := by
  have den_pos : (b.den : ℚ) ≠ 0 := by exact_mod_cast b.den_pos.ne'
  have significand : (b.significand : ℚ) ≠ 0 := by exact_mod_cast h
  have value := num_div_den b
  have steps : (b.num : ℚ) = b.significand * b.gap := by
    rw [num, gap]
    push_cast
    rfl
  rw [div_eq_iff den_pos, steps, mul_assoc] at value
  exact mul_left_cancel₀ significand value

/-- The comparison of scaled whole numbers tells if a decimal number is in the interval. -/
theorem covers_iff {b : Binary} (h : b.significand ≠ 0) (n : Nat) (shift : Int) :
    b.covers n shift = true ↔ b.Captures (n * 10 ^ (-shift)) := by
  have ten : (10 : ℚ) ≠ 0 := by norm_num
  have den_pos : (0 : ℚ) < b.den := by exact_mod_cast b.den_pos
  have scale_pos : (0 : ℚ) < 4 * b.den * 10 ^ shift.toNat := by positivity
  have steps : b.num = b.significand * b.gap := rfl
  have point : ((4 * n * b.den * 10 ^ (-shift).toNat : Nat) : ℚ) =
      n * 10 ^ (-shift) * (4 * b.den * 10 ^ shift.toNat) := by
    have power : (10 : ℚ) ^ (-shift).toNat = 10 ^ (-shift) * 10 ^ shift.toNat := by
      rw [← zpow_natCast, ← zpow_natCast, ← zpow_add₀ ten]
      congr 1
      omega
    push_cast
    rw [power]
    ring
  have low :
      (((4 * b.num - if b.startsBinade then b.gap else 2 * b.gap) * 10 ^ shift.toNat : Nat) : ℚ) =
        b.lower * (4 * b.den * 10 ^ shift.toNat) := by
    have some_gap : b.gap ≤ b.num := Nat.le_mul_of_pos_left _ (Nat.pos_of_ne_zero h)
    have room : (if b.startsBinade then b.gap else 2 * b.gap) ≤ 4 * b.num := by
      split
      · omega
      · omega
    rw [Nat.cast_mul, Nat.cast_sub room, steps, lower]
    split
    · push_cast
      rw [gap_eq h]
      ring
    · push_cast
      rw [gap_eq h]
      ring
  have high : (((4 * b.num + 2 * b.gap) * 10 ^ shift.toNat : Nat) : ℚ) =
      b.upper * (4 * b.den * 10 ^ shift.toNat) := by
    rw [steps, upper]
    push_cast
    rw [gap_eq h]
    ring
  rw [covers, Captures]
  simp only [Nat.pow_eq]
  split
  · rw [Bool.and_eq_true, decide_eq_true_eq, decide_eq_true_eq, ← Nat.cast_le (α := ℚ),
      ← Nat.cast_le (α := ℚ), low, point, high, mul_le_mul_iff_of_pos_right scale_pos,
      mul_le_mul_iff_of_pos_right scale_pos]
  · rw [Bool.and_eq_true, decide_eq_true_eq, decide_eq_true_eq, ← Nat.cast_lt (α := ℚ),
      ← Nat.cast_lt (α := ℚ), low, point, high, mul_lt_mul_iff_of_pos_right scale_pos,
      mul_lt_mul_iff_of_pos_right scale_pos]

section

variable {b : Binary} {q : ℚ} (h : b.Captures q) (normal : Normal b.significand b.exponent)

include h normal

/-- A number in the interval that has the last bit of the double is rounded to it. -/
theorem Captures.nearest_within (same : 2 ^ (b.exponent + 52) ≤ q ∨ b.exponent = -1074) :
    NearestDouble q b.significand b.exponent := by
  have gap_pos : (0 : ℚ) < 2 ^ b.exponent := zpow_pos two_pos _
  obtain ⟨low, high⟩ := h.between
  have upper_eq : b.upper = b.significand * 2 ^ b.exponent + 2 ^ b.exponent / 2 := by
    rw [upper]
    ring
  have lower_ge : b.significand * 2 ^ b.exponent - 2 ^ b.exponent / 2 ≤ b.lower := by
    rw [lower]
    split
    · linarith
    · linarith
  refine ⟨normal, b.exponent, ⟨normal.least, ?_, same⟩, b.significand, rfl, ?_, fun half => ?_⟩
  · have whole : b.significand + 1 ≤ 2 ^ 53 := normal.lt
    have room : (b.significand : ℚ) + 1 ≤ 2 ^ 53 := by exact_mod_cast whole
    have power : (2 : ℚ) ^ (b.exponent + 53) = 2 ^ 53 * 2 ^ b.exponent := by
      rw [zpow_add₀ two_ne_zero, mul_comm]
      rfl
    have scaled := mul_le_mul_of_nonneg_right room gap_pos.le
    linarith
  · exact abs_le.2 ⟨by linarith, by linarith⟩
  · -- an odd double has no midpoint in its interval
    by_contra not_even
    have odd : ¬ b.significand % 2 = 0 := fun even =>
      not_even (by exact_mod_cast Nat.even_iff.2 even)
    rw [Captures, if_neg odd] at h
    refine half.not_lt (abs_lt.2 ⟨?_, ?_⟩)
    · linarith [h.2]
    · linarith [h.1]

/-- A number in the interval but in the binade below, which has a further bit, is rounded to
    the start of the next binade. -/
theorem Captures.nearest_below (below : q < 2 ^ (b.exponent + 52))
    (not_least : b.exponent ≠ -1074) : NearestDouble q b.significand b.exponent := by
  have gap_pos : (0 : ℚ) < 2 ^ b.exponent := zpow_pos two_pos _
  have filled : 2 ^ 52 ≤ b.significand := normal.filled.resolve_right not_least
  have least := normal.least
  have low := h.between.1
  have power : (2 : ℚ) ^ (b.exponent + 52) = 2 ^ 52 * 2 ^ b.exponent := by
    rw [zpow_add₀ two_ne_zero, mul_comm]
    rfl
  rw [power] at below
  have start : b.significand = 2 ^ 52 := by
    by_contra further
    have not_start : ¬ b.startsBinade = true := fun starts => further (of_decide_eq_true starts)
    have whole : 2 ^ 52 + 1 ≤ b.significand := by omega
    have cast : (2 : ℚ) ^ 52 + 1 ≤ b.significand := by exact_mod_cast whole
    have scaled := mul_le_mul_of_nonneg_right cast gap_pos.le
    rw [lower, if_neg not_start] at low
    linarith
  have starts : b.startsBinade = true := decide_eq_true start
  have step : (2 : ℚ) ^ (b.exponent - 1) = 2 ^ b.exponent / 2 := zpow_sub_one₀ two_ne_zero _
  have multiple : (b.significand : ℚ) * 2 ^ b.exponent =
      ((2 ^ 53 : Int) : ℚ) * 2 ^ (b.exponent - 1) := by
    rw [step, start]
    push_cast
    ring
  rw [lower, if_pos starts, start, Nat.cast_pow, Nat.cast_ofNat] at low
  have last : IsLastBit q (b.exponent - 1) := by
    refine ⟨by omega, ?_, .inl ?_⟩
    · rwa [show b.exponent - 1 + 53 = b.exponent + 52 by omega, power]
    · rw [zpow_add₀ two_ne_zero, step, show (52 : Int) = (52 : Nat) by rfl, zpow_natCast]
      linarith
  refine ⟨normal, b.exponent - 1, last, 2 ^ 53, multiple, ?_, fun _ => by decide⟩
  rw [start, step]
  push_cast
  exact abs_le.2 ⟨by linarith, by linarith⟩

/-- What is in the interval is rounded to the double. -/
theorem Captures.nearest : NearestDouble q b.significand b.exponent := by
  by_cases same : 2 ^ (b.exponent + 52) ≤ q ∨ b.exponent = -1074
  · exact h.nearest_within normal same
  · obtain ⟨below, not_least⟩ := not_or.1 same
    exact h.nearest_below normal (not_le.1 below) not_least

end

end Binary

end ErrorBudget.Decimal
