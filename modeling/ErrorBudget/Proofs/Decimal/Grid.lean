/-
  ErrorBudget.Proofs.Decimal.Grid

  The grid of numbers with as many digits. A positive fraction lies between two powers of ten,
  which its magnitude tells; scaled between the powers of ten around so many digits, it is
  rounded to a whole number with these digits, or to the power of ten after them.
-/
import ErrorBudget.Proofs.Decimal.Magnitude

namespace ErrorBudget.Decimal

/-! ## Rounding to whole numbers -/

/-- Rounding keeps the whole part if the rest is at most a half, and adds one if the rest is
    at least a half. -/
theorem roundHalfEven_cases (num den : Nat) :
    (roundHalfEven num den = num / den ∧ 2 * (num % den) ≤ den) ∨
      (roundHalfEven num den = num / den + 1 ∧ den ≤ 2 * (num % den)) := by
  rw [roundHalfEven]
  split
  · rename_i less
    exact .inl ⟨rfl, by omega⟩
  · split
    · rename_i more
      exact .inr ⟨rfl, by omega⟩
    · split
      · exact .inl ⟨rfl, by omega⟩
      · exact .inr ⟨rfl, by omega⟩

/-- A quotient is its whole part and what is left over. -/
theorem div_eq_whole_add (num : Nat) {den : Nat} (h : 0 < den) :
    (num : ℚ) / den = (num / den : Nat) + (num % den : Nat) / den := by
  have den_pos : (den : ℚ) ≠ 0 := by exact_mod_cast h.ne'
  have split : (den : ℚ) * (num / den : Nat) + (num % den : Nat) = num := by
    exact_mod_cast Nat.div_add_mod num den
  rw [div_eq_iff den_pos, add_mul, div_mul_cancel₀ _ den_pos, mul_comm, split]

/-- A rounded quotient is at most a half away. -/
theorem abs_roundHalfEven_sub_le (num : Nat) {den : Nat} (h : 0 < den) :
    |(roundHalfEven num den : ℚ) - num / den| ≤ 1 / 2 := by
  have den_pos : (0 : ℚ) < den := by exact_mod_cast h
  have rest_lt : ((num % den : Nat) : ℚ) < den := by exact_mod_cast Nat.mod_lt num h
  rw [div_eq_whole_add num h]
  rcases roundHalfEven_cases num den with ⟨down, small⟩ | ⟨up, large⟩
  · have half : ((num % den : Nat) : ℚ) / den ≤ 1 / 2 := by
      rw [div_le_div_iff₀ den_pos two_pos]
      have cast : (2 : ℚ) * (num % den : Nat) ≤ den := by exact_mod_cast small
      linarith
    have rest : (0 : ℚ) ≤ (num % den : Nat) / den := by positivity
    rw [down, abs_le]
    constructor
    · linarith
    · linarith
  · have half : 1 / 2 ≤ ((num % den : Nat) : ℚ) / den := by
      rw [div_le_div_iff₀ two_pos den_pos]
      have cast : (den : ℚ) ≤ 2 * (num % den : Nat) := by exact_mod_cast large
      linarith
    have rest : ((num % den : Nat) : ℚ) / den ≤ 1 := by
      rw [div_le_one den_pos]
      exact rest_lt.le
    rw [up, abs_le]
    push_cast
    constructor
    · linarith
    · linarith

theorem le_roundHalfEven {num den k : Nat} (den_pos : 0 < den) (h : den * k ≤ num) :
    k ≤ roundHalfEven num den := by
  have whole : k ≤ num / den := (Nat.le_div_iff_mul_le den_pos).2 (by rwa [Nat.mul_comm])
  exact whole.trans (div_le_roundHalfEven num den)

theorem roundHalfEven_le {num den k : Nat} (h : num < den * k) : roundHalfEven num den ≤ k := by
  have whole : num / den < k := Nat.div_lt_of_lt_mul h
  rcases roundHalfEven_cases num den with ⟨down, -⟩ | ⟨up, -⟩
  · omega
  · omega

/-! ## The nearest multiple -/

/-- `r` is the multiple of a step that is nearest to `q`, and of two that are equally near
    the even one. -/
def RoundsEven (step q r : ℚ) : Prop :=
  ∃ n : ℤ, r = n * step ∧ |r - q| ≤ step / 2 ∧ (|r - q| = step / 2 → Even n)

theorem RoundsEven.abs_sub_le {step q r : ℚ} (h : RoundsEven step q r) : |r - q| ≤ step / 2 :=
  h.choose_spec.2.1

theorem RoundsEven.unique {step q r s : ℚ} (pos : 0 < step) (hr : RoundsEven step q r)
    (hs : RoundsEven step q s) : r = s := by
  -- two multiples on both sides of a half are next to each other, and cannot both be even
  have one_side {m n : ℤ} (near_m : |m * step - q| ≤ step / 2) (near_n : |n * step - q| ≤ step / 2)
      (even_m : |m * step - q| = step / 2 → Even m)
      (even_n : |n * step - q| = step / 2 → Even n) : n ≤ m := by
    by_contra above
    have next : m + 1 ≤ n := by omega
    have cast : (m : ℚ) + 1 ≤ n := by exact_mod_cast next
    have apart : m * step + step ≤ n * step := by
      calc m * step + step = (m + 1) * step := by ring
        _ ≤ n * step := mul_le_mul_of_nonneg_right cast pos.le
    have low := (abs_le.1 near_m).1
    have high := (abs_le.1 near_n).2
    have half_m : |m * step - q| = step / 2 := by
      rw [abs_of_nonpos (by linarith)]
      linarith
    have half_n : |n * step - q| = step / 2 := by
      rw [abs_of_nonneg (by linarith)]
      linarith
    obtain ⟨i, hi⟩ := even_m half_m
    obtain ⟨j, hj⟩ := even_n half_n
    have adjacent : n * step = m * step + step := by linarith
    have equal : (n : ℚ) = m + 1 := by
      apply mul_right_cancel₀ pos.ne'
      linarith
    have whole : n = m + 1 := by exact_mod_cast equal
    omega
  obtain ⟨m, rfl, near_m, even_m⟩ := hr
  obtain ⟨n, rfl, near_n, even_n⟩ := hs
  rw [le_antisymm (one_side near_n near_m even_n even_m) (one_side near_m near_n even_m even_n)]

/-- A multiple that is less than half a step away is the nearest. -/
theorem roundsEven_of_abs_lt {step q : ℚ} {n : ℤ} (near : |n * step - q| < step / 2) :
    RoundsEven step q (n * step) :=
  ⟨n, rfl, near.le, fun half => absurd half near.ne⟩

theorem RoundsEven.mul {step q r c : ℚ} (h : RoundsEven step q r) (pos : 0 < c) :
    RoundsEven (step * c) (q * c) (r * c) := by
  obtain ⟨n, rfl, near, even⟩ := h
  have scaled : |n * step * c - q * c| = |n * step - q| * c := by
    rw [← sub_mul, abs_mul, abs_of_pos pos]
  refine ⟨n, by ring, ?_, fun half => even ?_⟩
  · rw [scaled, mul_div_right_comm]
    exact mul_le_mul_of_nonneg_right near pos.le
  · rw [scaled, mul_div_right_comm] at half
    exact mul_right_cancel₀ pos.ne' half

theorem RoundsEven.neg {step q r : ℚ} (h : RoundsEven step q r) : RoundsEven step (-q) (-r) := by
  obtain ⟨n, rfl, near, even⟩ := h
  have mirrored : |-(n * step) - -q| = |n * step - q| := by rw [neg_sub_neg, abs_sub_comm]
  refine ⟨-n, by push_cast; ring, ?_, fun half => ?_⟩
  · rw [mirrored]
    exact near
  · rw [mirrored] at half
    exact (even half).neg

/-- A quotient is rounded to the nearest whole number. -/
theorem roundsEven_roundHalfEven (num : Nat) {den : Nat} (h : 0 < den) :
    RoundsEven 1 (num / den) (roundHalfEven num den) := by
  refine ⟨roundHalfEven num den, by simp, abs_roundHalfEven_sub_le num h, fun half => ?_⟩
  have den_pos : (0 : ℚ) < den := by exact_mod_cast h
  -- at a half, the rest is half the denominator
  have rest : 2 * (num % den) = den := by
    have cast : (2 : ℚ) * (num % den : Nat) = den := by
      rw [div_eq_whole_add num h] at half
      rcases roundHalfEven_cases num den with ⟨down, -⟩ | ⟨up, -⟩
      · rw [down, sub_add_cancel_left, abs_neg, abs_of_nonneg (by positivity)] at half
        field_simp at half
        linarith
      · have rest_lt : ((num % den : Nat) : ℚ) / den < 1 := by
          rw [div_lt_one den_pos]
          exact_mod_cast Nat.mod_lt num h
        rw [up, Nat.cast_add, add_sub_add_left_eq_sub, Nat.cast_one,
          abs_of_nonneg (by linarith)] at half
        field_simp at half
        linarith
    exact_mod_cast cast
  rw [roundHalfEven, if_neg (by omega), if_neg (by omega)]
  split
  · rename_i even
    exact_mod_cast Nat.even_iff.2 even
  · rename_i odd
    exact_mod_cast Nat.even_add_one.2 (mt Nat.even_iff.1 odd)

/-! ## Magnitude -/

theorem lt_of_magnitude_of_le {num den : Nat} (den_pos : 0 < den) (h : den ≤ num) :
    (num : ℚ) / den < 10 ^ (magnitude num den + 1) := by
  have below : num < 10 ^ digitCount (num / den) * den :=
    (Nat.div_lt_iff_lt_mul den_pos).1 (lt_ten_pow_digitCount (num / den))
  have cast : (num : ℚ) < 10 ^ digitCount (num / den) * den := by exact_mod_cast below
  have next : magnitude num den + 1 = (digitCount (num / den) : Nat) := by
    rw [magnitude, if_pos h]
    omega
  rw [next, zpow_natCast, div_lt_iff₀ (by exact_mod_cast den_pos)]
  exact cast

theorem lt_of_magnitude_of_lt {num den : Nat} (num_pos : 0 < num) (h : num < den) :
    (num : ℚ) / den < 10 ^ (magnitude num den + 1) := by
  -- one less than the quotient rounded up is still less than the quotient
  have two_steps : 1 < (den + num - 1) / num :=
    (Nat.lt_div_iff_mul_lt num_pos).2 (by omega)
  have up := Nat.div_mul_le_self (den + num - 1) num
  have count := digitCount_pos ((den + num - 1) / num - 1)
  have reached : 10 ^ (digitCount ((den + num - 1) / num - 1) - 1) ≤
      (den + num - 1) / num - 1 := ten_pow_le_of_pos (by omega)
  have below : 10 ^ (digitCount ((den + num - 1) / num - 1) - 1) * num < den := by
    calc 10 ^ (digitCount ((den + num - 1) / num - 1) - 1) * num
        ≤ ((den + num - 1) / num - 1) * num := Nat.mul_le_mul_right num reached
      _ = (den + num - 1) / num * num - num := by rw [Nat.sub_mul, Nat.one_mul]
      _ < den := by omega
  have cast : (10 : ℚ) ^ (digitCount ((den + num - 1) / num - 1) - 1) * num < den := by
    exact_mod_cast below
  have next : magnitude num den + 1 =
      -((digitCount ((den + num - 1) / num - 1) - 1 : Nat) : Int) := by
    rw [magnitude, if_neg (by omega)]
    omega
  have den_pos : (0 : ℚ) < den := by exact_mod_cast num_pos.trans h
  rw [next, zpow_neg, zpow_natCast, div_lt_iff₀ den_pos, inv_mul_eq_div,
    lt_div_iff₀ (by positivity), mul_comm]
  exact cast

/-- A positive fraction lies below the power of ten after its magnitude. -/
theorem lt_ten_zpow_magnitude {num den : Nat} (num_pos : 0 < num) (den_pos : 0 < den) :
    (num : ℚ) / den < 10 ^ (magnitude num den + 1) := by
  by_cases h : den ≤ num
  · exact lt_of_magnitude_of_le den_pos h
  · exact lt_of_magnitude_of_lt num_pos (by omega)

/-- A positive fraction reaches the power of ten that is its magnitude. -/
theorem ten_zpow_magnitude_le {num den : Nat} (num_pos : 0 < num) (den_pos : 0 < den) :
    (10 : ℚ) ^ magnitude num den ≤ num / den := by
  have den_pos' : (0 : ℚ) < den := by exact_mod_cast den_pos
  by_cases h : den ≤ num
  · obtain ⟨k, hk, reach⟩ := magnitude_of_le den_pos h
    have cast : (den : ℚ) * 10 ^ k ≤ num := by exact_mod_cast reach
    rw [hk, zpow_natCast, le_div_iff₀ den_pos', mul_comm]
    exact cast
  · obtain ⟨k, hk, -, reach⟩ := magnitude_of_lt num_pos (Nat.lt_of_not_le h)
    have cast : (den : ℚ) ≤ num * 10 ^ k := by exact_mod_cast reach
    rw [hk, zpow_neg, zpow_natCast, le_div_iff₀ den_pos', inv_mul_eq_div,
      div_le_iff₀ (by positivity)]
    exact cast

/-! ## The grid -/

/-- Digits are what is left of them without zeros at the end, and these zeros. -/
theorem exists_trimZeros_append (ds : List Char) :
    ∃ k, ds = trimZeros ds ++ List.replicate k '0' := by
  have zero : ∀ c ∈ ds.reverse.takeWhile (· == '0'), c = '0' := by
    intro c hc
    have taken := List.mem_takeWhile_imp (p := fun c => c == '0') hc
    exact eq_of_beq taken
  have zeros : ds.reverse.takeWhile (· == '0') =
      List.replicate (ds.reverse.takeWhile (· == '0')).length '0' :=
    List.eq_replicate_iff.2 ⟨rfl, zero⟩
  refine ⟨(ds.reverse.takeWhile (· == '0')).length, ?_⟩
  rw [trimZeros, ← List.reverse_replicate, ← zeros, ← List.reverse_append,
    List.takeWhile_append_dropWhile, List.reverse_reverse]

theorem digitCount_eq {n count : Nat} (count_pos : 0 < count) (low : 10 ^ (count - 1) ≤ n)
    (high : n < 10 ^ count) : digitCount n = count := by
  have at_most := (digitCount_le_iff count_pos).2 high
  have some_digit := digitCount_pos n
  by_cases one : count = 1
  · omega
  · have not_fewer : ¬ digitCount n ≤ count - 1 := by
      rw [digitCount_le_iff (by omega)]
      omega
    omega

/-- Scaling a fraction up or down by a power of ten, in whole numbers. -/
theorem scaled_eq (num den : Nat) (shift : Int) :
    ((num * 10 ^ shift.toNat : Nat) : ℚ) / (den * 10 ^ (-shift).toNat : Nat) =
      num / den * 10 ^ shift := by
  have ten : (10 : ℚ) ≠ 0 := by norm_num
  have split : (10 : ℚ) ^ shift = 10 ^ shift.toNat / 10 ^ (-shift).toNat := by
    rw [← zpow_natCast, ← zpow_natCast, ← zpow_sub₀ ten]
    congr 1
    omega
  rw [split]
  push_cast
  rw [mul_div_mul_comm]

/-- Scaled, rounded and scaled back, a fraction is rounded at a power of ten. -/
theorem roundsEven_scaled (num : Nat) {den : Nat} (h : 0 < den) (shift : Int) :
    RoundsEven (10 ^ (-shift)) (num / den)
      (roundHalfEven (num * 10 ^ shift.toNat) (den * 10 ^ (-shift).toNat) * 10 ^ (-shift)) := by
  have ten : (10 : ℚ) ≠ 0 := by norm_num
  have bottom : 0 < den * 10 ^ (-shift).toNat := by positivity
  have scaled := (roundsEven_roundHalfEven (num * 10 ^ shift.toNat) bottom).mul
    (zpow_pos (by norm_num : (0 : ℚ) < 10) (-shift))
  have back : (num / den : ℚ) * 10 ^ shift * 10 ^ (-shift) = num / den := by
    rw [mul_assoc, ← zpow_add₀ ten, add_neg_cancel, zpow_zero, mul_one]
  rwa [scaled_eq, back, one_mul] at scaled

section

variable {num den count : Nat} (num_pos : 0 < num) (den_pos : 0 < den) (count_pos : 0 < count)

include num_pos den_pos count_pos

/-- Scaled by its magnitude, a fraction has `count` digits before the point. -/
theorem scaled_bounds :
    (10 : ℚ) ^ (count - 1) ≤ num / den * 10 ^ ((count : Int) - 1 - magnitude num den) ∧
      (num : ℚ) / den * 10 ^ ((count : Int) - 1 - magnitude num den) < 10 ^ count := by
  have ten : (10 : ℚ) ≠ 0 := by norm_num
  have step_pos : (0 : ℚ) < 10 ^ ((count : Int) - 1 - magnitude num den) := by positivity
  constructor
  · calc (10 : ℚ) ^ (count - 1)
        = 10 ^ magnitude num den * 10 ^ ((count : Int) - 1 - magnitude num den) := by
          rw [← zpow_add₀ ten, ← zpow_natCast]
          congr 1
          omega
      _ ≤ num / den * 10 ^ ((count : Int) - 1 - magnitude num den) :=
          mul_le_mul_of_nonneg_right (ten_zpow_magnitude_le num_pos den_pos) step_pos.le
  · calc (num : ℚ) / den * 10 ^ ((count : Int) - 1 - magnitude num den)
        < 10 ^ (magnitude num den + 1) * 10 ^ ((count : Int) - 1 - magnitude num den) :=
          mul_lt_mul_of_pos_right (lt_ten_zpow_magnitude num_pos den_pos) step_pos
      _ = 10 ^ count := by
          rw [← zpow_add₀ ten, ← zpow_natCast]
          congr 1
          omega

/-- The whole number that a fraction is rounded to has `count` digits, or is the power of
    ten after these. -/
theorem grid_bounds :
    10 ^ (count - 1) ≤ roundHalfEven (num * 10 ^ ((count : Int) - 1 - magnitude num den).toNat)
        (den * 10 ^ (-((count : Int) - 1 - magnitude num den)).toNat) ∧
      roundHalfEven (num * 10 ^ ((count : Int) - 1 - magnitude num den).toNat)
        (den * 10 ^ (-((count : Int) - 1 - magnitude num den)).toNat) ≤ 10 ^ count := by
  have bottom_pos : 0 < den * 10 ^ (-((count : Int) - 1 - magnitude num den)).toNat := by
    positivity
  have bottom : (0 : ℚ) < (den * 10 ^ (-((count : Int) - 1 - magnitude num den)).toNat : Nat) := by
    exact_mod_cast bottom_pos
  obtain ⟨reach, below⟩ := scaled_bounds num_pos den_pos count_pos
  rw [← scaled_eq] at reach below
  constructor
  · rw [le_div_iff₀ bottom, mul_comm ((10 : ℚ) ^ (count - 1))] at reach
    exact le_roundHalfEven bottom_pos (by exact_mod_cast reach)
  · rw [div_lt_iff₀ bottom, mul_comm ((10 : ℚ) ^ count)] at below
    exact roundHalfEven_le (by exact_mod_cast below)

end

end ErrorBudget.Decimal
