/-
  ErrorBudget.Proofs.Decimal.Significant

  How far significant digits are from the fraction that is rounded to them. The fraction
  lies between two powers of ten, which its magnitude tells; the digits are those of the
  nearest whole number on the grid between these powers. So they stand for a number that is
  at most half a grid step away, and a double is written as such a number.
-/
import ErrorBudget.Proofs.Decimal.Exact
import ErrorBudget.Proofs.Decimal.Order

namespace ErrorBudget.Decimal

/-! ## Digits on the grid -/

namespace Scientific

/-- A whole number of `count` digits stands for its multiple of a grid step, also if it
    carries into one more digit. -/
theorem value_ofGrid {n count : Nat} (count_pos : 0 < count) (low : 10 ^ (count - 1) ≤ n)
    (high : n ≤ 10 ^ count) (x : Int) :
    (ofGrid n count x).value = n * 10 ^ (x - (count - 1)) := by
  have ten : (10 : ℚ) ≠ 0 := by norm_num
  rw [ofGrid]
  split
  · rename_i carried
    have one : ofDigits ['1'] = 1 := rfl
    have whole : (n : ℚ) = 10 ^ (count : Int) := by
      rw [carried, zpow_natCast]
      norm_num
    have powers : (x + 1) - (((['1'] : List Char).length : Int) - 1) =
        count + (x - (count - 1)) := by
      rw [List.length_singleton]
      omega
    rw [value, whole, ← zpow_add₀ ten, one, powers, Nat.cast_one, one_mul]
  · rename_i no_carry
    have below : n < 10 ^ count := Nat.lt_of_le_of_ne high no_carry
    obtain ⟨k, filled⟩ := exists_trimZeros_append (Decimal.digits n)
    have length : (trimZeros (Decimal.digits n)).length + k = count := by
      have all := congrArg List.length filled
      rw [List.length_append, List.length_replicate] at all
      exact all.symm.trans (digitCount_eq count_pos low below)
    have number : n = ofDigits (trimZeros (Decimal.digits n)) * 10 ^ k := by
      have all := congrArg ofDigits filled
      rwa [ofDigits_digits, ofDigits_append_zeros] at all
    have powers : x - (((trimZeros (Decimal.digits n)).length : Int) - 1) =
        k + (x - (count - 1)) := by omega
    have cast : (n : ℚ) = ofDigits (trimZeros (Decimal.digits n)) * 10 ^ k := by
      exact_mod_cast number
    rw [value, powers, zpow_add₀ ten, ← mul_assoc, zpow_natCast, ← cast]

end Scientific

section

variable {num den count : Nat} (num_pos : 0 < num) (den_pos : 0 < den) (count_pos : 0 < count)

include num_pos den_pos count_pos

/-- Significant digits stand for the whole number on the grid. -/
theorem value_rounded :
    (rounded count num den).value =
      roundHalfEven (num * 10 ^ ((count : Int) - 1 - magnitude num den).toNat)
        (den * 10 ^ (-((count : Int) - 1 - magnitude num den)).toNat) *
      10 ^ (magnitude num den - (count - 1)) := by
  obtain ⟨low, high⟩ := grid_bounds num_pos den_pos count_pos
  exact Scientific.value_ofGrid count_pos low high (magnitude num den)

/-- Significant digits are at most half a grid step away. -/
theorem abs_value_rounded_sub_le :
    |(rounded count num den).value - num / den| ≤
      10 ^ (magnitude num den - (count - 1)) / 2 := by
  have ten : (10 : ℚ) ≠ 0 := by norm_num
  have step_pos : (0 : ℚ) < 10 ^ (magnitude num den - (count - 1)) := by positivity
  have bottom_pos : 0 < den * 10 ^ (-((count : Int) - 1 - magnitude num den)).toNat := by
    positivity
  have near := abs_roundHalfEven_sub_le
    (num * 10 ^ ((count : Int) - 1 - magnitude num den).toNat) bottom_pos
  have inverse : (10 : ℚ) ^ ((count : Int) - 1 - magnitude num den) *
      10 ^ (magnitude num den - (count - 1)) = 1 := by
    rw [← zpow_add₀ ten]
    simp
  have back : (num : ℚ) / den = num / den * 10 ^ ((count : Int) - 1 - magnitude num den) *
      10 ^ (magnitude num den - (count - 1)) := by
    rw [mul_assoc, inverse, mul_one]
  rw [scaled_eq] at near
  rw [value_rounded num_pos den_pos count_pos, back, ← sub_mul, abs_mul, abs_of_pos step_pos]
  calc _ ≤ 1 / 2 * (10 : ℚ) ^ (magnitude num den - (count - 1)) :=
        mul_le_mul_of_nonneg_right near step_pos.le
    _ = 10 ^ (magnitude num den - (count - 1)) / 2 := by ring

/-- A fraction that is less than half a step above a multiple of a coarser step is rounded to
    at most this multiple. -/
theorem value_rounded_le {k : Int} {n : Nat} (n_pos : 0 < n) (below : (num : ℚ) / den < 10 ^ k)
    (near : (num : ℚ) / den < n * 10 ^ (k - count) + 10 ^ (k - 2 * count + 1) / 2) :
    (rounded count num den).value ≤ n * 10 ^ (k - count) := by
  have ten : (10 : ℚ) ≠ 0 := by norm_num
  have more : (1 : ℚ) < 10 := by norm_num
  have reach := ten_zpow_magnitude_le num_pos den_pos
  have smaller : magnitude num den < k := (zpow_lt_zpow_iff_right₀ more).1 (reach.trans_lt below)
  have step_pos : (0 : ℚ) < 10 ^ (magnitude num den - (count - 1)) := by positivity
  have multiple : (n : ℚ) * 10 ^ (k - count) =
      (n * 10 ^ (k - 1 - magnitude num den).toNat : Nat) *
        10 ^ (magnitude num den - (count - 1)) := by
    have powers : k - count =
        (k - 1 - magnitude num den).toNat + (magnitude num den - (count - 1)) := by omega
    rw [powers, zpow_add₀ ten, zpow_natCast]
    push_cast
    ring
  have within : (num : ℚ) / den <
      n * 10 ^ (k - count) + 10 ^ (magnitude num den - (count - 1)) / 2 := by
    rcases le_or_gt ((num : ℚ) / den) (n * 10 ^ (k - count)) with le | above
    · linarith
    · -- above a positive multiple there are not much finer steps than this one
      have one : (1 : ℚ) ≤ n := by exact_mod_cast n_pos
      have coarse : (10 : ℚ) ^ (k - count) < 10 ^ (magnitude num den + 1) :=
        calc (10 : ℚ) ^ (k - count) = 1 * 10 ^ (k - count) := (one_mul _).symm
          _ ≤ n * 10 ^ (k - count) := mul_le_mul_of_nonneg_right one (by positivity)
          _ < num / den := above
          _ < 10 ^ (magnitude num den + 1) := lt_ten_zpow_magnitude num_pos den_pos
      have exponents := (zpow_lt_zpow_iff_right₀ more).1 coarse
      have step : (10 : ℚ) ^ (k - 2 * count + 1) ≤ 10 ^ (magnitude num den - (count - 1)) :=
        zpow_le_zpow_right₀ more.le (by omega)
      linarith
  have gap := (abs_le.1 (abs_value_rounded_sub_le num_pos den_pos count_pos)).2
  rw [value_rounded num_pos den_pos count_pos] at gap ⊢
  rw [multiple] at within ⊢
  -- both are whole numbers of the same step now
  generalize roundHalfEven _ _ = whole at gap ⊢
  generalize n * 10 ^ (k - 1 - magnitude num den).toNat = steps at within ⊢
  have next : (whole : ℚ) * 10 ^ (magnitude num den - (count - 1)) <
      (steps + 1) * 10 ^ (magnitude num den - (count - 1)) := by linarith
  have fewer : whole < steps + 1 := by
    exact_mod_cast lt_of_mul_lt_mul_right next step_pos.le
  exact mul_le_mul_of_nonneg_right (by exact_mod_cast Nat.le_of_lt_succ fewer) step_pos.le

end

/-! ## Numbers as they are written -/

/-- An unsigned number starts with a digit. -/
theorem IsUnsigned.exists_digit {cs : List Char} (h : IsUnsigned cs) :
    ∃ c rest, cs = c :: rest ∧ c.isDigit = true := by
  have first {ds : List Char} (digits : IsDigits ds) (rest : List Char) :
      ∃ c rest', ds ++ rest = c :: rest' ∧ c.isDigit = true := by
    obtain ⟨c, cs, rfl⟩ := List.exists_cons_of_ne_nil digits.ne_nil
    exact ⟨c, cs ++ rest, rfl, digits.isDigit c List.mem_cons_self⟩
  have mantissa {m : List Char} (hm : IsMantissa m) (rest : List Char) :
      ∃ c rest', m ++ rest = c :: rest' ∧ c.isDigit = true := by
    cases hm with
    | whole digits => exact first digits rest
    | fraction digits digits' =>
      rw [List.append_assoc]
      exact first digits _
  cases h with
  | plain hm =>
    have found := mantissa hm []
    rwa [List.append_nil] at found
  | scaled hm sign power two => exact mantissa hm _

/-- A positive fraction as it is written denotes its significant digits. -/
theorem denoted?_general_rounded {num den count : Nat} (num_pos : 0 < num) (den_pos : 0 < den)
    (count_pos : 0 < count) (limit : Int) :
    denoted? ((rounded count num den).general limit) = some (rounded count num den).value := by
  have proper := proper_rounded num_pos den_pos count_pos
  have read := Scientific.denotedUnsigned?_general proper limit
  obtain ⟨c, rest, text, digit⟩ := (Scientific.isUnsigned_general proper limit).exists_digit
  rw [text] at read ⊢
  rw [denoted?_of_isDigit digit, read]

namespace Binary

theorem num_div_den (b : Binary) : (b.num : ℚ) / b.den = b.significand * 2 ^ b.exponent := by
  have split : (2 : ℚ) ^ b.exponent = 2 ^ b.exponent.toNat / 2 ^ (-b.exponent).toNat := by
    rw [← zpow_natCast, ← zpow_natCast, ← zpow_sub₀ two_ne_zero]
    congr 1
    omega
  rw [split, num, den]
  simp only [Nat.pow_eq]
  push_cast
  rw [mul_div_assoc]

/-- The sign apart, a number is its numerator over its denominator. -/
theorem value_eq (b : Binary) :
    b.value = (if b.negative then -1 else 1) * (b.num / b.den : ℚ) := by
  rw [value, num_div_den]

/-- A number that is not zero denotes its significant digits, with its sign. -/
theorem denoted?_general {b : Binary} (h : b.significand ≠ 0) (p : Nat) :
    denoted? (b.general (some p)) =
      some ((if b.negative then -1 else 1) * (rounded (max p 1) b.num b.den).value) := by
  have some_digit : 0 < max p 1 := by omega
  have read := denoted?_general_rounded (num_pos h) b.den_pos some_digit (max p 1 : Nat)
  have proper := proper_rounded (num_pos h) b.den_pos some_digit
  have unsigned := Scientific.denotedUnsigned?_general proper (max p 1 : Nat)
  rw [general, if_neg h]
  dsimp only
  rw [precise_eq h some_digit]
  split
  · rw [denoted?_negative, unsigned, Option.map_some, neg_one_mul]
  · rw [read, one_mul]

end Binary

theorem Scientific.value_nonneg (s : Scientific) : 0 ≤ s.value := by
  rw [value]
  positivity

/-- `r` is `q` rounded to `p` significant digits: it has the same sign, it is at most half a
    step of the last digit away, and less than half a step is not rounded up. Below
    `10 ^ k` such a step is at most `10 ^ (k - p)`. -/
structure RoundsTo (p : Nat) (q r : ℚ) : Prop where
  nonpos : q ≤ 0 → r ≤ 0
  nonneg : 0 ≤ q → 0 ≤ r
  close : ∀ k : Int, |q| < 10 ^ k → |r - q| ≤ 10 ^ (k - p) / 2
  le_multiple : ∀ (k : Int) (n : Nat), 0 < n → |q| < 10 ^ k →
    q < n * 10 ^ (k - p) + 10 ^ (k - 2 * p + 1) / 2 → r ≤ n * 10 ^ (k - p)

theorem roundsTo_zero (p : Nat) : RoundsTo p 0 0 where
  nonpos _ := le_refl 0
  nonneg _ := le_refl 0
  close k _ := by
    rw [sub_zero, abs_zero]
    positivity
  le_multiple k n _ _ _ := by positivity

section

variable {num den count : Nat} (num_pos : 0 < num) (den_pos : 0 < den) (count_pos : 0 < count)

include num_pos den_pos count_pos

theorem roundsTo_rounded : RoundsTo count (num / den) (rounded count num den).value := by
  have fraction_pos : (0 : ℚ) < num / den :=
    div_pos (Nat.cast_pos.2 num_pos) (Nat.cast_pos.2 den_pos)
  refine ⟨fun above => absurd above (not_le.2 fraction_pos), fun _ => Scientific.value_nonneg _,
    fun k below => ?_, fun k n n_pos below near => ?_⟩
  · rw [abs_of_pos fraction_pos] at below
    have near := abs_value_rounded_sub_le num_pos den_pos count_pos
    -- a smaller number has a smaller magnitude, so its last digit is a smaller step
    have reach := (ten_zpow_magnitude_le num_pos den_pos).trans_lt below
    have smaller : magnitude num den < k :=
      (zpow_lt_zpow_iff_right₀ (by norm_num : (1 : ℚ) < 10)).1 reach
    have step : (10 : ℚ) ^ (magnitude num den - (count - 1)) ≤ 10 ^ (k - count) :=
      zpow_le_zpow_right₀ (by norm_num) (by omega)
    linarith
  · rw [abs_of_pos fraction_pos] at below
    exact value_rounded_le num_pos den_pos count_pos n_pos below near

theorem roundsTo_neg_rounded :
    RoundsTo count (-(num / den)) (-(rounded count num den).value) := by
  have fraction_pos : (0 : ℚ) < num / den :=
    div_pos (Nat.cast_pos.2 num_pos) (Nat.cast_pos.2 den_pos)
  have below_zero : -(num / den : ℚ) < 0 := neg_lt_zero.2 fraction_pos
  have nonpos := neg_nonpos.2 (rounded count num den).value_nonneg
  refine ⟨fun _ => nonpos, fun above => absurd above (not_le.2 below_zero), fun k below => ?_,
    fun k n _ _ _ => nonpos.trans (by positivity)⟩
  rw [abs_neg] at below
  rw [neg_sub_neg, abs_sub_comm]
  exact (roundsTo_rounded num_pos den_pos count_pos).close k below

end

/-- A double that denotes a number is written as this number, rounded. -/
theorem exists_denoted?_general {x : Float} {q : ℚ} (h : number? x = some q) (p : Nat) :
    ∃ r, denoted? (general x (some p)).toList = some r ∧ RoundsTo (max p 1) q r := by
  obtain ⟨b, finite, rfl⟩ := number?_eq_some h
  rw [general, finite]
  dsimp only
  rw [String.toList_ofList]
  by_cases zero : b.significand = 0
  · have nothing : b.value = 0 := by
      rw [Binary.value, zero, Nat.cast_zero, zero_mul, mul_zero]
    have read : denotedUnsigned? ['0'] = some (((0 : Nat) : ℚ) * 10 ^ (0 : Int)) := rfl
    rw [Binary.general, if_pos zero, nothing]
    refine ⟨0, ?_, roundsTo_zero _⟩
    rw [denoted?_of_isDigit (by decide), read, Nat.cast_zero, zero_mul]
  · have some_digit : 0 < max p 1 := by omega
    have num_pos := Binary.num_pos zero
    refine ⟨_, Binary.denoted?_general zero p, ?_⟩
    rw [Binary.value_eq]
    cases b.negative with
    | true =>
      rw [if_pos rfl, neg_one_mul, neg_one_mul]
      exact roundsTo_neg_rounded num_pos b.den_pos some_digit
    | false =>
      rw [if_neg Bool.false_ne_true, one_mul, one_mul]
      exact roundsTo_rounded num_pos b.den_pos some_digit

end ErrorBudget.Decimal
