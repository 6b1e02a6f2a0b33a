/-
  ErrorBudget.Proofs.Decimal.Shortest

  The shortest digits of a double. On the grid of so many digits, every number that reads back
  as the double has a neighbour of the double between it and the double; so where neither
  neighbour reads back nothing does, and one of the neighbours is the nearest that does. With
  seventeen digits a step is smaller than the interval around the double.
-/
import ErrorBudget.Proofs.Decimal.Interval
import ErrorBudget.Proofs.Decimal.Layout

namespace ErrorBudget.Decimal

/-- Numbers on a grid have no more digits than the grid. -/
theorem Scientific.length_ofGrid_le {n count : Nat} (count_pos : 0 < count)
    (low : 10 ^ (count - 1) ≤ n) (high : n ≤ 10 ^ count) (x : Int) :
    (ofGrid n count x).digits.length ≤ count := by
  rw [ofGrid]
  split
  · exact count_pos
  · rename_i no_carry
    obtain ⟨k, filled⟩ := exists_trimZeros_append (Decimal.digits n)
    have all := congrArg List.length filled
    have counted := digitCount_eq count_pos low (Nat.lt_of_le_of_ne high no_carry)
    rw [List.length_append] at all
    rw [digitCount] at counted
    show (trimZeros (Decimal.digits n)).length ≤ count
    omega

namespace Binary

/-! ## Neighbours on a grid -/

/-- The step of the grid of `count` significant digits. -/
def stepOn (b : Binary) (count : Nat) : ℚ :=
  10 ^ (-((count : Int) - 1 - magnitude b.num b.den))

theorem stepOn_pos (b : Binary) (count : Nat) : 0 < b.stepOn count :=
  zpow_pos (by norm_num) _

/-- A number in grid steps. -/
theorem num_div_den_eq (b : Binary) (count : Nat) :
    (b.num : ℚ) / b.den =
      (b.floorOn count + (b.topOn count % b.bottomOn count : Nat) / b.bottomOn count) *
        b.stepOn count := by
  have ten : (10 : ℚ) ≠ 0 := by norm_num
  have steps := scaled_eq b.num b.den ((count : Int) - 1 - magnitude b.num b.den)
  rw [floorOn, ← div_eq_whole_add _ (b.bottomOn_pos count), topOn, bottomOn, steps, stepOn,
    mul_assoc, ← zpow_add₀ ten, add_neg_cancel, zpow_zero, mul_one]

section

variable {b : Binary} (h : b.significand ≠ 0) {count : Nat} (count_pos : 0 < count)

theorem floorOn_le (b : Binary) (count : Nat) :
    b.floorOn count * b.stepOn count ≤ b.num / b.den := by
  have step_pos := b.stepOn_pos count
  rw [num_div_den_eq b count]
  refine mul_le_mul_of_nonneg_right ?_ step_pos.le
  exact le_add_of_nonneg_right (by positivity)

theorem lt_floorOn (b : Binary) (count : Nat) :
    (b.num : ℚ) / b.den < (b.floorOn count + 1) * b.stepOn count := by
  have bottom_pos : (0 : ℚ) < b.bottomOn count := by exact_mod_cast b.bottomOn_pos count
  have rest : ((b.topOn count % b.bottomOn count : Nat) : ℚ) / b.bottomOn count < 1 := by
    rw [div_lt_one bottom_pos]
    exact_mod_cast Nat.mod_lt _ (b.bottomOn_pos count)
  rw [num_div_den_eq b count]
  exact mul_lt_mul_of_pos_right (by linarith) (b.stepOn_pos count)

include h count_pos

theorem floorOn_bounds : 10 ^ (count - 1) ≤ b.floorOn count ∧ b.floorOn count < 10 ^ count := by
  obtain ⟨reach, below⟩ := scaled_bounds (num_pos h) b.den_pos count_pos
  rw [← scaled_eq] at reach below
  have bottom_pos : (0 : ℚ) < b.bottomOn count := by exact_mod_cast b.bottomOn_pos count
  constructor
  · rw [floorOn, Nat.le_div_iff_mul_le (b.bottomOn_pos count)]
    exact_mod_cast (le_div_iff₀ bottom_pos).1 reach
  · rw [floorOn, Nat.div_lt_iff_lt_mul (b.bottomOn_pos count)]
    exact_mod_cast (div_lt_iff₀ bottom_pos).1 below

/-- No number of `count` digits lies between the two neighbours. -/
theorem beside_neighbours {n : Nat} (fits : n < 10 ^ count) (k : Int) :
    (n : ℚ) * 10 ^ k ≤ b.floorOn count * b.stepOn count ∨
      (b.floorOn count + 1) * b.stepOn count ≤ n * 10 ^ k := by
  have ten : (10 : ℚ) ≠ 0 := by norm_num
  have step_pos := b.stepOn_pos count
  by_cases multiple : -((count : Int) - 1 - magnitude b.num b.den) ≤ k
  · -- a multiple of the step is at most the one neighbour or at least the other
    obtain ⟨j, rfl⟩ := Int.le.dest multiple
    have scaled : (n : ℚ) * 10 ^ (-((count : Int) - 1 - magnitude b.num b.den) + j) =
        (n * 10 ^ j : Nat) * b.stepOn count := by
      rw [zpow_add₀ ten, zpow_natCast, stepOn]
      push_cast
      ring
    rw [scaled]
    rcases Nat.lt_or_ge (b.floorOn count) (n * 10 ^ j) with above | below
    · have cast : (b.floorOn count : ℚ) + 1 ≤ (n * 10 ^ j : Nat) := by exact_mod_cast above
      exact .inr (mul_le_mul_of_nonneg_right cast step_pos.le)
    · have cast : ((n * 10 ^ j : Nat) : ℚ) ≤ b.floorOn count := by exact_mod_cast below
      exact .inl (mul_le_mul_of_nonneg_right cast step_pos.le)
  · -- in smaller steps, so many digits do not even reach the first digit of the number
    have reach := (floorOn_bounds h count_pos).1
    have digits : (n : ℚ) ≤ 10 ^ count := by exact_mod_cast fits.le
    have cast : (10 : ℚ) ^ (count - 1) ≤ b.floorOn count := by exact_mod_cast reach
    refine .inl ?_
    calc (n : ℚ) * 10 ^ k ≤ 10 ^ count * 10 ^ k :=
          mul_le_mul_of_nonneg_right digits (by positivity)
      _ = 10 ^ ((count : Int) + k) := by rw [zpow_add₀ ten, zpow_natCast]
      _ ≤ 10 ^ (((count - 1 : Nat) : Int) + -((count : Int) - 1 - magnitude b.num b.den)) :=
          zpow_le_zpow_right₀ (by norm_num) (by omega)
      _ = 10 ^ (count - 1) * b.stepOn count := by rw [zpow_add₀ ten, zpow_natCast, stepOn]
      _ ≤ b.floorOn count * b.stepOn count := mul_le_mul_of_nonneg_right cast step_pos.le

/-- If anything of `count` digits reads back, one of the neighbours does. -/
theorem covers_of_captures {n : Nat} (fits : n < 10 ^ count) {k : Int}
    (captured : b.Captures (n * 10 ^ k)) :
    ((n : ℚ) * 10 ^ k ≤ b.floorOn count * b.stepOn count ∧
      b.covers (b.floorOn count) ((count : Int) - 1 - magnitude b.num b.den) = true) ∨
    ((b.floorOn count + 1) * b.stepOn count ≤ n * 10 ^ k ∧
      b.covers (b.floorOn count + 1) ((count : Int) - 1 - magnitude b.num b.den) = true) := by
  rcases beside_neighbours h count_pos fits k with below | above
  · refine .inl ⟨below, (covers_iff h _ _).2 ?_⟩
    exact captured.convex b.captures_self below (b.floorOn_le count)
  · refine .inr ⟨above, (covers_iff h _ _).2 ?_⟩
    rw [Nat.cast_add, Nat.cast_one]
    exact b.captures_self.convex captured (b.lt_floorOn count).le above

/-- Where nothing is found, no number of so many digits reads back. -/
theorem not_captures_of_onGrid? (nothing : b.onGrid? count = none) {n : Nat}
    (fits : n < 10 ^ count) (k : Int) : ¬ b.Captures (n * 10 ^ k) := by
  intro captured
  obtain ⟨not_below, not_above⟩ := not_covers_of_onGrid? nothing
  rcases covers_of_captures h count_pos fits captured with ⟨-, below⟩ | ⟨-, above⟩
  · exact Bool.false_ne_true (not_below.symm.trans below)
  · exact Bool.false_ne_true (not_above.symm.trans above)

/-- No number of so many digits that reads back is nearer than the neighbour that is
    picked. -/
theorem Picks.nearest {m : Nat} (picked : b.Picks count m) {n : Nat} (fits : n < 10 ^ count)
    {k : Int} (captured : b.Captures (n * 10 ^ k)) :
    |m * b.stepOn count - b.num / b.den| ≤ |(n : ℚ) * 10 ^ k - b.num / b.den| := by
  have step_pos := b.stepOn_pos count
  have bottom_pos : (0 : ℚ) < b.bottomOn count := by exact_mod_cast b.bottomOn_pos count
  have position := num_div_den_eq b count
  have low := b.floorOn_le count
  have high := b.lt_floorOn count
  have beside := covers_of_captures h count_pos fits captured
  rw [add_mul] at position high
  rw [add_mul] at beside
  rcases picked.neighbour with ⟨rfl, nearer⟩ | ⟨rfl, nearer⟩
  · rw [abs_of_nonpos (by linarith)]
    rcases beside with ⟨below, -⟩ | ⟨above, covered⟩
    · rw [abs_of_nonpos (by linarith)]
      linarith
    · have cast : (2 : ℚ) * (b.topOn count % b.bottomOn count : Nat) < b.bottomOn count := by
        exact_mod_cast nearer covered
      have rest : ((b.topOn count % b.bottomOn count : Nat) : ℚ) / b.bottomOn count < 1 / 2 := by
        rw [div_lt_div_iff₀ bottom_pos two_pos]
        linarith
      have less := mul_lt_mul_of_pos_right rest step_pos
      rw [abs_of_nonneg (by linarith)]
      linarith
  · rw [Nat.cast_add, Nat.cast_one, add_mul, abs_of_nonneg (by linarith)]
    rcases beside with ⟨below, covered⟩ | ⟨above, -⟩
    · have cast : (b.bottomOn count : ℚ) ≤ 2 * (b.topOn count % b.bottomOn count : Nat) := by
        exact_mod_cast nearer covered
      have rest : 1 / 2 ≤ ((b.topOn count % b.bottomOn count : Nat) : ℚ) / b.bottomOn count := by
        rw [div_le_div_iff₀ two_pos bottom_pos]
        linarith
      have more := mul_le_mul_of_nonneg_right rest step_pos.le
      rw [abs_of_nonpos (by linarith)]
      linarith
    · rw [abs_of_nonneg (by linarith)]
      linarith

end

/-! ## Seventeen digits -/

/-- With seventeen digits, the nearest number on the grid reads back. -/
theorem onGrid?_seventeen {b : Binary} (h : b.significand ≠ 0) (fits : b.significand < 2 ^ 53) :
    b.onGrid? 17 ≠ none := by
  intro nothing
  obtain ⟨not_below, not_above⟩ := not_covers_of_onGrid? nothing
  have gap_pos : (0 : ℚ) < 2 ^ b.exponent := zpow_pos two_pos _
  have near : |roundHalfEven (b.topOn 17) (b.bottomOn 17) * b.stepOn 17 - (b.num : ℚ) / b.den| ≤
      b.stepOn 17 / 2 := (roundsEven_scaled b.num b.den_pos _).abs_sub_le
  have value := num_div_den b
  -- the step is a small part of the number, and the interval a larger one
  have step : b.stepOn 17 ≤ b.significand * 2 ^ b.exponent / 10 ^ 16 := by
    have reach := ten_zpow_magnitude_le (num_pos h) b.den_pos
    have power : -(((17 : Nat) : Int) - 1 - magnitude b.num b.den) =
        magnitude b.num b.den - (16 : Nat) := by omega
    rw [stepOn, power, zpow_sub₀ (by norm_num), zpow_natCast, ← value]
    exact div_le_div_of_nonneg_right reach (by positivity)
  have captured : b.Captures (roundHalfEven (b.topOn 17) (b.bottomOn 17) * b.stepOn 17) := by
    obtain ⟨low, high⟩ := abs_le.1 near
    rw [value] at low high
    have room : (b.significand : ℚ) ≤ 2 ^ 53 := by exact_mod_cast fits.le
    have scaled := mul_le_mul_of_nonneg_right room gap_pos.le
    refine captures_of_between ?_ ?_
    · rw [lower]
      split
      · rename_i starts
        have start : (b.significand : ℚ) = 2 ^ 52 := by exact_mod_cast of_decide_eq_true starts
        rw [start] at step low ⊢
        linarith
      · linarith
    · rw [upper]
      linarith
  have covered := (covers_iff h _ _).2 captured
  rcases roundHalfEven_cases (b.topOn 17) (b.bottomOn 17) with ⟨down, -⟩ | ⟨up, -⟩
  · rw [down] at covered
    exact Bool.false_ne_true (not_below.symm.trans covered)
  · rw [up] at covered
    exact Bool.false_ne_true (not_above.symm.trans covered)

/-- The shortest digits are those of the first grid on which any are found. -/
theorem exists_shortest {b : Binary} (h : b.significand ≠ 0) (fits : b.significand < 2 ^ 53) :
    ∃ i, b.onGrid? (i + 1) = some b.shortest ∧ ∀ j < i, b.onGrid? (j + 1) = none := by
  rw [shortest]
  cases found : (List.range 17).findSome? fun i => b.onGrid? (i + 1) with
  | none =>
    have nothing := List.findSome?_eq_none_iff.1 found 16 (List.mem_range.2 (by decide))
    exact absurd nothing (onGrid?_seventeen h fits)
  | some s =>
    obtain ⟨before, i, after, split, hit, missed⟩ := List.findSome?_eq_some_iff.1 found
    have sorted := List.pairwise_lt_range (n := 17)
    rw [split, List.pairwise_append, List.pairwise_cons] at sorted
    obtain ⟨-, ⟨later, -⟩, -⟩ := sorted
    refine ⟨i, hit, fun j less => missed j ?_⟩
    -- what is less than `i` stands before it in a range
    have i_mem : i ∈ List.range 17 := by
      rw [split]
      exact List.mem_append_right _ List.mem_cons_self
    have j_mem : j ∈ List.range 17 := List.mem_range.2 (less.trans (List.mem_range.1 i_mem))
    rw [split, List.mem_append, List.mem_cons] at j_mem
    rcases j_mem with mem | rfl | mem
    · exact mem
    · exact absurd less (lt_irrefl j)
    · exact absurd less (later j mem).not_gt

/-! ## The digits that are written -/

/-- The digits of a double as they are written: they read back, and of the numbers that do
    none has fewer digits, and none of as many is nearer. -/
structure IsShortest (b : Binary) (s : Scientific) : Prop where
  significant : s.Significant
  captured : b.Captures s.value
  fewest : ∀ (n : Nat) (k : Int), 0 < n → n < 10 ^ (s.digits.length - 1) →
    ¬ b.Captures (n * 10 ^ k)
  nearest : ∀ (n : Nat) (k : Int), n < 10 ^ s.digits.length → b.Captures (n * 10 ^ k) →
    |s.value - b.num / b.den| ≤ |(n : ℚ) * 10 ^ k - b.num / b.den|

theorem isShortest_shortest {b : Binary} (h : b.significand ≠ 0) (fits : b.significand < 2 ^ 53) :
    b.IsShortest b.shortest := by
  obtain ⟨i, found, missed⟩ := exists_shortest h fits
  obtain ⟨n, picked, shown⟩ := exists_onGrid? found
  have count_pos : 0 < i + 1 := Nat.succ_pos i
  obtain ⟨low, high⟩ := floorOn_bounds h count_pos
  have neighbour := picked.neighbour
  have digits : 10 ^ (i + 1 - 1) ≤ n ∧ n ≤ 10 ^ (i + 1) := by omega
  have value : b.shortest.value = n * b.stepOn (i + 1) := by
    rw [shown, Scientific.value_ofGrid count_pos digits.1 digits.2, stepOn]
    congr 2
    omega
  have length : b.shortest.digits.length ≤ i + 1 := by
    rw [shown]
    exact Scientific.length_ofGrid_le count_pos digits.1 digits.2 _
  refine ⟨?_, ?_, fun n k n_pos fewer => ?_, fun n k as_many captured => ?_⟩
  · rw [shown]
    exact Scientific.significant_ofGrid ((Nat.pow_pos (by decide)).trans_le digits.1) _ _
  · rw [value]
    exact (covers_iff h _ _).1 picked.covered
  · -- there is a grid of fewer digits only after the first one, and nothing is found on it
    cases i with
    | zero =>
      rw [show b.shortest.digits.length - 1 = 0 by omega, pow_zero] at fewer
      omega
    | succ j =>
      have bound : b.shortest.digits.length - 1 ≤ j + 1 := by omega
      exact not_captures_of_onGrid? h (Nat.succ_pos j) (missed j (Nat.lt_succ_self j))
        (fewer.trans_le (Nat.pow_le_pow_right (by decide) bound)) k
  · rw [value]
    exact picked.nearest h count_pos (as_many.trans_le (Nat.pow_le_pow_right (by decide) length))
      captured

end Binary

end ErrorBudget.Decimal
