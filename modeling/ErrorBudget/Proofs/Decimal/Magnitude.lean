/-
  ErrorBudget.Proofs.Decimal.Magnitude

  The power of ten that a positive fraction reaches, and why the digits that a
  number is written with are never empty: scaled by its magnitude, the fraction
  is at least one, so rounding it to a whole number leaves a positive one.
-/
import Mathlib
import ErrorBudget.Decimal.Rounded

namespace ErrorBudget.Decimal

/-! ## Decimal digits -/

theorem isDigit_of_mem_digits {n : Nat} {c : Char} (h : c ∈ digits n) : c.isDigit = true :=
  Nat.isDigit_of_mem_toDigits (by decide) (by decide) h

theorem digits_ne_nil (n : Nat) : digits n ≠ [] :=
  Nat.toDigits_ne_nil

theorem digitCount_pos (n : Nat) : 0 < digitCount n :=
  List.length_pos_iff.2 (digits_ne_nil n)

/-- A number has at most `k` digits just if it is below `10 ^ k`. -/
theorem digitCount_le_iff {n k : Nat} (h : 0 < k) : digitCount n ≤ k ↔ n < 10 ^ k :=
  Nat.length_toDigits_le_iff (by decide) h

theorem lt_ten_pow_digitCount (n : Nat) : n < 10 ^ digitCount n :=
  (digitCount_le_iff (digitCount_pos n)).1 (Nat.le_refl _)

/-- A positive number reaches the power of ten of its first digit. -/
theorem ten_pow_le_of_pos {n : Nat} (h : 0 < n) : 10 ^ (digitCount n - 1) ≤ n := by
  -- `digitCount_le_iff` speaks of one digit or more, so a number of one digit stands apart
  by_cases one : digitCount n - 1 = 0
  · rw [one]
    exact h
  · have pos : 0 < digitCount n - 1 := by omega
    have count := digitCount_pos n
    have not_fewer : ¬ digitCount n ≤ digitCount n - 1 := by omega
    rw [digitCount_le_iff pos] at not_fewer
    omega

/-! ## Magnitude -/

/-- At or above one, the magnitude is no negative power, which the fraction reaches. -/
theorem magnitude_of_le {num den : Nat} (den_pos : 0 < den) (h : den ≤ num) :
    ∃ k : Nat, magnitude num den = k ∧ den * 10 ^ k ≤ num := by
  refine ⟨digitCount (num / den) - 1, ?_, ?_⟩
  · have count := digitCount_pos (num / den)
    rw [magnitude, if_pos h]
    omega
  · have quotient_pos : 0 < num / den := Nat.div_pos h den_pos
    calc den * 10 ^ (digitCount (num / den) - 1)
        ≤ den * (num / den) := Nat.mul_le_mul_left den (ten_pow_le_of_pos quotient_pos)
      _ ≤ num := Nat.mul_div_le num den

/-- Below one, the magnitude is a negative power, which the fraction reaches. -/
theorem magnitude_of_lt {num den : Nat} (num_pos : 0 < num) (h : num < den) :
    ∃ k : Nat, magnitude num den = -(k : Int) ∧ 0 < k ∧ den ≤ num * 10 ^ k := by
  refine ⟨digitCount ((den + num - 1) / num - 1), ?_, digitCount_pos _, ?_⟩
  · rw [magnitude, if_neg (by omega)]
  · -- `(den + num - 1) / num` is the quotient rounded up, and at most the power of ten
    have below := lt_ten_pow_digitCount ((den + num - 1) / num - 1)
    have up : den ≤ num * ((den + num - 1) / num) := by
      have split := Nat.div_add_mod (den + num - 1) num
      have rest := Nat.mod_lt (den + num - 1) num_pos
      omega
    calc den ≤ num * ((den + num - 1) / num) := up
      _ ≤ num * 10 ^ digitCount ((den + num - 1) / num - 1) :=
        Nat.mul_le_mul_left num (by omega)

/-- Scaled so that `count` digits stand before the point, a positive fraction is
    at least one. -/
theorem one_le_scaled {num den count : Nat} (num_pos : 0 < num) (den_pos : 0 < den)
    (count_pos : 0 < count) :
    den * 10 ^ (-((count : Int) - 1 - magnitude num den)).toNat
      ≤ num * 10 ^ ((count : Int) - 1 - magnitude num den).toNat := by
  -- at or above one, scaling takes away at most the magnitude; below one it adds it
  by_cases h : den ≤ num
  · obtain ⟨k, hk, reach⟩ := magnitude_of_le den_pos h
    rw [hk]
    calc den * 10 ^ (-((count : Int) - 1 - k)).toNat
        ≤ den * 10 ^ k := Nat.mul_le_mul_left den (Nat.pow_le_pow_right (by decide) (by omega))
      _ ≤ num := reach
      _ ≤ num * 10 ^ ((count : Int) - 1 - k).toNat :=
        Nat.le_mul_of_pos_right num (Nat.pow_pos (by decide))
  · obtain ⟨k, hk, k_pos, reach⟩ := magnitude_of_lt num_pos (Nat.lt_of_not_le h)
    rw [hk]
    have no_scale : (-((count : Int) - 1 - -(k : Int))).toNat = 0 := by omega
    rw [no_scale, Nat.pow_zero, Nat.mul_one]
    calc den ≤ num * 10 ^ k := reach
      _ ≤ num * 10 ^ ((count : Int) - 1 - -(k : Int)).toNat :=
        Nat.mul_le_mul_left num (Nat.pow_le_pow_right (by decide) (by omega))

theorem div_le_roundHalfEven (num den : Nat) : num / den ≤ roundHalfEven num den := by
  rw [roundHalfEven]
  split
  · exact Nat.le_refl _
  · split
    · exact Nat.le_succ _
    · split
      · exact Nat.le_refl _
      · exact Nat.le_succ _

/-! ## Significant digits -/

/-- Without the zeros at their end, digits are still digits of the number. -/
theorem mem_of_mem_trimZeros {ds : List Char} {c : Char} (h : c ∈ trimZeros ds) : c ∈ ds := by
  rw [trimZeros, List.mem_reverse] at h
  exact List.mem_reverse.1 ((List.dropWhile_sublist _).subset h)

/-- Only zeros leave nothing when zeros at the end are dropped. -/
theorem eq_replicate_of_trimZeros_eq_nil {ds : List Char} (h : trimZeros ds = []) :
    ds = List.replicate ds.length '0' := by
  rw [trimZeros, List.reverse_eq_nil_iff, List.dropWhile_eq_nil_iff] at h
  refine List.eq_replicate_iff.2 ⟨rfl, fun c hc => ?_⟩
  simpa using h c (List.mem_reverse.2 hc)

/-- A positive number has a digit that is not zero. -/
theorem trimZeros_digits_ne_nil {n : Nat} (h : 0 < n) : trimZeros (digits n) ≠ [] := by
  intro none_left
  -- otherwise all its digits are zeros, and its value is zero
  have zeros := eq_replicate_of_trimZeros_eq_nil none_left
  have value := ofDigits_digits n
  rw [zeros, ofDigits, Nat.ofDigitChars_replicate_zero, Nat.mul_zero] at value
  omega

namespace Scientific

/-- A first digit and further ones: what the layouts are made of. -/
structure Proper (s : Scientific) : Prop where
  ne_nil : s.digits ≠ []
  isDigit : ∀ c ∈ s.digits, c.isDigit = true

theorem proper_ofGrid {n : Nat} (h : 0 < n) (count : Nat) (x : Int) :
    (ofGrid n count x).Proper := by
  rw [ofGrid]
  split
  · exact ⟨by simp, by simp⟩
  · exact ⟨trimZeros_digits_ne_nil h,
      fun c hc => isDigit_of_mem_digits (mem_of_mem_trimZeros hc)⟩

end Scientific

/-- Rounding a positive fraction leaves a positive number on the grid. -/
theorem rounded_eq_ofGrid {num den count : Nat} (num_pos : 0 < num) (den_pos : 0 < den)
    (count_pos : 0 < count) :
    ∃ n, 0 < n ∧ rounded count num den = .ofGrid n count (magnitude num den) := by
  refine ⟨_, ?_, rfl⟩
  refine Nat.lt_of_lt_of_le ?_ (div_le_roundHalfEven _ _)
  exact Nat.div_pos (one_le_scaled num_pos den_pos count_pos)
    (Nat.mul_pos den_pos (Nat.pow_pos (by decide)))

/-- Rounding a positive fraction leaves significant digits. -/
theorem proper_rounded {num den count : Nat} (num_pos : 0 < num) (den_pos : 0 < den)
    (count_pos : 0 < count) : (rounded count num den).Proper := by
  obtain ⟨n, pos, shown⟩ := rounded_eq_ofGrid num_pos den_pos count_pos
  rw [shown]
  exact Scientific.proper_ofGrid pos _ _

namespace Binary

theorem den_pos (b : Binary) : 0 < b.den :=
  Nat.pow_pos (by decide)

theorem num_pos {b : Binary} (h : b.significand ≠ 0) : 0 < b.num :=
  Nat.mul_pos (Nat.pos_of_ne_zero h) (Nat.pow_pos (by decide))

/-- Numerator of a number in grid steps of `count` significant digits. -/
def topOn (b : Binary) (count : Nat) : Nat :=
  b.num * 10 ^ ((count : Int) - 1 - magnitude b.num b.den).toNat

/-- Denominator of a number in grid steps of `count` significant digits. -/
def bottomOn (b : Binary) (count : Nat) : Nat :=
  b.den * 10 ^ (-((count : Int) - 1 - magnitude b.num b.den)).toNat

/-- How many grid steps of `count` significant digits fit into a number. -/
def floorOn (b : Binary) (count : Nat) : Nat :=
  b.topOn count / b.bottomOn count

theorem bottomOn_pos (b : Binary) (count : Nat) : 0 < b.bottomOn count :=
  Nat.mul_pos b.den_pos (Nat.pow_pos (by decide))

theorem floorOn_pos {b : Binary} {count : Nat} (h : b.significand ≠ 0) (count_pos : 0 < count) :
    0 < b.floorOn count :=
  Nat.div_pos (one_le_scaled (num_pos h) b.den_pos count_pos) (b.bottomOn_pos count)

/-- One of the two neighbours of a number on a grid reads back, and the other does not or is
    no nearer. -/
structure Picks (b : Binary) (count n : Nat) : Prop where
  covered : b.covers n ((count : Int) - 1 - magnitude b.num b.den) = true
  neighbour :
    (n = b.floorOn count ∧
      (b.covers (b.floorOn count + 1) ((count : Int) - 1 - magnitude b.num b.den) = true →
        2 * (b.topOn count % b.bottomOn count) < b.bottomOn count)) ∨
    (n = b.floorOn count + 1 ∧
      (b.covers (b.floorOn count) ((count : Int) - 1 - magnitude b.num b.den) = true →
        b.bottomOn count ≤ 2 * (b.topOn count % b.bottomOn count)))

/-- What is found on a grid is the neighbour that is picked. -/
theorem exists_onGrid? {b : Binary} {s : Scientific} {count : Nat}
    (found : b.onGrid? count = some s) :
    ∃ n, b.Picks count n ∧ s = .ofGrid n count (magnitude b.num b.den) := by
  obtain ⟨n, picked, rfl⟩ := Option.map_eq_some_iff.1 found
  refine ⟨n, ?_, rfl⟩
  simp only [Nat.pow_eq] at picked
  split at picked
  · rename_i both
    obtain ⟨below, above⟩ := Bool.and_eq_true_iff.1 both
    obtain rfl := Option.some.inj picked
    split
    · rename_i nearer
      exact ⟨below, .inl ⟨rfl, fun _ => nearer⟩⟩
    · rename_i nearer
      exact ⟨above, .inr ⟨rfl, fun _ => Nat.le_of_not_lt nearer⟩⟩
  · rename_i not_both
    split at picked
    · rename_i below
      obtain rfl := Option.some.inj picked
      exact ⟨below,
        .inl ⟨rfl, fun above => absurd (Bool.and_eq_true_iff.2 ⟨below, above⟩) not_both⟩⟩
    · rename_i not_below
      split at picked
      · rename_i above
        obtain rfl := Option.some.inj picked
        exact ⟨above, .inr ⟨rfl, fun below => absurd below not_below⟩⟩
      · cases picked

/-- On a grid where nothing is found, neither of the two neighbours reads back. -/
theorem not_covers_of_onGrid? {b : Binary} {count : Nat} (nothing : b.onGrid? count = none) :
    b.covers (b.floorOn count) ((count : Int) - 1 - magnitude b.num b.den) = false ∧
      b.covers (b.floorOn count + 1) ((count : Int) - 1 - magnitude b.num b.den) = false := by
  have picked := Option.map_eq_none_iff.1 nothing
  simp only [Nat.pow_eq] at picked
  rw [floorOn, topOn, bottomOn]
  split at picked
  · cases picked
  · split at picked
    · cases picked
    · split at picked
      · cases picked
      · rename_i below above
        exact ⟨Bool.eq_false_iff.2 below, Bool.eq_false_iff.2 above⟩

/-- The shortest digits of a number other than zero are those of a positive number on a
    grid. -/
theorem exists_shortest_ofGrid {b : Binary} (h : b.significand ≠ 0) :
    ∃ n count x, 0 < n ∧ b.shortest = .ofGrid n count x := by
  rw [shortest]
  -- seventeen digits always tell doubles apart; were they not found, rounding would do
  cases found : (List.range 17).findSome? fun i => b.onGrid? (i + 1) with
  | none =>
    obtain ⟨n, pos, shown⟩ := rounded_eq_ofGrid (num_pos h) b.den_pos (by decide : 0 < 17)
    exact ⟨n, 17, _, pos, shown⟩
  | some s =>
    obtain ⟨i, -, hi⟩ := List.exists_of_findSome?_eq_some found
    obtain ⟨n, picked, rfl⟩ := exists_onGrid? hi
    have floor_pos : 0 < b.floorOn (i + 1) := floorOn_pos h (Nat.succ_pos i)
    have neighbour := picked.neighbour
    exact ⟨n, i + 1, _, by omega, rfl⟩

/-- The shortest digits of a number other than zero are significant digits. -/
theorem proper_shortest {b : Binary} (h : b.significand ≠ 0) : b.shortest.Proper := by
  obtain ⟨n, count, x, pos, shown⟩ := exists_shortest_ofGrid h
  rw [shown]
  exact Scientific.proper_ofGrid pos count x

end Binary

end ErrorBudget.Decimal
