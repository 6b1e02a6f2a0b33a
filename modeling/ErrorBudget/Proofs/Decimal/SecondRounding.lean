/-
  ErrorBudget.Proofs.Decimal.SecondRounding

  Significant digits without an exponent are rounded twice: once to learn the power of ten,
  and once more at the last digit that this power leaves. Both roundings agree, also where
  the first one carries into a new power of ten, so what is written are the digits of the
  first one.
-/
import ErrorBudget.Decimal.General
import ErrorBudget.Proofs.Decimal.Grid

namespace ErrorBudget.Decimal

/-! ## Characters at the end -/

theorem trimEnd_append_replicate (c : Char) (cs : List Char) (n : Nat) :
    trimEnd c (cs ++ List.replicate n c) = trimEnd c cs := by
  have dropped : ∀ d ∈ List.replicate n c, (d == c) = true :=
    fun d hd => beq_iff_eq.2 (List.eq_of_mem_replicate hd)
  rw [trimEnd, List.reverse_append, List.reverse_replicate, List.dropWhile_append_of_pos dropped,
    trimEnd]

/-- What ends in another character stays. -/
theorem trimEnd_of_getLast? {c : Char} {cs : List Char} (h : cs.getLast? ≠ some c) :
    trimEnd c cs = cs := by
  rcases List.eq_nil_or_concat cs with rfl | ⟨front, last, rfl⟩
  · rfl
  · rw [List.concat_eq_append, List.getLast?_concat] at h
    have kept : (last == c) = false := beq_eq_false_iff_ne.2 fun same => h (congrArg some same)
    rw [List.concat_eq_append, trimEnd, List.reverse_append, List.reverse_singleton,
      List.singleton_append, List.dropWhile_cons, kept, if_neg Bool.false_ne_true,
      List.reverse_cons, List.reverse_reverse]

/-- Zeros are all of a fraction: the point goes too. -/
theorem trimFraction_zeros {whole : List Char} (no_point : '.' ∉ whole) (n : Nat) :
    trimFraction (whole ++ '.' :: List.replicate n '0') = whole := by
  have pointed : (whole ++ '.' :: List.replicate n '0').contains '.' = true := by simp
  have last : whole.getLast? ≠ some '.' := fun h => no_point (List.mem_of_getLast? h)
  have digits : trimEnd '0' (whole ++ '.' :: List.replicate n '0') = whole ++ ['.'] := by
    rw [show whole ++ '.' :: List.replicate n '0' = whole ++ ['.'] ++ List.replicate n '0' by simp,
      trimEnd_append_replicate, trimEnd_of_getLast? (by simp)]
  rw [trimFraction, if_pos pointed, digits]
  exact (trimEnd_append_replicate '.' whole 1).trans (trimEnd_of_getLast? last)

/-- A fraction keeps its digits up to the last that is no zero. -/
theorem trimFraction_digits {fraction : List Char} {d : Char}
    (last : fraction.getLast? = some d) (no_zero : d ≠ '0') (no_point : d ≠ '.')
    (whole : List Char) (n : Nat) :
    trimFraction (whole ++ '.' :: (fraction ++ List.replicate n '0')) =
      whole ++ '.' :: fraction := by
  have pointed : (whole ++ '.' :: (fraction ++ List.replicate n '0')).contains '.' = true := by simp
  have ends (c : Char) (other : d ≠ c) : (whole ++ '.' :: fraction).getLast? ≠ some c := by
    rw [List.getLast?_append, List.getLast?_cons, last]
    simpa using other
  rw [trimFraction, if_pos pointed,
    show whole ++ '.' :: (fraction ++ List.replicate n '0') =
      whole ++ '.' :: fraction ++ List.replicate n '0' by simp,
    trimEnd_append_replicate, trimEnd_of_getLast? (ends '0' no_zero),
    trimEnd_of_getLast? (ends '.' no_point)]

/-! ## Digits of a number -/

/-- Digits that are trimmed end in one that is not zero. -/
theorem exists_last_trimZeros {n : Nat} (h : 0 < n) :
    ∃ d, (trimZeros (digits n)).getLast? = some d ∧ d ≠ '0' ∧ d.isDigit = true := by
  obtain ⟨front, last, shown⟩ :=
    (List.eq_nil_or_concat _).resolve_left (trimZeros_digits_ne_nil h)
  rw [List.concat_eq_append] at shown
  refine ⟨last, by rw [shown, List.getLast?_concat], ?_, ?_⟩
  · have head := List.head?_dropWhile_not (· == '0') (digits n).reverse
    rw [trimZeros, List.reverse_eq_iff, List.reverse_append] at shown
    rw [shown] at head
    simpa using head
  · have listed : last ∈ trimZeros (digits n) := by
      rw [shown]
      exact List.mem_append_right _ (List.mem_singleton_self last)
    exact isDigit_of_mem_digits (mem_of_mem_trimZeros listed)

theorem digits_ten_pow (k : Nat) : digits (10 ^ k) = '1' :: List.replicate k '0' := by
  induction k with
  | zero => rfl
  | succ k ih =>
    have step := Nat.toDigits_append_toDigits (b := 10) (n := 10 ^ k) (d := 0) (by decide)
      (Nat.pow_pos (by decide)) (by decide)
    have shifted : 10 * 10 ^ k + 0 = 10 ^ (k + 1) := by
      rw [Nat.pow_succ, Nat.mul_comm, Nat.add_zero]
    rw [shifted] at step
    rw [digits, ← step, ← digits, ih, List.replicate_succ']
    rfl

theorem trimZeros_digits_ten_pow (k : Nat) : trimZeros (digits (10 ^ k)) = ['1'] := by
  have ones : trimEnd '0' (['1'] ++ List.replicate k '0') = ['1'] :=
    (trimEnd_append_replicate '0' ['1'] k).trans (trimEnd_of_getLast? (by decide))
  rw [digits_ten_pow]
  exact ones

theorem point_not_mem_digits (n : Nat) : '.' ∉ digits n := by
  intro point
  have digit := isDigit_of_mem_digits point
  revert digit
  decide

/-! ## The plain layout -/

section

variable {ts : List Char} {d : Char} (last : ts.getLast? = some d) (no_zero : d ≠ '0')
  (no_dot : d ≠ '.') (no_point : '.' ∉ ts)

include last no_zero no_dot in
/-- Below one, the digits follow the point and zeros. -/
theorem trimFraction_below_one (fill k : Nat) :
    trimFraction ('0' :: '.' :: (List.replicate fill '0' ++ (ts ++ List.replicate k '0'))) =
      Scientific.plain ⟨ts, -((fill : Int) + 1)⟩ := by
  have ends : (List.replicate fill '0' ++ ts).getLast? = some d := by
    rw [List.getLast?_append, last, Option.some_or]
  have trimmed := trimFraction_digits ends no_zero no_dot ['0'] k
  have power : (-(-((fill : Int) + 1)) - 1).toNat = fill := by omega
  rw [Scientific.plain, if_pos (by show -((fill : Int) + 1) < 0; omega)]
  show _ = '0' :: '.' :: (List.replicate (-(-((fill : Int) + 1)) - 1).toNat '0' ++ ts)
  rw [power, ← List.append_assoc]
  exact trimmed

include last no_zero no_dot no_point in
/-- With some digits before the point, zeros stay before it and go after it. -/
theorem trimFraction_within {whole k : Nat} (whole_pos : 0 < whole) (fits : whole ≤ ts.length + k) :
    trimFraction ((ts ++ List.replicate k '0').take whole ++
        '.' :: (ts ++ List.replicate k '0').drop whole) =
      Scientific.plain ⟨ts, (whole : Int) - 1⟩ := by
  have power : ((whole : Int) - 1).toNat + 1 = whole := by omega
  rw [Scientific.plain, if_neg (by show ¬ (whole : Int) - 1 < 0; omega)]
  dsimp only
  rw [power]
  by_cases short : ts.length ≤ whole
  · obtain ⟨fill, rfl⟩ := Nat.exists_eq_add_of_le short
    have zeros : '.' ∉ ts ++ List.replicate fill '0' := by simpa using no_point
    rw [if_pos short, List.take_length_add_append, List.drop_length_add_append, List.take_replicate,
      List.drop_replicate, Nat.add_sub_cancel_left, Nat.min_eq_left (by omega)]
    exact trimFraction_zeros zeros (k - fill)
  · have longer : whole ≤ ts.length := by omega
    have ends : (ts.drop whole).getLast? = some d := by
      rw [List.getLast?_drop, if_neg short, last]
    rw [if_neg short, List.take_append_of_le_length longer, List.drop_append_of_le_length longer]
    exact trimFraction_digits ends no_zero no_dot _ k

end

/-- A number of `count` digits, with a point before the last `decimals` of them and without
    the zeros at its end, is laid out plainly by the power of its first digit. -/
theorem trimFraction_pointed {n count : Nat} (count_pos : 0 < count) (low : 10 ^ (count - 1) ≤ n)
    (high : n < 10 ^ count) (decimals : Nat) :
    trimFraction (pointed decimals n) =
      Scientific.plain ⟨trimZeros (digits n), (count : Int) - 1 - decimals⟩ := by
  have counted := digitCount_eq count_pos low high
  have positive : 0 < n := (Nat.pow_pos (by decide)).trans_le low
  obtain ⟨k, filled⟩ := exists_trimZeros_append (digits n)
  obtain ⟨d, last, no_zero, digit⟩ := exists_last_trimZeros positive
  have no_dot : d ≠ '.' := by
    rintro rfl
    cases digit
  have none_there := point_not_mem_digits n
  have length : (trimZeros (digits n)).length + k = count := by
    have all := congrArg List.length filled
    rw [List.length_append, List.length_replicate] at all
    exact all.symm.trans counted
  rw [pointed, counted]
  generalize trimZeros (digits n) = ts at filled last length
  rw [filled] at none_there ⊢
  have no_point : '.' ∉ ts := fun point => none_there (List.mem_append_left _ point)
  -- no digit after the point, some digits before it, or all of them after it
  rcases Nat.eq_zero_or_pos decimals with rfl | some_decimal
  · have no_fill : 0 + 1 - count = 0 := by omega
    have whole : ((count : Int) - 1 - (0 : Nat)).toNat + 1 = count := by omega
    have not_pointed : (ts ++ List.replicate k '0').contains '.' = false := by
      simpa using none_there
    rw [if_pos rfl, no_fill, List.replicate_zero, List.nil_append, trimFraction, not_pointed,
      if_neg Bool.false_ne_true, Scientific.plain,
      if_neg (by show ¬ (count : Int) - 1 - (0 : Nat) < 0; omega)]
    dsimp only
    rw [whole, if_pos (by omega), show count - ts.length = k by omega]
  · rw [if_neg some_decimal.ne']
    rcases Nat.lt_or_ge decimals count with within | below_one
    · have no_fill : decimals + 1 - count = 0 := by omega
      have power : (count : Int) - 1 - decimals = ((count - decimals : Nat) : Int) - 1 := by omega
      rw [no_fill, List.replicate_zero, List.nil_append, List.length_append, List.length_replicate,
        length, power]
      exact trimFraction_within last no_zero no_dot no_point (by omega) (by omega)
    · obtain ⟨fill, rfl⟩ := Nat.exists_eq_add_of_le below_one
      have zeros : List.replicate (count + fill + 1 - count) '0' =
          '0' :: List.replicate fill '0' := by
        rw [show count + fill + 1 - count = fill + 1 by omega, List.replicate_succ]
      have front : (List.replicate fill '0' ++ (ts ++ List.replicate k '0')).length + 1 -
          (count + fill) = 1 := by
        simp only [List.length_append, List.length_replicate]
        omega
      have power : (count : Int) - 1 - (count + fill : Nat) = -((fill : Int) + 1) := by omega
      rw [zeros, List.cons_append, List.length_cons, front, power]
      exact trimFraction_below_one last no_zero no_dot fill k

/-! ## Rounding twice -/

section

variable {num den count : Nat} (num_pos : 0 < num) (den_pos : 0 < den) (count_pos : 0 < count)

include num_pos den_pos count_pos

/-- Rounded once more at the last of its significant digits, a fraction has `count` digits, and
    they are those of the first rounding. -/
theorem rounded_again {shift : Int}
    (last_digit : shift = (count : Int) - 1 - (rounded count num den).exponent) :
    10 ^ (count - 1) ≤ roundHalfEven (num * 10 ^ shift.toNat) (den * 10 ^ (-shift).toNat) ∧
      roundHalfEven (num * 10 ^ shift.toNat) (den * 10 ^ (-shift).toNat) < 10 ^ count ∧
      (rounded count num den).digits = trimZeros
        (digits (roundHalfEven (num * 10 ^ shift.toNat) (den * 10 ^ (-shift).toNat))) := by
  obtain ⟨low, high⟩ := grid_bounds num_pos den_pos count_pos
  have near := (roundsEven_scaled num den_pos ((count : Int) - 1 - magnitude num den)).abs_sub_le
  rw [rounded] at last_digit ⊢
  simp only [Nat.pow_eq] at last_digit ⊢
  generalize first : roundHalfEven (num * 10 ^ ((count : Int) - 1 - magnitude num den).toNat)
    (den * 10 ^ (-((count : Int) - 1 - magnitude num den)).toNat) = n at low high near last_digit ⊢
  rw [Scientific.ofGrid] at last_digit ⊢
  simp only [Nat.pow_eq] at last_digit ⊢
  by_cases carried : n = 10 ^ count
  · -- the first rounding reaches the next power of ten, which the coarser grid has too
    rw [if_pos carried] at last_digit ⊢
    subst carried
    have ten : (10 : ℚ) ≠ 0 := by norm_num
    have next_power : shift = (count : Int) - 1 - (magnitude num den + 1) := last_digit
    have coarser : -((count : Int) - 1 - magnitude num den) = -shift - 1 := by omega
    have finer : (10 : ℚ) ^ (-shift - 1) < 10 ^ (-shift) :=
      zpow_lt_zpow_right₀ (by norm_num) (by omega)
    have power : ((10 ^ count : Nat) : ℚ) * 10 ^ (-shift - 1) =
        ((10 ^ (count - 1) : Nat) : ℤ) * 10 ^ (-shift) := by
      push_cast
      rw [← zpow_natCast, ← zpow_natCast, ← zpow_add₀ ten, ← zpow_add₀ ten]
      congr 1
      omega
    rw [coarser, power] at near
    have closer := roundsEven_of_abs_lt (near.trans_lt (by linarith))
    have same := (roundsEven_scaled num den_pos shift).unique (by positivity) closer
    have whole := mul_right_cancel₀ (by positivity) same
    have again : roundHalfEven (num * 10 ^ shift.toNat) (den * 10 ^ (-shift).toNat) =
        10 ^ (count - 1) := by exact_mod_cast whole
    rw [again, trimZeros_digits_ten_pow]
    exact ⟨Nat.le_refl _, Nat.pow_lt_pow_right (by decide) (by omega), rfl⟩
  · rw [if_neg carried] at last_digit ⊢
    subst last_digit
    rw [first]
    exact ⟨low, Nat.lt_of_le_of_ne high carried, rfl⟩

/-- Written with the point where the second rounding puts it, a fraction is laid out plainly in
    the digits of the first. -/
theorem trimFraction_fixed (below : (rounded count num den).exponent < count) :
    trimFraction (fixed ((count : Int) - 1 - (rounded count num den).exponent).toNat num den) =
      (rounded count num den).plain := by
  obtain ⟨low, high, digits⟩ := rounded_again num_pos den_pos count_pos rfl
  have no_scale : (-((count : Int) - 1 - (rounded count num den).exponent)).toNat = 0 := by omega
  rw [no_scale, Nat.pow_zero, Nat.mul_one] at low high digits
  have power : (count : Int) - 1 - ((count : Int) - 1 - (rounded count num den).exponent).toNat =
      (rounded count num den).exponent := by omega
  rw [fixed, Nat.pow_eq, trimFraction_pointed count_pos low high, ← digits, power]

end

/-- Both roundings together write the digits of the first, with an exponent or plainly. -/
theorem Binary.precise_eq {b : Binary} (h : b.significand ≠ 0) {count : Nat}
    (count_pos : 0 < count) :
    b.precise count = (rounded count b.num b.den).general count := by
  rw [precise, Scientific.general]
  split
  · rfl
  · rename_i plain
    refine trimFraction_fixed (num_pos h) b.den_pos count_pos ?_
    simp only [Bool.or_eq_true, decide_eq_true_eq] at plain
    omega

end ErrorBudget.Decimal
