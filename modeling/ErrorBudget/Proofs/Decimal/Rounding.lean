/-
  ErrorBudget.Proofs.Decimal.Rounding

  How products and differences become doubles. Bits that do not fit are shifted out one by
  one, with two bits that remember what was lost; together they round to the nearest whole
  number, a half to the even neighbour. What is left fills a double, and is read off it
  again, so the double is as near to the exact number as 53 bits make it.
-/
import ErrorBudget.Proofs.Decimal.Significant

namespace ErrorBudget.Decimal

open Float.Model (UnpackedFloat Format totalExponent)
open Float.Model.UnpackedFloat (Accuracy ExtendedMantissa Sign shiftToTargetExponent
  roundWithAccuracy unpackSign packComponents unpackMantissa_packComponents
  unpackExponent_packComponents)

/-! ## Bits that are shifted out -/

/-- What is left of a number after bits are shifted out: the whole part, and two bits that
    tell how the rest compares with a half. -/
inductive Represents : ExtendedMantissa → ℚ → Prop where
  | exact (m : Nat) : Represents ⟨m, false, false⟩ m
  | less {m : Nat} {x : ℚ} (low : m < x) (high : x < m + 1 / 2) : Represents ⟨m, false, true⟩ x
  | half (m : Nat) : Represents ⟨m, true, false⟩ (m + 1 / 2)
  | more {m : Nat} {x : ℚ} (low : m + 1 / 2 < x) (high : x < m + 1) :
      Represents ⟨m, true, true⟩ x

theorem represents_exact (m : Nat) :
    Represents (ExtendedMantissa.ofMantissaAndAccuracy m .exact) m :=
  .exact m

/-- One more bit that is shifted out becomes the half of the new rest. -/
theorem Represents.shiftRightOne {em : ExtendedMantissa} {x : ℚ} (h : Represents em x) :
    Represents em.shiftRightOne (x / 2) := by
  have split (m : Nat) : (m % 2 = 0 ∧ (m : ℚ) = 2 * (m / 2 : Nat)) ∨
      (m % 2 = 1 ∧ (m : ℚ) = 2 * (m / 2 : Nat) + 1) := by
    rcases Nat.mod_two_eq_zero_or_one m with bit | bit
    · refine .inl ⟨bit, ?_⟩
      exact_mod_cast (by omega : m = 2 * (m / 2))
    · refine .inr ⟨bit, ?_⟩
      exact_mod_cast (by omega : m = 2 * (m / 2) + 1)
  -- something between two whole numbers is less than a half of the new rest
  have beside {m : Nat} {x : ℚ} (low : m < x) (high : x < m + 1) :
      Represents ⟨m / 2, m % 2 != 0, true⟩ (x / 2) := by
    rcases split m with ⟨bit, value⟩ | ⟨bit, value⟩
    · rw [bit]
      exact .less (by linarith) (by linarith)
    · rw [bit]
      exact .more (by linarith) (by linarith)
  cases h with
  | exact m =>
    rw [ExtendedMantissa.shiftRightOne]
    rcases split m with ⟨bit, value⟩ | ⟨bit, value⟩
    · rw [bit, value, mul_div_cancel_left₀ _ two_ne_zero]
      exact .exact (m / 2)
    · rw [bit, value, add_div, mul_div_cancel_left₀ _ two_ne_zero]
      exact .half (m / 2)
  | less low high => exact beside low (by linarith)
  | half m => exact beside (by linarith) (by linarith)
  | more low high => exact beside (by linarith) high

theorem Represents.shiftRight {em : ExtendedMantissa} {x : ℚ} (h : Represents em x) (n : Nat) :
    Represents (em >>> n) (x / 2 ^ n) := by
  induction n with
  | zero =>
    rw [pow_zero, div_one]
    exact h
  | succ n ih =>
    rw [pow_succ, ← div_div]
    exact ih.shiftRightOne

/-- The whole part, rounded by what the two bits tell, is the nearest whole number. -/
theorem Represents.roundsEven {em : ExtendedMantissa} {x : ℚ} (h : Represents em x) :
    RoundsEven 1 x em.roundedMantissa := by
  have near {n : Nat} {x : ℚ} (low : -(1 / 2) < n - x) (high : n - x < 1 / 2) :
      RoundsEven 1 x n := by
    have close : |((n : Int) : ℚ) * 1 - x| < 1 / 2 := by
      rw [mul_one]
      exact abs_lt.2 ⟨low, high⟩
    have rounds := roundsEven_of_abs_lt close
    rwa [mul_one] at rounds
  cases h with
  | exact m =>
    show RoundsEven 1 m (m : ℚ)
    exact near (by norm_num) (by norm_num)
  | @less m x low high =>
    show RoundsEven 1 x (m : ℚ)
    exact near (by linarith) (by linarith)
  | half m =>
    -- the whole part stays if it is even and is raised if it is odd
    show RoundsEven 1 (m + 1 / 2) ((m + m % 2 : Nat) : ℚ)
    refine ⟨(m + m % 2 : Nat), by rw [Int.cast_natCast, mul_one], ?_, fun _ => ?_⟩
    · rcases Nat.mod_two_eq_zero_or_one m with bit | bit
      · rw [bit]
        norm_num
      · rw [bit, Nat.cast_add, add_sub_add_left_eq_sub]
        norm_num
    · rw [Int.even_coe_nat, Nat.even_iff]
      omega
  | @more m x low high =>
    show RoundsEven 1 x ((m + 1 : Nat) : ℚ)
    exact near (by push_cast; linarith) (by push_cast; linarith)

/-! ## Numbers that fill a double -/

/-- The power of two of the last bit that a double of the size of `m * 2 ^ e` has. -/
def lastBit (m : Nat) (e : Int) : Int :=
  Format.binary64.targetExponent (totalExponent m e)

theorem lastBit_eq (m : Nat) (e : Int) : lastBit m e = max (m.log2 + e - 52) (-1074) := by
  have bits : (Format.binary64.mantissaBits : Int) = 53 := rfl
  have least : Format.binary64.minExponent = -1074 := rfl
  rw [lastBit, Format.targetExponent, totalExponent, bits, least]
  omega

theorem shiftToTargetExponent_eq (m : Nat) (e : Int) (accuracy : Accuracy) :
    shiftToTargetExponent Format.binary64 m e accuracy =
      (ExtendedMantissa.ofMantissaAndAccuracy m accuracy >>> (lastBit m e - e).toNat,
        e + (lastBit m e - e).toNat) :=
  rfl

/-- A significand and an exponent with a sign, where zero stands apart. -/
def signed (s : Sign) (m : Nat) (e : Int) : UnpackedFloat :=
  if h : m = 0 then .zero s else .finite s m e (Nat.pos_of_ne_zero h)

theorem log2_le_of_lt {m k : Nat} (h : m < 2 ^ (k + 1)) : m.log2 ≤ k := by
  by_cases zero : m = 0
  · rw [zero, Nat.log2_zero]
    exact Nat.zero_le k
  · exact Nat.le_of_lt_succ ((Nat.log2_lt zero).2 h)

/-- Nothing is shifted out of a number that fits. -/
theorem shiftToTargetExponent_of_lt {m : Nat} {e : Int} (h : m < 2 ^ 53) (least : -1074 ≤ e) :
    shiftToTargetExponent Format.binary64 m e .exact = (⟨m, false, false⟩, e) := by
  have bits : m.log2 ≤ 52 := log2_le_of_lt h
  have target := lastBit_eq m e
  have amount : (lastBit m e - e).toNat = 0 := by omega
  rw [shiftToTargetExponent_eq, amount, Nat.cast_zero, Int.add_zero]
  rfl

/-- The one number too large after rounding has one bit shifted out, which is zero. -/
theorem shiftToTargetExponent_carry {e : Int} (least : -1074 ≤ e) :
    shiftToTargetExponent Format.binary64 (2 ^ 53) e .exact =
      (⟨2 ^ 52, false, false⟩, e + 1) := by
  have bits : (2 ^ 53 : Nat).log2 = 53 := Nat.log2_two_pow
  have target := lastBit_eq (2 ^ 53) e
  have amount : (lastBit (2 ^ 53) e - e).toNat = 1 := by
    rw [bits] at target
    omega
  rw [shiftToTargetExponent_eq, amount]
  rfl

theorem two_zpow_eq {e l : Int} (h : e ≤ l) : (2 : ℚ) ^ l = 2 ^ (l - e).toNat * 2 ^ e := by
  rw [← zpow_natCast, ← zpow_add₀ two_ne_zero]
  congr 1
  omega

/-- `l` is the power of two of the last bit that a double of the size of `q` has. -/
structure IsLastBit (q : ℚ) (l : Int) : Prop where
  least : -1074 ≤ l
  below : q < 2 ^ (l + 53)
  filled : 2 ^ (l + 52) ≤ q ∨ l = -1074

/-- A significand and an exponent that `q` is rounded to, to the nearest multiple of its last
    bit. -/
structure NearestDouble (q : ℚ) (m : Nat) (e : Int) : Prop where
  normal : Normal m e
  rounds : ∃ l, IsLastBit q l ∧ RoundsEven (2 ^ l) q (m * 2 ^ e)

/-- The whole part tells where the last bit is, unless there are not bits enough. -/
theorem isLastBit_lastBit {m : Nat} {e : Int} {x : ℚ} (low : m ≤ x) (high : x < m + 1)
    (le : e ≤ lastBit m e) : IsLastBit (x * 2 ^ e) (lastBit m e) := by
  have target := lastBit_eq m e
  refine ⟨by omega, ?_, ?_⟩
  · have next : m + 1 ≤ 2 ^ (m.log2 + 1) := Nat.lt_log2_self
    have cast : (m : ℚ) + 1 ≤ 2 ^ (m.log2 + 1) := by exact_mod_cast next
    calc x * 2 ^ e < 2 ^ (m.log2 + 1) * 2 ^ e :=
          mul_lt_mul_of_pos_right (high.trans_le cast) (zpow_pos two_pos e)
      _ = 2 ^ ((m.log2 + 1 : Nat) + e) := by rw [zpow_add₀ two_ne_zero, zpow_natCast]
      _ ≤ 2 ^ (lastBit m e + 53) := zpow_le_zpow_right₀ one_le_two (by omega)
  · by_cases least : lastBit m e = -1074
    · exact .inr least
    · have not_zero : m ≠ 0 := by
        rintro rfl
        rw [Nat.log2_zero] at target
        omega
      have leading : (2 : ℚ) ^ m.log2 ≤ m := by exact_mod_cast Nat.log2_self_le not_zero
      have power : lastBit m e + 52 = (m.log2 : Int) + e := by omega
      rw [power, zpow_add₀ two_ne_zero, zpow_natCast]
      exact .inl (mul_le_mul_of_nonneg_right (leading.trans low) (zpow_nonneg zero_le_two e))

theorem Represents.whole {em : ExtendedMantissa} {x : ℚ} (h : Represents em x) :
    em.mantissa ≤ x ∧ x < em.mantissa + 1 := by
  cases h with
  | exact m => exact ⟨le_refl _, lt_add_one _⟩
  | less low high => exact ⟨low.le, by dsimp only; linarith⟩
  | half m => exact ⟨by dsimp only; linarith, by dsimp only; linarith⟩
  | more low high => exact ⟨by dsimp only; linarith, high⟩

theorem mantissa_ofMantissaAndAccuracy (m : Nat) (accuracy : Accuracy) :
    (ExtendedMantissa.ofMantissaAndAccuracy m accuracy).mantissa = m := by
  match accuracy with
  | .exact | .inexact .lt | .inexact .eq | .inexact .gt => rfl

/-- The rounded number has 53 bits or is the power of two after these; and all bits are used
    unless the exponent is the least one. -/
theorem rounded_bounds {q y : ℚ} {l : Int} {n : Nat} (last : IsLastBit q l) (scaled : y * 2 ^ l = q)
    (rounds : RoundsEven 1 y n) : n ≤ 2 ^ 53 ∧ (2 ^ 52 ≤ n ∨ l = -1074) := by
  obtain ⟨low, high⟩ := abs_le.1 rounds.abs_sub_le
  have step_pos : (0 : ℚ) < 2 ^ l := zpow_pos two_pos l
  constructor
  · have below : y < 2 ^ 53 := by
      have scaled_below := last.below
      rw [← scaled, add_comm, zpow_add₀ two_ne_zero] at scaled_below
      exact_mod_cast lt_of_mul_lt_mul_right scaled_below step_pos.le
    have cast : (n : ℚ) < (2 ^ 53 + 1 : Nat) := by
      push_cast
      linarith
    exact Nat.le_of_lt_succ (by exact_mod_cast cast)
  · rcases last.filled with filled | least
    · have reach : 2 ^ 52 ≤ y := by
        rw [← scaled, add_comm, zpow_add₀ two_ne_zero] at filled
        exact_mod_cast le_of_mul_le_mul_right filled step_pos
      have cast : ((2 ^ 52 : Nat) : ℚ) < (n + 1 : Nat) := by
        push_cast
        linarith
      exact .inl (Nat.le_of_lt_succ (by exact_mod_cast cast))
    · exact .inr least

/-- Rounding to a double takes the nearest multiple of the last bit, if there are bits
    enough. -/
theorem exists_roundWithAccuracy {m : Nat} {e : Int} {accuracy : Accuracy} {x : ℚ}
    (h : Represents (ExtendedMantissa.ofMantissaAndAccuracy m accuracy) x)
    (le : e ≤ lastBit m e) (s : Sign) :
    ∃ m' e', roundWithAccuracy Format.binary64 s m e accuracy = signed s m' e' ∧
      NearestDouble (x * 2 ^ e) m' e' := by
  obtain ⟨low, high⟩ := h.whole
  rw [mantissa_ofMantissaAndAccuracy] at low high
  have last := isLastBit_lastBit low high le
  have rounds := (h.shiftRight (lastBit m e - e).toNat).roundsEven
  have scaled : x / 2 ^ (lastBit m e - e).toNat * 2 ^ lastBit m e = x * 2 ^ e := by
    rw [two_zpow_eq le, ← mul_assoc, div_mul_cancel₀ _ (pow_ne_zero _ two_ne_zero)]
  have nearest := rounds.mul (zpow_pos two_pos (lastBit m e) : (0 : ℚ) < _)
  rw [one_mul, scaled] at nearest
  obtain ⟨fits, filled⟩ := rounded_bounds last scaled rounds
  have first : shiftToTargetExponent Format.binary64 m e accuracy =
      (ExtendedMantissa.ofMantissaAndAccuracy m accuracy >>> (lastBit m e - e).toNat,
        lastBit m e) := by
    have exponent : e + ((lastBit m e - e).toNat : Int) = lastBit m e := by omega
    rw [shiftToTargetExponent_eq, exponent]
  rw [roundWithAccuracy, first]
  dsimp only
  generalize (ExtendedMantissa.ofMantissaAndAccuracy m accuracy >>>
    (lastBit m e - e).toNat).roundedMantissa = n at *
  rcases Nat.lt_or_eq_of_le fits with fits | carried
  · rw [shiftToTargetExponent_of_lt fits last.least]
    exact ⟨_, _, rfl, ⟨fits, last.least, filled⟩, _, last, nearest⟩
  · have next : (n : ℚ) * 2 ^ lastBit m e = ((2 ^ 52 : Nat) : ℚ) * 2 ^ (lastBit m e + 1) := by
      rw [carried, zpow_add_one₀ two_ne_zero]
      push_cast
      ring
    have least := last.least
    rw [next] at nearest
    rw [carried, shiftToTargetExponent_carry least]
    exact ⟨2 ^ 52, lastBit m e + 1, rfl, ⟨by decide, by omega, .inl (Nat.le_refl _)⟩, _, last,
      nearest⟩

/-- Multiples of a last bit are rounded to themselves. -/
theorem RoundsEven.eq_of_multiple {m : Nat} {e l : Int} {r : ℚ}
    (h : RoundsEven (2 ^ l) (m * 2 ^ e) r) (le : l ≤ e) : r = m * 2 ^ e := by
  have step_pos : (0 : ℚ) < 2 ^ l := zpow_pos two_pos l
  have multiple : (m : ℚ) * 2 ^ e = ((m * 2 ^ (e - l).toNat : Nat) : Int) * 2 ^ l := by
    rw [two_zpow_eq le]
    push_cast
    ring
  rw [multiple] at h ⊢
  refine h.unique step_pos (roundsEven_of_abs_lt ?_)
  rw [sub_self, abs_zero]
  exact half_pos step_pos

/-- A rounded number is off by at most the part in `2 ^ 53`, unless it is too small to be
    rounded to so many bits. -/
theorem exists_rounded {m : Nat} {e : Int} (le : e ≤ lastBit m e) (s : Sign)
    (large : -1074 ≤ e ∨ (2 : ℚ) ^ (-1022 : Int) ≤ m * 2 ^ e) :
    ∃ m' e', roundWithAccuracy Format.binary64 s m e .exact = signed s m' e' ∧ Normal m' e' ∧
      |(m' : ℚ) * 2 ^ e' - m * 2 ^ e| ≤ m * 2 ^ e / 2 ^ 53 := by
  obtain ⟨m', e', made, normal, l, last, rounds⟩ :=
    exists_roundWithAccuracy (represents_exact m) le s
  refine ⟨m', e', made, normal, ?_⟩
  by_cases nothing_lost : l ≤ e
  · rw [rounds.eq_of_multiple nothing_lost, sub_self, abs_zero]
    positivity
  · refine rounds.abs_sub_le.trans ?_
    have reach : (2 : ℚ) ^ (l + 52) ≤ m * 2 ^ e := by
      rcases last.filled with filled | least
      · exact filled
      · have enough := large.resolve_left (by omega)
        rwa [least]
    rw [le_div_iff₀ (by positivity)]
    calc (2 : ℚ) ^ l / 2 * 2 ^ 53 = 2 ^ (l + 52) := by
          rw [zpow_add₀ two_ne_zero]
          norm_num
          ring
      _ ≤ m * 2 ^ e := reach

/-! ## Doubles that are put together -/

theorem unpackSign_packComponents (s : Sign) (e : BitVec 11) (m : BitVec 52) :
    unpackSign (packComponents Format.binary64 s e m) = s.toBitVec := by
  have first : ((s.toBitVec ++ e) ++ m).getLsbD 63 = s.toBitVec.getLsbD 0 := by
    rw [BitVec.getLsbD_append, if_neg (by decide), BitVec.getLsbD_append, if_neg (by decide)]
  ext i hi
  obtain rfl : i = 0 := by omega
  simp only [unpackSign, packComponents, BitVec.getElem_cast, BitVec.extractLsb,
    BitVec.getElem_extractLsb']
  exact first

theorem ofBitVec_toBitVec (s : Sign) : Sign.ofBitVec s.toBitVec = s := by
  cases s <;> rfl

theorem one_append_pos (m : BitVec 52) : 0 < (1#1 ++ m).toNat := by
  rw [toNat_one_append]
  omega

theorem unpack_packComponents (s : Sign) (e : BitVec 11) (m : BitVec 52) :
    UnpackedFloat.unpack Format.binary64 (packComponents Format.binary64 s e m) =
      if e = -1#11 then (if m = 0#52 then .infinity s else .notANumber)
      else if e = 0#11 then signed s m.toNat (-1074)
      else .finite s (1#1 ++ m).toNat (e.toNat - 1075) (one_append_pos m) := by
  rw [UnpackedFloat.unpack]
  simp only [unpackMantissa_packComponents, unpackExponent_packComponents,
    unpackSign_packComponents, ofBitVec_toBitVec]
  by_cases infinite : e = -1#11
  · rw [if_pos infinite, if_pos infinite]
  · rw [if_neg infinite, if_neg infinite]
    by_cases least : e = 0#11
    · rw [if_pos least, if_pos least, signed]
      by_cases zero : m = 0#52
      · have no_bit : m.toNat = 0 := congrArg BitVec.toNat zero
        rw [dif_pos zero, dif_pos no_bit]
      · have some_bit : m.toNat ≠ 0 := fun none_left => zero (BitVec.toNat_inj.1 none_left)
        rw [dif_neg zero, dif_neg some_bit]
        subst least
        rfl
    · rw [if_neg least, if_neg least]
      rfl

theorem biasedExponent_eq (e : Int) :
    (e + Format.binary64.exponentBias + Format.binary64.mantissaBitsWithoutImplicit).toNat =
      (e + 1075).toNat := by
  have bias : (Format.binary64.exponentBias : Int) = 1023 := rfl
  have fraction : (Format.binary64.mantissaBitsWithoutImplicit : Int) = 52 := rfl
  rw [bias, fraction]
  congr 1
  omega

theorem unpack_pack (u : UnpackedFloat) :
    (Float.Model.pack u).unpack =
      UnpackedFloat.unpack Format.binary64 (UnpackedFloat.pack Format.binary64 u) :=
  rfl

/-- A number that fills a double is read off it again, and too large ones are infinite. -/
theorem unpack_pack_signed {m : Nat} {e : Int} (h : Normal m e) (s : Sign) :
    (Float.Model.pack (signed s m e)).unpack =
      if e ≤ 971 then signed s m e else .infinity s := by
  rw [unpack_pack, signed]
  by_cases zero : m = 0
  · have least : e = -1074 := h.filled.resolve_left (by omega)
    rw [dif_pos zero, if_pos (by omega)]
    exact unpack_packComponents s 0#11 0#52
  · rw [dif_neg zero, UnpackedFloat.pack]
    dsimp only
    rw [biasedExponent_eq]
    have least := h.least
    by_cases fits : e ≤ 971
    · rw [if_neg (by omega), if_pos fits]
      by_cases filled : 2 ^ 52 ≤ m
      · have bits : m.log2 = 52 := (Nat.log2_eq_iff zero).2 ⟨filled, h.lt⟩
        have exponent : (BitVec.ofNat 11 (e + 1075).toNat).toNat = (e + 1075).toNat := by
          rw [BitVec.toNat_ofNat]
          exact Nat.mod_eq_of_lt (by omega)
        have not_all : BitVec.ofNat 11 (e + 1075).toNat ≠ -1#11 := by
          intro same
          have bound := congrArg BitVec.toNat same
          rw [exponent] at bound
          have ones : (-1#11 : BitVec 11).toNat = 2047 := rfl
          omega
        have not_none : BitVec.ofNat 11 (e + 1075).toNat ≠ 0#11 := by
          intro same
          have bound := congrArg BitVec.toNat same
          rw [exponent] at bound
          have none : (0#11 : BitVec 11).toNat = 0 := rfl
          omega
        have mantissa : (1#1 ++ BitVec.ofNat 52 m).toNat = m := by
          rw [toNat_one_append, BitVec.toNat_ofNat]
          have lt := h.lt
          omega
        have power : ((BitVec.ofNat 11 (e + 1075).toNat).toNat : Int) - 1075 = e := by
          rw [exponent]
          omega
        rw [if_pos (by rw [bits]; rfl)]
        refine (unpack_packComponents s _ _).trans ?_
        rw [if_neg not_all, if_neg not_none]
        simp only [mantissa, power]
      · have exponent : e = -1074 := h.filled.resolve_left filled
        have bits : m.log2 < 52 := (Nat.log2_lt zero).2 (by omega)
        have mantissa : (BitVec.ofNat 52 m).toNat = m := by
          rw [BitVec.toNat_ofNat]
          exact Nat.mod_eq_of_lt (by omega)
        rw [if_neg (by show m.log2 + 1 ≠ 53; omega)]
        refine (unpack_packComponents s _ _).trans ?_
        rw [if_neg (by decide), if_pos rfl, signed, mantissa, dif_neg zero]
        simp only [exponent]
    · rw [if_pos (by omega), if_neg fits]
      exact unpack_packComponents s (-1#11) 0#52

end ErrorBudget.Decimal
