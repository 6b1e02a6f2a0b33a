/-
  ErrorBudget.Proofs.Decimal.Order

  The order of doubles is the order of the numbers that they denote. A double is
  taken apart in two ways, for comparing it and for reading it; both agree, and a
  larger exponent means a larger number because significands fill their 53 bits.
-/
import Mathlib
import ErrorBudget.Decimal.Binary
import ErrorBudget.Slo.Check

namespace ErrorBudget.Decimal

open Float.Model (UnpackedFloat Format)
open Float.Model.UnpackedFloat (Sign unpackMantissa unpackExponent unpackSign)

/-! ## Values -/

/-- The number that a finite reading stands for. -/
def Binary.value (b : Binary) : ℚ :=
  (if b.negative then -1 else 1) * (b.significand * 2 ^ b.exponent)

theorem Binary.value_zero (negative : Bool) (e : Int) : (Binary.mk negative 0 e).value = 0 := by
  simp [value]

theorem Binary.value_positive (m : Nat) (e : Int) :
    (Binary.mk false m e).value = m * 2 ^ e := by
  simp [value]

theorem Binary.value_negative (m : Nat) (e : Int) :
    (Binary.mk true m e).value = -(m * 2 ^ e) := by
  simp [value]

/-- The number that a double denotes, if it is finite. -/
def number? (x : Float) : Option ℚ :=
  match Reading.ofFloat x with
  | .finite b => some b.value
  | _ => none

/-! ## Two readings of a double -/

/-- A significand and an exponent as they stand in a double: 53 bits, all of them used
    unless the exponent is the least one. -/
structure Normal (m : Nat) (e : Int) : Prop where
  lt : m < 2 ^ 53
  least : -1074 ≤ e
  filled : 2 ^ 52 ≤ m ∨ e = -1074

/-- Whether a sign is the one of negative numbers. -/
def isNegative : Sign → Bool
  | .negative => true
  | .positive => false

/-- What a double is compared by and what is read off it are the same. -/
inductive Agrees : UnpackedFloat → Reading → Prop where
  | notANumber : Agrees .notANumber .notANumber
  | infinite (s : Sign) : Agrees (.infinity s) (.infinite (isNegative s))
  | zero (s : Sign) : Agrees (.zero s) (.finite ⟨isNegative s, 0, -1074⟩)
  | finite (s : Sign) {m : Nat} {e : Int} (pos : 0 < m) (normal : Normal m e) :
    Agrees (.finite s m e pos) (.finite ⟨isNegative s, m, e⟩)

theorem toNat_unpackMantissa (b : BitVec Format.binary64.numBits) :
    (unpackMantissa b).toNat = b.toNat % 2 ^ 52 := by
  simp [unpackMantissa, BitVec.extractLsb]

theorem toNat_unpackExponent (b : BitVec Format.binary64.numBits) :
    (unpackExponent b).toNat = b.toNat / 2 ^ 52 % 2 ^ 11 := by
  simp [unpackExponent, BitVec.extractLsb, Nat.shiftRight_eq_div_pow]

theorem toNat_unpackSign (b : BitVec Format.binary64.numBits) :
    (unpackSign b).toNat = b.toNat / 2 ^ 63 := by
  have bound : b.toNat < 2 ^ 64 := b.isLt
  simp only [unpackSign, BitVec.extractLsb, Nat.shiftRight_eq_div_pow, BitVec.toNat_cast,
    BitVec.extractLsb'_toNat]
  change b.toNat / 2 ^ 63 % 2 ^ 1 = b.toNat / 2 ^ 63
  omega

theorem isNegative_ofBitVec (b : BitVec 1) :
    isNegative (Sign.ofBitVec b) = decide (b.toNat = 1) := by
  revert b
  decide

/-- The leading bit that the fraction of a number leaves out. -/
theorem toNat_one_append (m : BitVec 52) : (1#1 ++ m).toNat = m.toNat + 2 ^ 52 := by
  rw [BitVec.toNat_append, ← Nat.shiftLeft_add_eq_or_of_lt m.isLt]
  simp [Nat.add_comm]

theorem agrees_unpack (x : Float) : Agrees x.toModel.unpack (Reading.ofFloat x) := by
  -- said for the bits alone: both sides then split on the same three fields
  have agree (b : BitVec Format.binary64.numBits) (bits : UInt64) (h : b.toNat = bits.toNat) :
      Agrees (UnpackedFloat.unpack Format.binary64 b) (Reading.ofBits bits) := by
    have mantissa := toNat_unpackMantissa b
    have exponent := toNat_unpackExponent b
    have sign := toNat_unpackSign b
    have mantissa_lt : (unpackMantissa b).toNat < 2 ^ 52 := (unpackMantissa b).isLt
    have all_ones : unpackExponent b = -1#11 ↔ (unpackExponent b).toNat = 2047 :=
      BitVec.toNat_inj.symm
    have no_exponent : unpackExponent b = 0#11 ↔ (unpackExponent b).toNat = 0 :=
      BitVec.toNat_inj.symm
    have no_mantissa : unpackMantissa b = 0#52 ↔ (unpackMantissa b).toNat = 0 :=
      BitVec.toNat_inj.symm
    have bias : (Format.binary64.exponentBias : Int) = 1023 := rfl
    rw [UnpackedFloat.unpack, Reading.ofBits]
    simp only [Nat.pow_eq, ← h, ← mantissa, ← exponent, ← sign, ← isNegative_ofBitVec]
    by_cases infinite : (unpackExponent b).toNat = 2047
    · rw [if_pos (all_ones.2 infinite), if_pos infinite]
      by_cases zero : (unpackMantissa b).toNat = 0
      · rw [if_pos (no_mantissa.2 zero), if_pos zero]
        exact .infinite _
      · rw [if_neg (mt no_mantissa.1 zero), if_neg zero]
        exact .notANumber
    · rw [if_neg (mt all_ones.1 infinite), if_neg infinite]
      by_cases least : (unpackExponent b).toNat = 0
      · rw [if_pos (no_exponent.2 least), if_pos least]
        by_cases zero : (unpackMantissa b).toNat = 0
        · rw [dif_pos (no_mantissa.2 zero), zero]
          exact .zero _
        · rw [dif_neg (mt no_mantissa.1 zero)]
          -- the least exponent counts like the one above it, and has no leading bit
          have exponent_eq : ((unpackExponent b).toNat : Int) -
              (Format.binary64.exponentBias + (52 : Nat)) + 1 = -1074 := by
            rw [least, bias]
            rfl
          rw [exponent_eq]
          exact .finite _ _ ⟨by omega, by omega, .inr rfl⟩
      · rw [if_neg (mt no_exponent.1 least), if_neg least]
        have exponent_eq : ((unpackExponent b).toNat : Int) -
            (Format.binary64.exponentBias + (52 : Nat)) = (unpackExponent b).toNat - 1075 := by
          rw [bias]
          omega
        have mantissa_eq := toNat_one_append (unpackMantissa b)
        simp only [exponent_eq, mantissa_eq]
        exact .finite _ _ ⟨by omega, by omega, .inl (by omega)⟩
  exact agree x.toModel.toBits.toBitVec x.toModel.toBits rfl

/-! ## Order -/

theorem Normal.mul_pow_lt {m₁ m₂ : Nat} {e₁ e₂ : Int} (h₁ : Normal m₁ e₁) (h₂ : Normal m₂ e₂)
    (h : e₁ < e₂) : (m₁ : ℚ) * 2 ^ e₁ < m₂ * 2 ^ e₂ := by
  -- the larger exponent is not the least one, so all bits are used there
  have filled : 2 ^ 52 ≤ m₂ := h₂.filled.resolve_right (by have := h₁.least; omega)
  have some_room : (m₁ : ℚ) < 2 ^ 53 := by exact_mod_cast h₁.lt
  have full : (2 : ℚ) ^ 52 ≤ m₂ := by exact_mod_cast filled
  have next : (2 : ℚ) ^ (e₁ + 1) ≤ 2 ^ e₂ := zpow_le_zpow_right₀ one_le_two (by omega)
  calc (m₁ : ℚ) * 2 ^ e₁ < 2 ^ 53 * 2 ^ e₁ :=
        mul_lt_mul_of_pos_right some_room (zpow_pos two_pos e₁)
    _ = 2 ^ 52 * 2 ^ (e₁ + 1) := by
        rw [zpow_add_one₀ two_ne_zero]
        ring
    _ ≤ 2 ^ 52 * 2 ^ e₂ := mul_le_mul_of_nonneg_left next (by positivity)
    _ ≤ m₂ * 2 ^ e₂ := mul_le_mul_of_nonneg_right full (zpow_nonneg zero_le_two e₂)

/-- Exponents first and significands then: that is how magnitudes compare. -/
theorem Normal.compare_eq {m₁ m₂ : Nat} {e₁ e₂ : Int} (h₁ : Normal m₁ e₁) (h₂ : Normal m₂ e₂) :
    (compare e₁ e₂).then (compare m₁ m₂) = compare ((m₁ : ℚ) * 2 ^ e₁) (m₂ * 2 ^ e₂) := by
  rcases lt_trichotomy e₁ e₂ with lt | rfl | gt
  · rw [compare_lt_iff_lt.2 lt, compare_lt_iff_lt.2 (h₁.mul_pow_lt h₂ lt)]
    rfl
  · -- with one exponent, significands are scaled by the same power
    have scale : StrictMono fun m : Nat => (m : ℚ) * 2 ^ e₁ := fun a b hab =>
      mul_lt_mul_of_pos_right (Nat.cast_lt.2 hab) (zpow_pos two_pos e₁)
    rw [compare_eq_iff_eq.2 rfl, Ordering.eq_then, ← cmp_eq_compare, ← cmp_eq_compare]
    exact (scale.cmp_map_eq m₁ m₂).symm
  · rw [compare_gt_iff_gt.2 gt, compare_gt_iff_gt.2 (h₂.mul_pow_lt h₁ gt)]
    rfl

/-- Finite doubles compare as the numbers that they denote. -/
theorem compare_finite {u v : UnpackedFloat} {b c : Binary} (hu : Agrees u (.finite b))
    (hv : Agrees v (.finite c)) : u.compare v = some (compare b.value c.value) := by
  -- signs decide unless they are the same; then magnitudes do, flipped below zero
  have magnitude_pos {m : Nat} (pos : 0 < m) (e : Int) : (0 : ℚ) < m * 2 ^ e := by positivity
  have flipped (p q : ℚ) : (compare p q).swap = compare (-p) (-q) := by
    have falls : StrictAnti fun p : ℚ => -p := fun a b hab => neg_lt_neg hab
    rw [← cmp_eq_compare, ← cmp_eq_compare, cmp_swap]
    exact (falls.cmp_map_eq p q).symm
  cases hu with
  | zero s =>
    cases hv with
    | zero t => rw [Binary.value_zero, Binary.value_zero, compare_eq_iff_eq.2 rfl]; rfl
    | finite t pos normal =>
      have above := magnitude_pos pos
      cases t with
      | negative =>
        rw [isNegative, Binary.value_zero, Binary.value_negative,
          compare_gt_iff_gt.2 (neg_lt_zero.2 (above _))]
        rfl
      | positive =>
        rw [isNegative, Binary.value_zero, Binary.value_positive, compare_lt_iff_lt.2 (above _)]
        rfl
  | finite s pos normal =>
    have above := magnitude_pos pos
    cases hv with
    | zero t =>
      cases s with
      | negative =>
        rw [isNegative, Binary.value_zero, Binary.value_negative,
          compare_lt_iff_lt.2 (neg_lt_zero.2 (above _))]
        rfl
      | positive =>
        rw [isNegative, Binary.value_zero, Binary.value_positive, compare_gt_iff_gt.2 (above _)]
        rfl
    | finite t pos' normal' =>
      have above' := magnitude_pos pos'
      cases s with
      | negative =>
        cases t with
        | negative =>
          rw [isNegative, Binary.value_negative, Binary.value_negative, ← flipped,
            ← normal.compare_eq normal']
          rfl
        | positive =>
          rw [isNegative, isNegative, Binary.value_negative, Binary.value_positive,
            compare_lt_iff_lt.2 ((neg_lt_zero.2 (above _)).trans (above' _))]
          rfl
      | positive =>
        cases t with
        | negative =>
          rw [isNegative, isNegative, Binary.value_negative, Binary.value_positive,
            compare_gt_iff_gt.2 ((neg_lt_zero.2 (above' _)).trans (above _))]
          rfl
        | positive =>
          rw [isNegative, Binary.value_positive, Binary.value_positive,
            ← normal.compare_eq normal']
          rfl

theorem number?_eq_some {x : Float} {q : ℚ} (h : number? x = some q) :
    ∃ b, Reading.ofFloat x = .finite b ∧ b.value = q := by
  rw [number?] at h
  split at h
  · rename_i b finite
    exact ⟨b, finite, Option.some.inj h⟩
  · cases h

/-- Doubles that denote numbers compare as these. -/
theorem compare_numbers {x y : Float} {p q : ℚ} (hx : number? x = some p) (hy : number? y = some q) :
    x.toModel.unpack.compare y.toModel.unpack = some (compare p q) := by
  obtain ⟨b, read_x, rfl⟩ := number?_eq_some hx
  obtain ⟨c, read_y, rfl⟩ := number?_eq_some hy
  exact compare_finite (read_x ▸ agrees_unpack x) (read_y ▸ agrees_unpack y)

theorem le_iff_compare (x y : Float) :
    x ≤ y ↔ (x.toModel.unpack.compare y.toModel.unpack).any (·.isLE) = true :=
  decide_eq_true_iff (p := x.toModel ≤ y.toModel)

theorem lt_iff_compare (x y : Float) :
    x < y ↔ x.toModel.unpack.compare y.toModel.unpack = some .lt :=
  (decide_eq_true_iff (p := x.toModel < y.toModel)).trans beq_iff_eq

theorem le_of_lt {x y : Float} (h : x < y) : x ≤ y := by
  rw [le_iff_compare, (lt_iff_compare x y).1 h]
  rfl

theorem le_iff {x y : Float} {p q : ℚ} (hx : number? x = some p) (hy : number? y = some q) :
    x ≤ y ↔ p ≤ q := by
  rw [le_iff_compare, compare_numbers hx hy, Option.any_some, ← compare_le_iff_le,
    Ordering.isLE_iff_ne_gt]

theorem lt_iff {x y : Float} {p q : ℚ} (hx : number? x = some p) (hy : number? y = some q) :
    x < y ↔ p < q := by
  rw [lt_iff_compare, compare_numbers hx hy, Option.some_inj, compare_lt_iff_lt]

/-- What lies between doubles that denote numbers denotes one. -/
theorem exists_number_of_between {x y z : Float} {p q : ℚ} (hx : number? x = some p)
    (hz : number? z = some q) (le : x ≤ y) (le' : y ≤ z) : ∃ r, number? y = some r := by
  rw [le_iff_compare] at le le'
  obtain ⟨b, read_x, -⟩ := number?_eq_some hx
  obtain ⟨c, read_z, -⟩ := number?_eq_some hz
  have below := agrees_unpack x
  have above := agrees_unpack z
  have middle := agrees_unpack y
  rw [read_x] at below
  rw [read_z] at above
  rw [number?]
  -- only the shapes of the three doubles matter: beyond an infinite one there is no number
  generalize Reading.ofFloat y = r at middle ⊢
  generalize x.toModel.unpack = u at le below
  generalize y.toModel.unpack = v at le le' middle
  generalize z.toModel.unpack = w at le' above
  cases middle with
  | notANumber => cases above <;> cases le'
  | infinite s =>
    cases s with
    | negative => cases below <;> cases le
    | positive => cases above <;> cases le'
  | zero s => exact ⟨_, rfl⟩
  | finite s pos normal => exact ⟨_, rfl⟩

/-! ## Percentages -/

theorem number?_zero : number? 0.0 = some 0 := by
  have read : Reading.ofFloat 0.0 = .finite ⟨false, 0, -1074⟩ := by decide
  rw [number?, read]
  simp [Binary.value]

theorem number?_hundred : number? 100.0 = some 100 := by
  have read : Reading.ofFloat 100.0 = .finite ⟨false, 7036874417766400, -46⟩ := by decide
  rw [number?, read]
  norm_num [Binary.value]

end ErrorBudget.Decimal

namespace ErrorBudget

open Decimal (number?)

/-- Exactly the doubles that denote a number from 0 to 100 are percentages. -/
theorem isPercentage_iff {x : Float} :
    isPercentage x = true ↔ ∃ q, number? x = some q ∧ 0 ≤ q ∧ q ≤ 100 := by
  rw [isPercentage, Bool.and_eq_true, decide_eq_true_eq, decide_eq_true_eq]
  constructor
  · rintro ⟨low, high⟩
    obtain ⟨q, hq⟩ :=
      Decimal.exists_number_of_between Decimal.number?_zero Decimal.number?_hundred low high
    exact ⟨q, hq, (Decimal.le_iff Decimal.number?_zero hq).1 low,
      (Decimal.le_iff hq Decimal.number?_hundred).1 high⟩
  · rintro ⟨q, hq, low, high⟩
    exact ⟨(Decimal.le_iff Decimal.number?_zero hq).2 low,
      (Decimal.le_iff hq Decimal.number?_hundred).2 high⟩

/-- Exactly the doubles that denote a number above 0 and up to 100 are positive
    percentages. -/
theorem isPositivePercentage_iff {x : Float} :
    isPositivePercentage x = true ↔ ∃ q, number? x = some q ∧ 0 < q ∧ q ≤ 100 := by
  rw [isPositivePercentage, Bool.and_eq_true, decide_eq_true_eq, decide_eq_true_eq]
  constructor
  · rintro ⟨low, high⟩
    obtain ⟨q, hq⟩ := Decimal.exists_number_of_between Decimal.number?_zero Decimal.number?_hundred
      (Decimal.le_of_lt low) high
    exact ⟨q, hq, (Decimal.lt_iff Decimal.number?_zero hq).1 low,
      (Decimal.le_iff hq Decimal.number?_hundred).1 high⟩
  · rintro ⟨q, hq, low, high⟩
    exact ⟨(Decimal.lt_iff Decimal.number?_zero hq).2 low,
      (Decimal.le_iff hq Decimal.number?_hundred).2 high⟩

end ErrorBudget
