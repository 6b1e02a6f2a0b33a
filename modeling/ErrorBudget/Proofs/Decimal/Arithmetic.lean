/-
  ErrorBudget.Proofs.Decimal.Arithmetic

  Products and differences of doubles that denote numbers. Each is the double that the exact
  result is rounded to, so it is off by at most the part in `2 ^ 53`, or infinite because
  the result is out of range.
-/
import ErrorBudget.Proofs.Decimal.Rounding

namespace ErrorBudget.Decimal

open Float.Model (UnpackedFloat Format totalExponent)
open Float.Model.UnpackedFloat (Sign roundWithAccuracy decreaseExponent)

/-! ## Doubles taken apart -/

/-- A significand and an exponent with a sign stand for this number. -/
def signedValue (s : Sign) (m : Nat) (e : Int) : ℚ :=
  s.apply (m : Int) * 2 ^ e

theorem signedValue_eq (s : Sign) (m : Nat) (e : Int) :
    signedValue s m e = (if isNegative s then -1 else 1) * (m * 2 ^ e) := by
  cases s with
  | negative =>
    simp only [signedValue, Sign.apply, isNegative, if_true]
    push_cast
    ring
  | positive =>
    simp only [signedValue, Sign.apply, isNegative, Bool.false_eq_true, if_false]
    push_cast
    ring

theorem abs_signedValue (s : Sign) (m : Nat) (e : Int) : |signedValue s m e| = m * 2 ^ e := by
  have nonneg : (0 : ℚ) ≤ m * 2 ^ e := by positivity
  rw [signedValue_eq]
  cases s with
  | negative => rw [isNegative, if_pos rfl, neg_one_mul, abs_neg, abs_of_nonneg nonneg]
  | positive => rw [isNegative, if_neg Bool.false_ne_true, one_mul, abs_of_nonneg nonneg]

/-- With one sign, values are as far apart as magnitudes. -/
theorem abs_signedValue_sub (s : Sign) (m n : Nat) (e f : Int) :
    |signedValue s m e - signedValue s n f| = |(m : ℚ) * 2 ^ e - n * 2 ^ f| := by
  rw [signedValue_eq, signedValue_eq, ← mul_sub, abs_mul]
  cases s with
  | negative => rw [isNegative, if_pos rfl, abs_neg, abs_one, one_mul]
  | positive => rw [isNegative, if_neg Bool.false_ne_true, abs_one, one_mul]

theorem signedValue_mul (s t : Sign) (m n : Nat) (e f : Int) :
    signedValue s m e * signedValue t n f = signedValue (s * t) (m * n) (e + f) := by
  have sign : isNegative (s * t) = (isNegative s != isNegative t) := by
    cases s <;> cases t <;> rfl
  rw [signedValue_eq, signedValue_eq, signedValue_eq, sign, zpow_add₀ two_ne_zero]
  push_cast
  cases isNegative s <;> cases isNegative t <;> simp <;> ring

theorem signedValue_neg (s : Sign) (m : Nat) (e : Int) :
    signedValue (-s) m e = -signedValue s m e := by
  have sign : isNegative (-s) = !isNegative s := by cases s <;> rfl
  rw [signedValue_eq, signedValue_eq, sign]
  cases isNegative s <;> simp

/-- A double that denotes a number, taken apart. -/
theorem exists_signed {x : Float} {p : ℚ} (h : number? x = some p) :
    ∃ s m e, x.toModel.unpack = signed s m e ∧ Normal m e ∧ p = signedValue s m e := by
  obtain ⟨b, finite, rfl⟩ := number?_eq_some h
  have agrees := agrees_unpack x
  rw [finite] at agrees
  generalize x.toModel.unpack = u at agrees
  cases agrees with
  | zero s =>
    refine ⟨s, 0, -1074, rfl, ⟨by decide, le_refl _, .inr rfl⟩, ?_⟩
    rw [signedValue_eq]
    rfl
  | finite s pos normal =>
    refine ⟨s, _, _, ?_, normal, ?_⟩
    · rw [signed, dif_neg pos.ne']
    · rw [signedValue_eq]
      rfl

/-- What is read off a double that is put together again. -/
theorem reading_of_unpack {x : Float} {s : Sign} {m : Nat} {e : Int}
    (h : x.toModel.unpack = signed s m e) :
    ∃ b, Reading.ofFloat x = .finite b ∧ b.value = signedValue s m e := by
  have agrees := agrees_unpack x
  rw [h, signed] at agrees
  rw [signedValue_eq]
  generalize Reading.ofFloat x = r at agrees
  by_cases zero : m = 0
  · rw [dif_pos zero] at agrees
    cases agrees
    refine ⟨_, rfl, ?_⟩
    rw [Binary.value_zero, zero, Nat.cast_zero, zero_mul, mul_zero]
  · rw [dif_neg zero] at agrees
    cases agrees
    exact ⟨_, rfl, rfl⟩

/-! ## Near numbers -/

/-- A double that a number is rounded to: off by at most the part in `2 ^ 53`, or infinite
    on the side of a number that is out of range. -/
inductive Near (q : ℚ) : Reading → Prop where
  | finite {b : Binary} (close : |b.value - q| ≤ |q| / 2 ^ 53) : Near q (.finite b)
  | above (large : 2 ^ 1023 ≤ q) : Near q (.infinite false)
  | below (large : 2 ^ 1023 ≤ -q) : Near q (.infinite true)


/-- Half of what a rounded number reaches is reached by the exact one. -/
theorem le_of_two_mul_le {a b c : ℚ} (nonneg : 0 ≤ b) (close : |a - b| ≤ b / 2 ^ 53)
    (h : 2 * c ≤ a) : c ≤ b := by
  have gap := (abs_le.1 close).2
  have part : b / 2 ^ 53 ≤ b := div_le_self nonneg (one_le_pow₀ one_le_two)
  linarith

/-- A rounded number that is packed is near, even if it is too large for a double. -/
theorem near_of_pack {x : Float} {s : Sign} {m n : Nat} {e f : Int} (normal : Normal m e)
    (h : x.toModel = Float.Model.pack (signed s m e))
    (close : |(m : ℚ) * 2 ^ e - n * 2 ^ f| ≤ n * 2 ^ f / 2 ^ 53) :
    Near (signedValue s n f) (Reading.ofFloat x) := by
  have unpacked := unpack_pack_signed normal s
  rw [← h] at unpacked
  by_cases fits : e ≤ 971
  · rw [if_pos fits] at unpacked
    obtain ⟨b, finite, value⟩ := reading_of_unpack unpacked
    rw [finite]
    refine .finite ?_
    rw [value, abs_signedValue_sub, abs_signedValue]
    exact close
  · rw [if_neg fits] at unpacked
    have agrees := agrees_unpack x
    rw [unpacked] at agrees
    -- all bits are used, so the rounded number is at least `2 ^ 1024`, and the exact one near it
    have filled : 2 ^ 52 ≤ m := normal.filled.resolve_right (by omega)
    have leading : (2 : ℚ) ^ 52 ≤ m := by exact_mod_cast filled
    have power : (2 : ℚ) ^ (972 : Int) ≤ 2 ^ e := zpow_le_zpow_right₀ one_le_two (by omega)
    have double : (2 : ℚ) * 2 ^ 1023 = 2 ^ 52 * 2 ^ (972 : Int) := by
      rw [← pow_succ', ← zpow_natCast, ← zpow_natCast, ← zpow_add₀ two_ne_zero]
      rfl
    have rounded : (2 : ℚ) * 2 ^ 1023 ≤ (m : ℚ) * 2 ^ e := by
      rw [double]
      exact mul_le_mul leading power (by positivity) (by positivity)
    have exact_number : (2 : ℚ) ^ 1023 ≤ n * 2 ^ f :=
      le_of_two_mul_le (by positivity) close rounded
    generalize Reading.ofFloat x = r at agrees
    cases agrees
    rw [signedValue_eq]
    cases s with
    | negative =>
      refine .below ?_
      rwa [isNegative, if_pos rfl, neg_one_mul, neg_neg]
    | positive =>
      refine .above ?_
      rwa [isNegative, if_neg Bool.false_ne_true, one_mul]

/-! ## Products -/

theorem toModel_mul (x y : Float) :
    (x * y).toModel =
      Float.Model.pack (UnpackedFloat.mul Format.binary64 x.toModel.unpack y.toModel.unpack) :=
  rfl

theorem mul_signed (s t : Sign) (m n : Nat) (e f : Int) :
    UnpackedFloat.mul Format.binary64 (signed s m e) (signed t n f) =
      if m * n = 0 then signed (s * t) 0 (-1074)
      else roundWithAccuracy Format.binary64 (s * t) (m * n) (e + f) .exact := by
  rw [signed, signed]
  by_cases left : m = 0
  · rw [dif_pos left, if_pos (by rw [left, Nat.zero_mul])]
    by_cases right : n = 0
    · rw [dif_pos right]
      rfl
    · rw [dif_neg right]
      rfl
  · rw [dif_neg left]
    by_cases right : n = 0
    · rw [dif_pos right, if_pos (by rw [right, Nat.mul_zero])]
      rfl
    · rw [dif_neg right, if_neg (Nat.mul_ne_zero left right)]
      rfl

/-- A product has bits enough to be rounded. -/
theorem Normal.add_le_lastBit {m n : Nat} {e f : Int} (hm : Normal m e) (hn : Normal n f)
    (pos : 0 < m * n) : e + f ≤ lastBit (m * n) (e + f) := by
  have target := lastBit_eq (m * n) (e + f)
  have left : 0 < m := Nat.pos_of_mul_pos_right pos
  have right : 0 < n := Nat.pos_of_mul_pos_left pos
  rcases hm.filled with filled | least
  · have bits : 52 ≤ (m * n).log2 :=
      (Nat.le_log2 pos.ne').2 (filled.trans (Nat.le_mul_of_pos_right m right))
    omega
  · rcases hn.filled with filled | least'
    · have bits : 52 ≤ (m * n).log2 :=
        (Nat.le_log2 pos.ne').2 (filled.trans (Nat.le_mul_of_pos_left n left))
      omega
    · omega

/-- The product of two numbers, if it is zero or not too small. -/
theorem near_mul {x y : Float} {p q : ℚ} (hx : number? x = some p) (hy : number? y = some q)
    (large : p * q = 0 ∨ (2 : ℚ) ^ (-1022 : Int) ≤ |p * q|) :
    Near (p * q) (Reading.ofFloat (x * y)) := by
  obtain ⟨s, m, e, unpack_x, normal_x, rfl⟩ := exists_signed hx
  obtain ⟨t, n, f, unpack_y, normal_y, rfl⟩ := exists_signed hy
  have packed := toModel_mul x y
  rw [unpack_x, unpack_y, mul_signed] at packed
  rw [signedValue_mul] at large ⊢
  by_cases zero : m * n = 0
  · rw [if_pos zero] at packed
    refine near_of_pack ⟨by decide, le_refl _, .inr rfl⟩ packed ?_
    rw [zero, Nat.cast_zero, zero_mul, zero_mul, sub_self, abs_zero, zero_div]
  · rw [if_neg zero] at packed
    have pos := Nat.pos_of_ne_zero zero
    have exact_pos : (0 : ℚ) < (m * n : Nat) * 2 ^ (e + f) := by
      have cast : (0 : ℚ) < (m * n : Nat) := by exact_mod_cast pos
      positivity
    rw [abs_signedValue] at large
    have enough : (2 : ℚ) ^ (-1022 : Int) ≤ (m * n : Nat) * 2 ^ (e + f) := by
      refine large.resolve_left fun none_left => ?_
      have magnitude := abs_signedValue (s * t) (m * n) (e + f)
      rw [none_left, abs_zero] at magnitude
      exact exact_pos.ne magnitude
    obtain ⟨m', e', made, normal, close⟩ :=
      exists_rounded (normal_x.add_le_lastBit normal_y pos) (s * t) (.inr enough)
    rw [made] at packed
    exact near_of_pack normal packed close

/-! ## Differences -/

theorem toModel_sub (x y : Float) :
    (x - y).toModel =
      Float.Model.pack (UnpackedFloat.sub Format.binary64 x.toModel.unpack y.toModel.unpack) :=
  rfl

theorem log2_mul_two_pow {m : Nat} (pos : 0 < m) (k : Nat) : (m * 2 ^ k).log2 = m.log2 + k := by
  have scaled_pos : m * 2 ^ k ≠ 0 := (Nat.mul_pos pos (Nat.two_pow_pos k)).ne'
  refine (Nat.log2_eq_iff scaled_pos).2 ⟨?_, ?_⟩
  · rw [Nat.pow_add]
    exact Nat.mul_le_mul_right _ (Nat.log2_self_le pos.ne')
  · rw [show m.log2 + k + 1 = m.log2 + 1 + k by omega, Nat.pow_add]
    exact Nat.mul_lt_mul_of_pos_right Nat.lt_log2_self (Nat.two_pow_pos k)

/-- Bits put behind a number leave it as it is. -/
theorem decreaseExponent_eq (m : Nat) (e target : Int) :
    decreaseExponent m e target =
      (m * 2 ^ (e - target).toNat, e - (e - target).toNat) := by
  rw [decreaseExponent, Nat.shiftLeft_eq]

theorem mul_two_zpow_sub (m k : Nat) (e : Int) :
    ((m * 2 ^ k : Nat) : ℚ) * 2 ^ (e - k) = m * 2 ^ e := by
  rw [zpow_sub₀ two_ne_zero, zpow_natCast]
  push_cast
  field_simp

/-- Bits are put behind a number until there are enough to round it. -/
theorem round_eq {m : Nat} (pos : 0 < m) (e : Int) (s : Sign) :
    ∃ k : Nat, UnpackedFloat.round Format.binary64 s m e =
        roundWithAccuracy Format.binary64 s (m * 2 ^ k) (e - k) .exact ∧
      e - k ≤ lastBit (m * 2 ^ k) (e - k) ∧ (-1074 ≤ e → -1074 ≤ e - k) := by
  have target := lastBit_eq m e
  have bits := log2_mul_two_pow pos (e - lastBit m e).toNat
  have target' := lastBit_eq (m * 2 ^ (e - lastBit m e).toNat) (e - (e - lastBit m e).toNat)
  refine ⟨(e - lastBit m e).toNat, ?_, by omega, by omega⟩
  rw [UnpackedFloat.round, decreaseExponent_eq]
  rfl

/-- A number in steps that a double can have is rounded to a near one. -/
theorem exists_round {m : Nat} (pos : 0 < m) {e : Int} (least : -1074 ≤ e) (s : Sign) :
    ∃ m' e', UnpackedFloat.round Format.binary64 s m e = signed s m' e' ∧ Normal m' e' ∧
      |(m' : ℚ) * 2 ^ e' - m * 2 ^ e| ≤ m * 2 ^ e / 2 ^ 53 := by
  obtain ⟨k, rounded, enough, still_least⟩ := round_eq pos e s
  obtain ⟨m', e', made, normal, close⟩ := exists_rounded enough s (.inl (still_least least))
  rw [mul_two_zpow_sub] at close
  exact ⟨m', e', rounded.trans made, normal, close⟩

theorem near_of_round {x : Float} {s : Sign} {m : Nat} (pos : 0 < m) {e : Int}
    (least : -1074 ≤ e)
    (h : x.toModel = Float.Model.pack (UnpackedFloat.round Format.binary64 s m e)) :
    Near (signedValue s m e) (Reading.ofFloat x) := by
  obtain ⟨m', e', made, normal, close⟩ := exists_round pos least s
  rw [made] at h
  exact near_of_pack normal h close

/-- A whole number of steps that a double can have, with its sign. -/
theorem near_of_normalize {x : Float} {m e : Int} (least : -1074 ≤ e)
    (h : x.toModel =
      Float.Model.pack (UnpackedFloat.normalize Format.binary64 m e .positive)) :
    Near (m * 2 ^ e) (Reading.ofFloat x) := by
  rw [UnpackedFloat.normalize] at h
  rcases lt_trichotomy m 0 with negative | rfl | positive
  · rw [compare_lt_iff_lt.2 negative] at h
    have value : signedValue .negative (-m).toNat e = m * 2 ^ e := by
      have cast : (((-m).toNat : Int) : ℚ) = ((-m : Int) : ℚ) := by
        rw [Int.toNat_of_nonneg (by omega)]
      rw [signedValue, Sign.apply, Int.cast_neg, cast, Int.cast_neg, neg_neg]
    rw [← value]
    exact near_of_round (by omega) least h
  · rw [compare_eq_iff_eq.2 rfl] at h
    have packed : x.toModel = Float.Model.pack (signed .positive 0 (-1074)) := h
    have value : signedValue .positive 0 (-1074) = ((0 : Int) : ℚ) * 2 ^ e := by
      simp [signedValue, Sign.apply]
    rw [← value]
    refine near_of_pack ⟨by decide, le_refl _, .inr rfl⟩ packed ?_
    rw [sub_self, abs_zero]
    positivity
  · rw [compare_gt_iff_gt.2 positive] at h
    have value : signedValue .positive m.toNat e = m * 2 ^ e := by
      rw [signedValue, Sign.apply, Int.toNat_of_nonneg positive.le]
    rw [← value]
    exact near_of_round (by omega) least h

/-- A value in smaller steps. -/
theorem apply_decreaseExponent {target e : Int} (h : target ≤ e) (s : Sign) (m : Nat) :
    (s.apply ((decreaseExponent m e target).1 : Int) : ℚ) * 2 ^ target = signedValue s m e := by
  have exponent : target = e - (e - target).toNat := by omega
  have scaled := mul_two_zpow_sub m (e - target).toNat e
  rw [← exponent] at scaled
  have same : signedValue s (m * 2 ^ (e - target).toNat) target = signedValue s m e := by
    rw [signedValue_eq, signedValue_eq, scaled]
  rw [decreaseExponent_eq]
  exact same

theorem zero_sub_zero (s t : Sign) :
    ∃ z, UnpackedFloat.sub Format.binary64 (.zero s) (.zero t) = .zero z := by
  cases s <;> cases t <;> exact ⟨_, rfl⟩

theorem sub_signed (s t : Sign) {m n : Nat} (hm : m ≠ 0) (hn : n ≠ 0) (e f : Int) :
    UnpackedFloat.sub Format.binary64 (signed s m e) (signed t n f) =
      UnpackedFloat.normalize Format.binary64
        (s.apply (decreaseExponent m e (min e f)).1 - t.apply (decreaseExponent n f (min e f)).1)
        (min e f) .positive := by
  rw [signed, signed, dif_neg hm, dif_neg hn]
  rfl

/-- The difference of two numbers. -/
theorem near_sub {x y : Float} {p q : ℚ} (hx : number? x = some p) (hy : number? y = some q) :
    Near (p - q) (Reading.ofFloat (x - y)) := by
  obtain ⟨s, m, e, unpack_x, normal_x, rfl⟩ := exists_signed hx
  obtain ⟨t, n, f, unpack_y, normal_y, rfl⟩ := exists_signed hy
  have packed := toModel_sub x y
  rw [unpack_x, unpack_y] at packed
  have zero_value (s : Sign) (e : Int) : signedValue s 0 e = 0 := by
    rw [signedValue_eq, Nat.cast_zero, zero_mul, mul_zero]
  -- what stays as it is fits already
  have same (k : Nat) (g : Int) : |(k : ℚ) * 2 ^ g - k * 2 ^ g| ≤ k * 2 ^ g / 2 ^ 53 := by
    rw [sub_self, abs_zero]
    positivity
  by_cases left : m = 0
  · subst left
    rw [zero_value, zero_sub, ← signedValue_neg]
    by_cases right : n = 0
    · subst right
      obtain ⟨z, zero⟩ := zero_sub_zero s t
      have difference : (x - y).toModel = Float.Model.pack (signed z 0 f) := by
        rw [packed]
        exact congrArg _ zero
      rw [zero_value, ← zero_value z f]
      exact near_of_pack normal_y difference (same 0 f)
    · have flipped : UnpackedFloat.sub Format.binary64 (signed s 0 e) (signed t n f) =
          signed (-t) n f := by
        rw [signed, signed, signed, dif_pos rfl, dif_neg right, dif_neg right]
        rfl
      rw [flipped] at packed
      exact near_of_pack normal_y packed (same n f)
  · by_cases right : n = 0
    · subst right
      have kept : UnpackedFloat.sub Format.binary64 (signed s m e) (signed t 0 f) =
          signed s m e := by
        rw [signed, signed, dif_neg left, dif_pos rfl]
        rfl
      rw [kept] at packed
      rw [zero_value, sub_zero]
      exact near_of_pack normal_x packed (same m e)
    · rw [sub_signed s t left right] at packed
      have least : -1074 ≤ min e f := le_min normal_x.least normal_y.least
      have value := near_of_normalize least packed
      rwa [Int.cast_sub, sub_mul, apply_decreaseExponent (min_le_left e f),
        apply_decreaseExponent (min_le_right e f)] at value

/-! ## Bounds -/

/-- Not below a number, possibly infinite. -/
inductive AtLeast (q : ℚ) : Reading → Prop where
  | finite {b : Binary} (le : q ≤ b.value) : AtLeast q (.finite b)
  | infinite : AtLeast q (.infinite false)

/-- Not above a number, possibly infinite. -/
inductive AtMost (q : ℚ) : Reading → Prop where
  | finite {b : Binary} (le : b.value ≤ q) : AtMost q (.finite b)
  | infinite : AtMost q (.infinite true)

theorem AtLeast.mono {p q : ℚ} {r : Reading} (h : AtLeast q r) (le : p ≤ q) : AtLeast p r := by
  cases h with
  | finite least => exact .finite (le.trans least)
  | infinite => exact .infinite

theorem number?_of_finite {x : Float} {b : Binary} (h : Reading.ofFloat x = .finite b) :
    number? x = some b.value := by
  rw [number?, h]

theorem atLeast_of_number {x : Float} {p q : ℚ} (h : number? x = some p) (le : q ≤ p) :
    AtLeast q (Reading.ofFloat x) := by
  obtain ⟨b, finite, rfl⟩ := number?_eq_some h
  rw [finite]
  exact .finite le

/-- What is not below a double that denotes a number denotes one too, or is infinite. -/
theorem finite_or_infinite_of_le {x y : Float} {b : Binary} (finite : Reading.ofFloat x = .finite b)
    (le : x ≤ y) : (∃ c, Reading.ofFloat y = .finite c) ∨ Reading.ofFloat y = .infinite false := by
  rw [le_iff_compare] at le
  have below := agrees_unpack x
  have above := agrees_unpack y
  rw [finite] at below
  generalize x.toModel.unpack = u at le below
  generalize y.toModel.unpack = v at le above
  generalize Reading.ofFloat y = r at above ⊢
  cases above with
  | notANumber => cases below <;> cases le
  | infinite s =>
    cases s with
    | positive => exact .inr rfl
    | negative => cases below <;> cases le
  | zero s => exact .inl ⟨_, rfl⟩
  | finite s pos normal => exact .inl ⟨_, rfl⟩

theorem atLeast_of_le {x y : Float} {q : ℚ} (h : number? x = some q) (le : x ≤ y) :
    AtLeast q (Reading.ofFloat y) := by
  obtain ⟨b, finite, rfl⟩ := number?_eq_some h
  rcases finite_or_infinite_of_le finite le with ⟨c, read⟩ | read
  · have larger := (le_iff h (number?_of_finite read)).1 le
    rw [read]
    exact .finite larger
  · rw [read]
    exact .infinite

theorem Near.atLeast {p q : ℚ} {r : Reading} (h : Near p r) (nonneg : 0 ≤ p)
    (le : q ≤ p * (1 - 1 / 2 ^ 53)) : AtLeast q r := by
  cases h with
  | finite close =>
    rw [abs_of_nonneg nonneg] at close
    have gap := (abs_le.1 close).1
    refine .finite ?_
    linarith
  | above => exact .infinite
  | below large =>
    have huge : (0 : ℚ) < 2 ^ 1023 := by positivity
    exact absurd (huge.trans_le large) (not_lt.2 (neg_nonpos.2 nonneg))

theorem unpack_of_infinite {x : Float} (h : Reading.ofFloat x = .infinite false) :
    x.toModel.unpack = .infinity .positive := by
  have agrees := agrees_unpack x
  rw [h] at agrees
  generalize x.toModel.unpack = u at agrees ⊢
  generalize shown : Reading.infinite false = r at agrees
  cases agrees with
  | infinite s =>
    cases s with
    | positive => rfl
    | negative => cases shown
  | notANumber => cases shown
  | zero s => cases shown
  | finite s pos normal => cases shown

/-- The parts of a positive double. -/
theorem unpack_of_atLeast {x : Float} {q : ℚ} (h : AtLeast q (Reading.ofFloat x)) (pos : 0 < q) :
    (∃ p, number? x = some p ∧ q ≤ p ∧
      ∃ m e, m ≠ 0 ∧ x.toModel.unpack = signed .positive m e) ∨
    x.toModel.unpack = .infinity .positive := by
  generalize read : Reading.ofFloat x = r at h
  cases h with
  | @finite b le =>
    have number := number?_of_finite read
    obtain ⟨s, m, e, unpack, -, value⟩ := exists_signed number
    have positive := pos.trans_le le
    rw [value, signedValue_eq] at positive
    refine .inl ⟨b.value, number, le, m, e, ?_, ?_⟩
    · rintro rfl
      rw [Nat.cast_zero, zero_mul, mul_zero] at positive
      exact positive.false
    · cases s with
      | positive => exact unpack
      | negative =>
        rw [isNegative, if_pos rfl, neg_one_mul, neg_pos] at positive
        exact absurd positive (not_lt.2 (by positivity))
  | infinite => exact .inr (unpack_of_infinite read)

/-- Near a number of ordinary size there is one. -/
theorem Near.exists_number {x : Float} {p : ℚ} (h : Near p (Reading.ofFloat x))
    (small : |p| ≤ 1000) : ∃ q, number? x = some q ∧ |q| ≤ 2 * |p| := by
  have moderate : |p| < 2 ^ 1023 :=
    calc |p| ≤ 1000 := small
      _ < 2 ^ 10 := by norm_num
      _ ≤ 2 ^ 1023 := pow_le_pow_right₀ one_le_two (by decide)
  generalize read : Reading.ofFloat x = r at h
  cases h with
  | @finite b close =>
    have gap := abs_sub_abs_le_abs_sub b.value p
    have part : |p| / 2 ^ 53 ≤ |p| := div_le_self (abs_nonneg p) (one_le_pow₀ one_le_two)
    exact ⟨b.value, number?_of_finite read, by linarith only [gap, part, close]⟩
  | above large => exact absurd (large.trans (le_abs_self p)) (not_le.2 moderate)
  | below large => exact absurd (large.trans (neg_le_abs p)) (not_le.2 moderate)

theorem AtLeast.le_of_number {x : Float} {p q : ℚ} (h : AtLeast q (Reading.ofFloat x))
    (number : number? x = some p) : q ≤ p := by
  obtain ⟨b, finite, rfl⟩ := number?_eq_some number
  rw [finite] at h
  obtain ⟨le⟩ := h
  exact le

theorem reading_of_infinite {x : Float} {s : Sign}
    (h : x.toModel = Float.Model.pack (.infinity s)) :
    Reading.ofFloat x = .infinite (isNegative s) := by
  have unpacked : x.toModel.unpack = .infinity s := by
    rw [h, unpack_pack]
    exact unpack_packComponents s (-1#11) 0#52
  have agrees := agrees_unpack x
  rw [unpacked] at agrees
  generalize Reading.ofFloat x = r at agrees ⊢
  cases agrees
  rfl

/-- A product of positive doubles is at least the product of what they are at least, less
    the part in `2 ^ 53`, if it is not too small. -/
theorem atLeast_mul {x y : Float} {p q : ℚ} (hx : AtLeast p (Reading.ofFloat x))
    (hy : AtLeast q (Reading.ofFloat y)) (p_pos : 0 < p) (q_pos : 0 < q)
    (large : (2 : ℚ) ^ (-1022 : Int) ≤ p * q) :
    AtLeast (p * q * (1 - 1 / 2 ^ 53)) (Reading.ofFloat (x * y)) := by
  have packed := toModel_mul x y
  have infinite (h : UnpackedFloat.mul Format.binary64 x.toModel.unpack y.toModel.unpack =
      .infinity .positive) : AtLeast (p * q * (1 - 1 / 2 ^ 53)) (Reading.ofFloat (x * y)) := by
    rw [h] at packed
    rw [reading_of_infinite packed]
    exact .infinite
  rcases unpack_of_atLeast hx p_pos with ⟨p', number_x, le, m, e, m_ne, unpack_x⟩ | unpack_x
  · rcases unpack_of_atLeast hy q_pos with ⟨q', number_y, le', n, f, n_ne, unpack_y⟩ | unpack_y
    · have larger : p * q ≤ p' * q' := mul_le_mul le le' q_pos.le (p_pos.le.trans le)
      have nonneg : 0 ≤ p' * q' := (mul_pos p_pos q_pos).le.trans larger
      have enough : (2 : ℚ) ^ (-1022 : Int) ≤ |p' * q'| := by
        rw [abs_of_nonneg nonneg]
        exact large.trans larger
      refine (near_mul number_x number_y (.inr enough)).atLeast nonneg ?_
      exact mul_le_mul_of_nonneg_right larger (by norm_num)
    · refine infinite ?_
      rw [unpack_x, unpack_y, signed, dif_neg m_ne]
      rfl
  · refine infinite ?_
    rcases unpack_of_atLeast hy q_pos with ⟨q', number_y, le', n, f, n_ne, unpack_y⟩ | unpack_y
    · rw [unpack_x, unpack_y, signed, dif_neg n_ne]
      rfl
    · rw [unpack_x, unpack_y]
      rfl

/-- A difference is at most the difference with what is taken away at least, and the part
    in `2 ^ 53`; and if this is negative, so is the difference. -/
theorem atMost_sub {x y : Float} {p q : ℚ} (hx : number? x = some p)
    (hy : AtLeast q (Reading.ofFloat y)) (q_pos : 0 < q) (moderate : p < 2 ^ 1023) :
    AtMost (max 0 ((p - q) * (1 + 1 / 2 ^ 53))) (Reading.ofFloat (x - y)) := by
  rcases unpack_of_atLeast hy q_pos with ⟨q', number_y, le, -⟩ | unpack_y
  · have near := near_sub hx number_y
    generalize Reading.ofFloat (x - y) = r at near ⊢
    cases near with
    | @finite b close =>
      have gap := (abs_le.1 close).2
      refine .finite ?_
      rcases le_total (p - q') 0 with nonpos | nonneg
      · rw [abs_of_nonpos nonpos] at gap
        have negative : b.value ≤ 0 := by linarith
        exact negative.trans (le_max_left _ _)
      · rw [abs_of_nonneg nonneg] at gap
        have bound : b.value ≤ (p - q) * (1 + 1 / 2 ^ 53) := by linarith
        exact bound.trans (le_max_right _ _)
    | above large =>
      have taken : 0 < q' := q_pos.trans_le le
      exact absurd large (not_le.2 ((sub_lt_self p taken).trans moderate))
    | below => exact .infinite
  · obtain ⟨s, m, e, unpack_x, -⟩ := exists_signed hx
    have packed := toModel_sub x y
    have infinite : UnpackedFloat.sub Format.binary64 (signed s m e) (.infinity .positive) =
        .infinity .negative := by
      rw [signed]
      split
      · rfl
      · rfl
    rw [unpack_x, unpack_y, infinite] at packed
    rw [reading_of_infinite packed]
    exact .infinite

end ErrorBudget.Decimal
