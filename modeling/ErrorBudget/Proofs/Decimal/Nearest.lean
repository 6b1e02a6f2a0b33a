/-
  ErrorBudget.Proofs.Decimal.Nearest

  A decimal number is read as the nearest double. Where a whole number and a power of ten are
  doubles themselves, they are multiplied or divided as such; elsewhere as whole numbers, with
  bits to spare. Either way the exact number is rounded once, and what it is rounded to is
  read off the double again.
-/
import ErrorBudget.Decimal.Reader
import ErrorBudget.Proofs.Decimal.Arithmetic

namespace ErrorBudget.Decimal

open Float.Model (UnpackedFloat Format totalExponent)
open Float.Model.UnpackedFloat (Accuracy ExtendedMantissa Sign roundWithAccuracy divCore
  accuracyOfFraction)

/-! ## One nearest double -/

theorem IsLastBit.unique {q : ℚ} {k l : Int} (hk : IsLastBit q k) (hl : IsLastBit q l) :
    k = l := by
  have at_most {k l : Int} (hk : IsLastBit q k) (hl : IsLastBit q l) : k ≤ l := by
    rcases hk.filled with filled | rfl
    · have powers := (zpow_lt_zpow_iff_right₀ one_lt_two).1 (filled.trans_lt hl.below)
      omega
    · exact hl.least
  exact le_antisymm (at_most hk hl) (at_most hl hk)

theorem Normal.unique {m₁ m₂ : Nat} {e₁ e₂ : Int} (h₁ : Normal m₁ e₁) (h₂ : Normal m₂ e₂)
    (same : (m₁ : ℚ) * 2 ^ e₁ = m₂ * 2 ^ e₂) : m₁ = m₂ ∧ e₁ = e₂ := by
  have equal := h₁.compare_eq h₂
  rw [same, compare_eq_iff_eq.2 rfl, Ordering.then_eq_eq] at equal
  exact ⟨compare_eq_iff_eq.1 equal.2, compare_eq_iff_eq.1 equal.1⟩

theorem NearestDouble.unique {q : ℚ} {m₁ m₂ : Nat} {e₁ e₂ : Int} (h₁ : NearestDouble q m₁ e₁)
    (h₂ : NearestDouble q m₂ e₂) : m₁ = m₂ ∧ e₁ = e₂ := by
  obtain ⟨normal₁, l, last, rounds₁⟩ := h₁
  obtain ⟨normal₂, l', last', rounds₂⟩ := h₂
  obtain rfl := last.unique last'
  exact normal₁.unique normal₂ (rounds₁.unique (zpow_pos two_pos l) rounds₂)

section

variable {q : ℚ} {m : Nat} {e : Int} (h : NearestDouble q m e)

include h

/-- What is rounded to another number than zero is not much smaller than any double. -/
theorem NearestDouble.not_tiny (pos : 0 < m) : (2 : ℚ) ^ (-1075 : Int) ≤ q := by
  obtain ⟨normal, l, last, rounds⟩ := h
  have high := (abs_le.1 rounds.abs_sub_le).2
  by_contra tiny
  rw [not_le] at tiny
  -- such a number has the least last bit, and rounds to zero
  have least : l = -1074 := by
    rcases last.filled with filled | least
    · have powers := (zpow_lt_zpow_iff_right₀ one_lt_two).1 (filled.trans_lt tiny)
      have bound := last.least
      omega
    · exact least
  have one : (1 : ℚ) ≤ m := by exact_mod_cast pos
  have reach : (2 : ℚ) ^ (-1074 : Int) ≤ m * 2 ^ e :=
    calc (2 : ℚ) ^ (-1074 : Int) ≤ 2 ^ e := zpow_le_zpow_right₀ one_le_two normal.least
      _ ≤ m * 2 ^ e := le_mul_of_one_le_left (zpow_nonneg zero_le_two e) one
  have double : (2 : ℚ) ^ (-1074 : Int) = 2 * 2 ^ (-1075 : Int) := by
    rw [← zpow_one_add₀ two_ne_zero]
    rfl
  rw [least] at high
  linarith only [tiny, high, reach, double]

/-- What is rounded to a number in the range of doubles is not much larger than these. -/
theorem NearestDouble.not_huge (fits : e ≤ 971) : q < 2 ^ (1025 : Int) := by
  obtain ⟨normal, l, last, rounds⟩ := h
  have low := (abs_le.1 rounds.abs_sub_le).1
  by_contra huge
  rw [not_lt] at huge
  have powers := (zpow_lt_zpow_iff_right₀ one_lt_two).1 (huge.trans_lt last.below)
  have filled := last.filled.resolve_right (by omega)
  have room : (m : ℚ) < 2 ^ 53 := by exact_mod_cast normal.lt
  have below : (m : ℚ) * 2 ^ e < 2 ^ (l + 51) :=
    calc (m : ℚ) * 2 ^ e < 2 ^ 53 * 2 ^ e := mul_lt_mul_of_pos_right room (zpow_pos two_pos e)
      _ = 2 ^ (53 + e) := by
          rw [zpow_add₀ two_ne_zero]
          rfl
      _ ≤ 2 ^ (l + 51) := zpow_le_zpow_right₀ one_le_two (by omega)
  have step : (2 : ℚ) ^ l ≤ 2 ^ (l + 51) := zpow_le_zpow_right₀ one_le_two (by omega)
  have double : (2 : ℚ) ^ (l + 52) = 2 * 2 ^ (l + 51) := by
    rw [← zpow_one_add₀ two_ne_zero]
    congr 1
    omega
  have positive : (0 : ℚ) < 2 ^ l := zpow_pos two_pos l
  linarith only [low, filled, double, step, positive, below]

end

/-! ## Doubles that are read off again -/

theorem signed_of_pos (s : Sign) {m : Nat} (pos : 0 < m) (e : Int) :
    signed s m e = .finite s m e pos :=
  dif_neg pos.ne'

theorem reading_of_pack {x : Float} {s : Sign} {m : Nat} {e : Int} (normal : Normal m e)
    (fits : e ≤ 971) (h : x.toModel = Float.Model.pack (signed s m e)) :
    Reading.ofFloat x = .finite ⟨isNegative s, m, e⟩ := by
  have unpacked := unpack_pack_signed normal s
  rw [← h, if_pos fits, signed] at unpacked
  have agrees := agrees_unpack x
  rw [unpacked] at agrees
  generalize Reading.ofFloat x = r at agrees
  by_cases zero : m = 0
  · have least : e = -1074 := normal.filled.resolve_left (by omega)
    rw [dif_pos zero] at agrees
    cases agrees
    rw [zero, least]
  · rw [dif_neg zero] at agrees
    cases agrees
    rfl

/-- A double that is rounded last is the nearest one. -/
theorem reading_of_rounded {x : Float} {s : Sign} {m m' : Nat} {e e' : Int} {accuracy : Accuracy}
    {y : ℚ} (h : Represents (ExtendedMantissa.ofMantissaAndAccuracy m accuracy) y)
    (le : e ≤ lastBit m e)
    (made : x.toModel = Float.Model.pack (roundWithAccuracy Format.binary64 s m e accuracy))
    (near : NearestDouble (y * 2 ^ e) m' e') (fits : e' ≤ 971) :
    Reading.ofFloat x = .finite ⟨isNegative s, m', e'⟩ := by
  obtain ⟨m₁, e₁, rounded, near₁⟩ := exists_roundWithAccuracy h le s
  obtain ⟨rfl, rfl⟩ := near₁.unique near
  rw [rounded] at made
  exact reading_of_pack near.normal fits made

/-- The bits of a finite double can be told from its reading. -/
theorem bits_of_reading {u : UInt64} {b : Binary} (h : Reading.ofBits u = .finite b) :
    b.exponent ≤ 971 ∧ u.toNat = (if b.negative then 2 ^ 63 else 0) +
      (if b.significand < 2 ^ 52 then 0 else (b.exponent + 1075).toNat) * 2 ^ 52 +
      b.significand % 2 ^ 52 := by
  have bound : u.toNat < 2 ^ 64 := u.toNat_lt
  have sign : (if decide (u.toNat / 2 ^ 63 = 1) = true then 2 ^ 63 else 0) =
      u.toNat / 2 ^ 63 * 2 ^ 63 := by
    split
    · rename_i one
      rw [of_decide_eq_true one, Nat.one_mul]
    · rename_i other
      have none : u.toNat / 2 ^ 63 ≠ 1 := fun one => other (decide_eq_true one)
      omega
  rw [Reading.ofBits] at h
  simp only [Nat.pow_eq] at h
  split at h
  · split at h <;> cases h
  · split at h
    · cases h
      dsimp only
      rw [sign, if_pos (by omega)]
      omega
    · cases h
      dsimp only
      rw [sign, if_neg (by omega)]
      omega
/-- There is one double of a finite reading. -/
theorem eq_of_reading {x y : Float} {b : Binary} (hx : Reading.ofFloat x = .finite b)
    (hy : Reading.ofFloat y = .finite b) : x = y := by
  obtain ⟨-, bits_x⟩ := bits_of_reading hx
  obtain ⟨-, bits_y⟩ := bits_of_reading hy
  have same : x.toModel.toBits = y.toModel.toBits :=
    UInt64.toNat_inj.1 (bits_x.trans bits_y.symm)
  obtain ⟨⟨bits, valid⟩⟩ := x
  obtain ⟨⟨bits', valid'⟩⟩ := y
  cases same
  rfl

/-- Negation flips the sign and leaves the rest. -/
theorem reading_neg {x : Float} {b : Binary} (h : Reading.ofFloat x = .finite b) :
    Reading.ofFloat (-x) = .finite ⟨!b.negative, b.significand, b.exponent⟩ := by
  obtain ⟨fits, -⟩ := bits_of_reading h
  have agrees := agrees_unpack x
  have made : (-x).toModel = Float.Model.pack x.toModel.unpack.neg := rfl
  have flipped (s : Sign) : isNegative (-s) = !isNegative s := by cases s <;> rfl
  rw [h] at agrees
  generalize x.toModel.unpack = u at agrees made
  cases agrees with
  | zero s =>
    have normal : Normal 0 (-1074) := ⟨by decide, le_refl _, .inr rfl⟩
    rw [← flipped]
    exact reading_of_pack normal fits made
  | finite s pos normal =>
    rw [← flipped]
    refine reading_of_pack normal fits ?_
    rw [signed_of_pos _ pos]
    exact made

/-! ## Products and quotients -/

/-- A fraction that is left over tells as much as the bits that are shifted out. -/
theorem represents_fraction (m : Nat) {r d : Nat} (h : r < d) :
    Represents (ExtendedMantissa.ofMantissaAndAccuracy m (accuracyOfFraction r d)) (m + r / d) := by
  have d_pos : (0 : ℚ) < d := by exact_mod_cast Nat.zero_lt_of_lt h
  rw [accuracyOfFraction]
  split
  · rename_i nothing
    rw [nothing, Nat.cast_zero, zero_div, add_zero]
    exact .exact m
  · rename_i something
    have positive : (0 : ℚ) < r / d :=
      div_pos (by exact_mod_cast Nat.pos_of_ne_zero something) d_pos
    have below_one : (r : ℚ) / d < 1 := (div_lt_one d_pos).2 (by exact_mod_cast h)
    rcases lt_trichotomy (2 * r) d with less | half | more
    · have cast : (2 : ℚ) * r < d := by exact_mod_cast less
      have below : (r : ℚ) / d < 1 / 2 := by
        rw [div_lt_div_iff₀ d_pos two_pos]
        linarith
      rw [compare_lt_iff_lt.2 less]
      exact .less (by linarith) (by linarith)
    · have cast : (2 : ℚ) * r = d := by exact_mod_cast half
      have same : (r : ℚ) / d = 1 / 2 := by
        rw [div_eq_div_iff d_pos.ne' two_ne_zero]
        linarith
      rw [compare_eq_iff_eq.2 half, same]
      exact .half m
    · have cast : (d : ℚ) < 2 * r := by exact_mod_cast more
      have above : 1 / 2 < (r : ℚ) / d := by
        rw [div_lt_div_iff₀ two_pos d_pos]
        linarith
      rw [compare_gt_iff_gt.2 more]
      exact .more (by linarith) (by linarith)

/-- Bits are put behind a number until the quotient has enough to be rounded. -/
theorem divCore_eq {m n : Nat} (m_pos : 0 < m) (n_pos : 0 < n) (e f : Int) :
    ∃ k : Nat, divCore Format.binary64 m e n f =
        (m * 2 ^ k / n, e - f - k, accuracyOfFraction (m * 2 ^ k % n) n) ∧
      e - f - k ≤ lastBit (m * 2 ^ k / n) (e - f - k) := by
  have target_eq : Format.binary64.targetExponent (totalExponent m e - totalExponent n f) =
      max (m.log2 + e - (n.log2 + f) - 53) (-1074) := by
    have bits : (Format.binary64.mantissaBits : Int) = 53 := rfl
    have least : Format.binary64.minExponent = -1074 := rfl
    rw [Format.targetExponent, totalExponent, totalExponent, bits, least]
    omega
  rw [divCore, target_eq]
  generalize goal : max ((m.log2 : Int) + e - (n.log2 + f) - 53) (-1074) = target
  generalize amount : (e - f - min (e - f) target).toNat = k
  have exponent : min (e - f) target = e - f - k := by omega
  refine ⟨k, by rw [exponent, Nat.shiftLeft_eq], ?_⟩
  have last := lastBit_eq (m * 2 ^ k / n) (e - f - k)
  by_cases least : e - f - (k : Int) ≤ -1074
  · omega
  · -- the quotient then has the bits of the larger number beyond those of the smaller
    have spare : n.log2 + 1 + 52 ≤ m.log2 + k := by omega
    have enough : 2 ^ 52 ≤ m * 2 ^ k / n := by
      rw [Nat.le_div_iff_mul_le n_pos]
      calc 2 ^ 52 * n ≤ 2 ^ 52 * 2 ^ (n.log2 + 1) := Nat.mul_le_mul_left _ Nat.lt_log2_self.le
        _ = 2 ^ (n.log2 + 1 + 52) := by rw [← Nat.pow_add, Nat.add_comm]
        _ ≤ 2 ^ (m.log2 + k) := Nat.pow_le_pow_right two_pos spare
        _ = 2 ^ m.log2 * 2 ^ k := Nat.pow_add ..
        _ ≤ m * 2 ^ k := Nat.mul_le_mul_right _ (Nat.log2_self_le m_pos.ne')
    have bits : 52 ≤ (m * 2 ^ k / n).log2 := (Nat.le_log2 (by omega)).2 enough
    omega

section

variable {x : Float} {m n m' : Nat} {e f e' : Int} (m_pos : 0 < m) (n_pos : 0 < n)
  (fits : e' ≤ 971)

include m_pos n_pos fits

/-- A product is the nearest double, if there are bits enough. -/
theorem reading_mul (enough : e + f ≤ lastBit (m * n) (e + f))
    (made : x.toModel = Float.Model.pack
      (UnpackedFloat.mul Format.binary64 (signed .positive m e) (signed .positive n f)))
    (near : NearestDouble (m * 2 ^ e * (n * 2 ^ f)) m' e') :
    Reading.ofFloat x = .finite ⟨false, m', e'⟩ := by
  have exact_value : (m : ℚ) * 2 ^ e * (n * 2 ^ f) = (m * n : Nat) * 2 ^ (e + f) := by
    rw [zpow_add₀ two_ne_zero]
    push_cast
    ring
  rw [mul_signed, if_neg (Nat.mul_pos m_pos n_pos).ne'] at made
  rw [exact_value] at near
  exact reading_of_rounded (represents_exact (m * n)) enough made near fits

/-- A quotient is the nearest double. -/
theorem reading_div
    (made : x.toModel = Float.Model.pack
      (UnpackedFloat.div Format.binary64 (signed .positive m e) (signed .positive n f)))
    (near : NearestDouble (m * 2 ^ e / (n * 2 ^ f)) m' e') :
    Reading.ofFloat x = .finite ⟨false, m', e'⟩ := by
  obtain ⟨k, core, enough⟩ := divCore_eq m_pos n_pos e f
  have exact_value : (m : ℚ) * 2 ^ e / (n * 2 ^ f) =
      (((m * 2 ^ k / n : Nat) : ℚ) + (m * 2 ^ k % n : Nat) / n) * 2 ^ (e - f - k) := by
    rw [← div_eq_whole_add _ n_pos, zpow_sub₀ two_ne_zero, zpow_sub₀ two_ne_zero, zpow_natCast]
    push_cast
    field_simp
  rw [signed_of_pos _ m_pos, signed_of_pos _ n_pos, UnpackedFloat.div, core] at made
  rw [exact_value] at near
  exact reading_of_rounded (represents_fraction _ (Nat.mod_lt _ n_pos)) enough made near fits

end

/-! ## Powers of ten and whole numbers that are doubles -/

/-- Whether a double is read as a whole number. -/
def Reading.isWhole (n : Nat) : Reading → Bool
  | .finite b => !b.negative && b.num == n * b.den
  | _ => false

theorem number?_of_isWhole {x : Float} {n : Nat} (h : (Reading.ofFloat x).isWhole n = true) :
    number? x = some (n : ℚ) := by
  rw [number?]
  generalize Reading.ofFloat x = r at h
  cases r with
  | notANumber => cases h
  | infinite negative => cases h
  | finite b =>
    simp only [Reading.isWhole, Bool.and_eq_true, Bool.not_eq_true', beq_iff_eq] at h
    obtain ⟨positive, whole⟩ := h
    have den_pos : (b.den : ℚ) ≠ 0 := by exact_mod_cast b.den_pos.ne'
    dsimp only
    rw [Binary.value_eq, positive, if_neg Bool.false_ne_true, one_mul, whole, Nat.cast_mul,
      mul_div_cancel_right₀ _ den_pos]

/-- The powers of ten that are multiplied with are doubles. -/
theorem number?_power (k : Fin Float.exactlyRepresentablePowersOfTen.size) :
    number? Float.exactlyRepresentablePowersOfTen[k] = some ((10 ^ (k : Nat) : Nat) : ℚ) := by
  have whole : ∀ k : Fin Float.exactlyRepresentablePowersOfTen.size,
      (Reading.ofFloat Float.exactlyRepresentablePowersOfTen[k]).isWhole (10 ^ (k : Nat)) =
        true := by
    decide
  exact number?_of_isWhole (whole k)

/-- Whole numbers of 53 bits are doubles. -/
theorem number?_toFloat {n : Nat} (pos : 0 < n) (small : n < 2 ^ 53) :
    number? n.toUInt64.toFloat = some (n : ℚ) := by
  have whole : n.toUInt64.toNat = n := by
    rw [Nat.toUInt64, UInt64.toNat_ofNat']
    exact Nat.mod_eq_of_lt (by omega)
  obtain ⟨k, rounded, enough, -⟩ := round_eq pos 0 .positive
  obtain ⟨m, e, made, near⟩ :=
    exists_roundWithAccuracy (represents_exact (n * 2 ^ k)) enough .positive
  have packed : n.toUInt64.toFloat.toModel = Float.Model.pack (signed .positive m e) := by
    rw [← made, ← rounded]
    show Float.Model.pack
      (UnpackedFloat.normalize Format.binary64 (n.toUInt64.toNat : Int) 0 .positive) = _
    rw [whole, UnpackedFloat.normalize, compare_gt_iff_gt.2 (by omega)]
    rfl
  have exact_value := mul_two_zpow_sub n k 0
  rw [zero_sub] at exact_value near
  obtain ⟨normal, l, last, rounds⟩ := near
  rw [exact_value] at last rounds
  have small' : (n : ℚ) * 2 ^ (0 : Int) < 2 ^ (53 : Int) := by
    rw [zpow_zero, mul_one]
    exact_mod_cast small
  have below_point : l ≤ 0 := by
    rcases last.filled with filled | least
    · have powers := (zpow_lt_zpow_iff_right₀ one_lt_two).1 (filled.trans_lt small')
      omega
    · omega
  have value := rounds.eq_of_multiple below_point
  have fits : e ≤ 971 := by
    rcases normal.filled with filled | least
    · have leading : (2 : ℚ) ^ (52 : Int) ≤ m := by exact_mod_cast filled
      have reach : (2 : ℚ) ^ (52 + e) < 2 ^ (53 : Int) := by
        rw [zpow_add₀ two_ne_zero]
        calc (2 : ℚ) ^ (52 : Int) * 2 ^ e ≤ m * 2 ^ e :=
              mul_le_mul_of_nonneg_right leading (zpow_nonneg zero_le_two e)
          _ = n * 2 ^ (0 : Int) := value
          _ < 2 ^ (53 : Int) := small'
      have powers := (zpow_lt_zpow_iff_right₀ one_lt_two).1 reach
      omega
    · omega
  rw [number?, reading_of_pack normal fits packed]
  dsimp only
  rw [isNegative, Binary.value_positive, value, zpow_zero, mul_one]

/-- A double that denotes a positive number, taken apart. -/
theorem exists_positive {x : Float} {q : ℚ} (h : number? x = some q) (pos : 0 < q) :
    ∃ m e, x.toModel.unpack = signed .positive m e ∧ Normal m e ∧ 0 < m ∧ q = m * 2 ^ e := by
  obtain ⟨s, m, e, unpacked, normal, rfl⟩ := exists_signed h
  rw [signedValue_eq] at pos ⊢
  have magnitude : (0 : ℚ) ≤ m * 2 ^ e := by positivity
  cases s with
  | negative =>
    rw [isNegative, if_pos rfl] at pos
    linarith
  | positive =>
    rw [isNegative, if_neg Bool.false_ne_true, one_mul] at pos ⊢
    refine ⟨m, e, unpacked, normal, Nat.pos_of_ne_zero ?_, rfl⟩
    rintro rfl
    rw [Nat.cast_zero, zero_mul] at pos
    exact lt_irrefl _ pos

theorem toModel_div (x y : Float) :
    (x / y).toModel =
      Float.Model.pack (UnpackedFloat.div Format.binary64 x.toModel.unpack y.toModel.unpack) :=
  rfl

/-! ## Decimal numbers -/

theorem digitCount_le_log2 (n : Nat) : digitCount n ≤ n.log2 + 1 := by
  refine (digitCount_le_iff (Nat.succ_pos _)).2 (Nat.lt_log2_self.trans_le ?_)
  exact Nat.pow_le_pow_left (by decide) _

/-- The bounds on powers of ten that are read are far outside the range of doubles. -/
theorem digitCount_bounds {n : Nat} (pos : 0 < n) {k : Int}
    (low : (2 : ℚ) ^ (-1075 : Int) ≤ n * 10 ^ k) (high : (n : ℚ) * 10 ^ k < 2 ^ (1025 : Int)) :
    -400 ≤ (digitCount n : Int) + k ∧ (digitCount n : Int) + k ≤ 400 := by
  have ten : (10 : ℚ) ≠ 0 := by norm_num
  have more : (1 : ℚ) < 10 := by norm_num
  have count := digitCount_pos n
  have apart : (2 : ℚ) ^ (1200 : Int) ≤ 10 ^ (400 : Int) :=
    calc (2 : ℚ) ^ (1200 : Int) = (2 ^ (3 : Int)) ^ (400 : Int) := zpow_mul 2 3 400
      _ ≤ 10 ^ (400 : Int) := zpow_le_zpow_left₀ (by omega) (by norm_num) (by norm_num)
  constructor
  · by_contra small
    have next : (n : ℚ) < 10 ^ (digitCount n : Int) := by
      have below := lt_ten_pow_digitCount n
      rw [zpow_natCast]
      exact_mod_cast below
    have powers : (n : ℚ) * 10 ^ k < 10 ^ (-400 : Int) :=
      calc (n : ℚ) * 10 ^ k < 10 ^ (digitCount n : Int) * 10 ^ k :=
            mul_lt_mul_of_pos_right next (by positivity)
        _ = 10 ^ ((digitCount n : Int) + k) := (zpow_add₀ ten _ _).symm
        _ ≤ 10 ^ (-400 : Int) := zpow_le_zpow_right₀ more.le (by omega)
    have beyond : (10 : ℚ) ^ (-400 : Int) ≤ 2 ^ (-1075 : Int) :=
      calc (10 : ℚ) ^ (-400 : Int) = (10 ^ (400 : Int))⁻¹ := zpow_neg 10 400
        _ ≤ (2 ^ (1200 : Int))⁻¹ := inv_anti₀ (zpow_pos two_pos 1200) apart
        _ = 2 ^ (-1200 : Int) := (zpow_neg 2 1200).symm
        _ ≤ 2 ^ (-1075 : Int) := zpow_le_zpow_right₀ one_le_two (by omega)
    exact absurd (powers.trans_le beyond) (not_lt.2 low)
  · by_contra large
    have first : (10 : ℚ) ^ ((digitCount n : Int) - 1) ≤ n := by
      have reach := ten_pow_le_of_pos pos
      have exponent : (digitCount n : Int) - 1 = (digitCount n - 1 : Nat) := by omega
      rw [exponent, zpow_natCast]
      exact_mod_cast reach
    have powers : (10 : ℚ) ^ (400 : Int) ≤ n * 10 ^ k :=
      calc (10 : ℚ) ^ (400 : Int) ≤ 10 ^ ((digitCount n : Int) - 1 + k) :=
            zpow_le_zpow_right₀ more.le (by omega)
        _ = 10 ^ ((digitCount n : Int) - 1) * 10 ^ k := zpow_add₀ ten _ _
        _ ≤ n * 10 ^ k := mul_le_mul_of_nonneg_right first (by positivity)
    have beyond : (2 : ℚ) ^ (1025 : Int) ≤ 2 ^ (1200 : Int) :=
      zpow_le_zpow_right₀ one_le_two (by omega)
    exact absurd (beyond.trans (apart.trans powers)) (not_le.2 high)

section

variable {n m : Nat} {k e : Int} (n_pos : 0 < n) (m_pos : 0 < m) (fits : e ≤ 971)
  (near : NearestDouble (n * 10 ^ k) m e)

include n_pos near fits

/-- Small whole numbers and small powers of ten are multiplied or divided as doubles. -/
theorem reading_ofScientific_small (small : n < 2 ^ 53 ∧ k.natAbs ≤ 22) :
    Reading.ofFloat (Float.ofScientific n (k < 0) k.natAbs) = .finite ⟨false, m, e⟩ := by
  have whole_pos : (0 : ℚ) < n := by exact_mod_cast n_pos
  obtain ⟨a, c, left, normal, a_pos, whole⟩ :=
    exists_positive (number?_toFloat n_pos small.1) whole_pos
  have index : k.natAbs < Float.exactlyRepresentablePowersOfTen.size :=
    Nat.lt_of_le_of_lt small.2 (by decide)
  have power_pos : (0 : ℚ) < (10 ^ k.natAbs : Nat) := by positivity
  obtain ⟨b, d, right, normal', b_pos, power⟩ :=
    exists_positive (number?_power ⟨k.natAbs, index⟩) power_pos
  dsimp only [Fin.getElem_fin] at right power
  rw [Float.ofScientific, dif_pos small]
  dsimp only
  by_cases negative : k < 0
  · have scaled : (n : ℚ) * 10 ^ k = a * 2 ^ c / (b * 2 ^ d) := by
      have exponent : k = -(k.natAbs : Int) := by omega
      rw [← whole, ← power, div_eq_mul_inv, Nat.cast_pow, Nat.cast_ofNat, ← zpow_natCast,
        ← zpow_neg, ← exponent]
    rw [scaled] at near
    rw [if_pos (decide_eq_true negative)]
    refine reading_div a_pos b_pos fits ?_ near
    rw [toModel_div, left, right]
  · have scaled : (n : ℚ) * 10 ^ k = a * 2 ^ c * (b * 2 ^ d) := by
      have exponent : k = (k.natAbs : Int) := by omega
      rw [← whole, ← power, Nat.cast_pow, Nat.cast_ofNat, ← zpow_natCast, ← exponent]
    rw [scaled] at near
    rw [if_neg (by simpa using negative)]
    refine reading_mul a_pos b_pos fits
      (normal.add_le_lastBit normal' (Nat.mul_pos a_pos b_pos)) ?_ near
    rw [toModel_mul, left, right]

/-- Larger ones are multiplied or divided as whole numbers. -/
theorem reading_ofScientific_large (low : -(2048 + n.log2 : Int) ≤ k) (high : k ≤ 2048) :
    Reading.ofFloat (.ofModel (Float.Model.ofScientific n k)) = .finite ⟨false, m, e⟩ := by
  have range : (2 : Int) ^ Format.binary64.exponentBits = 2048 := rfl
  have ten_pos (j : Nat) : 0 < 10 ^ j := Nat.pow_pos (by decide)
  have made : (Float.ofModel (Float.Model.ofScientific n k)).toModel =
      Float.Model.pack (UnpackedFloat.ofScientific Format.binary64 n k) := rfl
  rw [UnpackedFloat.ofScientific, dif_neg n_pos.ne', if_neg (by omega), if_neg (by omega)] at made
  by_cases positive : 0 ≤ k
  · have filled : 0 < n <<< 53 := by
      rw [Nat.shiftLeft_eq]
      exact Nat.mul_pos n_pos (Nat.two_pow_pos 53)
    have exact_value : ((n <<< 53 : Nat) : ℚ) * 2 ^ (-53 : Int) *
        ((10 ^ k.toNat : Nat) * 2 ^ (0 : Int)) = n * 10 ^ k := by
      have shifted := mul_two_zpow_sub n 53 0
      have exponent : k = (k.toNat : Int) := by omega
      rw [zero_sub, zpow_zero, mul_one] at shifted
      rw [Nat.shiftLeft_eq, zpow_zero, mul_one, Nat.cast_pow, Nat.cast_ofNat, ← zpow_natCast,
        ← exponent]
      exact congrArg (· * (10 : ℚ) ^ k) shifted
    have enough : (-53 : Int) + 0 ≤ lastBit (n <<< 53 * 10 ^ k.toNat) (-53 + 0) := by
      have last := lastBit_eq (n <<< 53 * 10 ^ k.toNat) (-53 + 0)
      have reach : 2 ^ 53 ≤ n <<< 53 * 10 ^ k.toNat := by
        rw [Nat.shiftLeft_eq]
        calc 2 ^ 53 = 1 * 2 ^ 53 * 1 := by norm_num
          _ ≤ n * 2 ^ 53 * 10 ^ k.toNat :=
            Nat.mul_le_mul (Nat.mul_le_mul_right _ n_pos) (ten_pos k.toNat)
      have bits : 53 ≤ (n <<< 53 * 10 ^ k.toNat).log2 :=
        (Nat.le_log2 (Nat.mul_pos filled (ten_pos k.toNat)).ne').2 reach
      omega
    rw [if_pos positive] at made
    rw [← exact_value] at near
    refine reading_mul filled (ten_pos k.toNat) fits enough ?_ near
    rw [signed_of_pos _ filled, signed_of_pos _ (ten_pos k.toNat)]
    exact made
  · have exact_value : (n : ℚ) * 2 ^ (0 : Int) / ((10 ^ (-k).toNat : Nat) * 2 ^ (0 : Int)) =
        n * 10 ^ k := by
      have exponent : k = -((-k).toNat : Int) := by omega
      rw [zpow_zero, mul_one, mul_one, div_eq_mul_inv, Nat.cast_pow, Nat.cast_ofNat,
        ← zpow_natCast, ← zpow_neg, ← exponent]
    rw [if_neg positive] at made
    rw [← exact_value] at near
    refine reading_div n_pos (ten_pos (-k).toNat) fits ?_ near
    rw [signed_of_pos _ n_pos, signed_of_pos _ (ten_pos (-k).toNat)]
    exact made

include m_pos in
/-- A decimal number is read as the nearest double. -/
theorem reading_nearest : Reading.ofFloat (nearest n k) = .finite ⟨false, m, e⟩ := by
  obtain ⟨not_small, not_large⟩ :=
    digitCount_bounds n_pos (near.not_tiny m_pos) (near.not_huge fits)
  have count := digitCount_pos n
  have bits := digitCount_le_log2 n
  rw [nearest, if_neg n_pos.ne']
  dsimp only
  rw [if_neg (by omega), if_neg (by omega)]
  by_cases small : n < 2 ^ 53 ∧ k.natAbs ≤ 22
  · exact reading_ofScientific_small n_pos fits near small
  · have exponent : (if decide (k < 0) = true then Int.negOfNat k.natAbs else Int.ofNat k.natAbs) =
        k := by
      split
      · rename_i negative
        have below := of_decide_eq_true negative
        rw [Int.negOfNat_eq, Int.ofNat_eq_natCast, Int.ofNat_natAbs_of_nonpos below.le, neg_neg]
      · rename_i positive
        rw [decide_eq_true_eq, not_lt] at positive
        exact Int.natAbs_of_nonneg positive
    rw [Float.ofScientific, dif_neg small]
    dsimp only
    rw [exponent]
    exact reading_ofScientific_large n_pos fits near (by omega) (by omega)

end

end ErrorBudget.Decimal
