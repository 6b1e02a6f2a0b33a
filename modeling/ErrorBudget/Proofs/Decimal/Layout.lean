/-
  ErrorBudget.Proofs.Decimal.Layout

  The two forms that numbers are written in: plain, or scientific with an exponent. In both,
  a fraction does not end in a zero, and no point stands without a fraction. Significant
  digits, of which neither the first nor the last is a zero, are laid out in one of these
  forms, and the power of the first digit tells in which.
-/
import ErrorBudget.Proofs.Decimal.Significant

namespace ErrorBudget.Decimal

/-! ## Forms -/

/-- Digits without superfluous zeros: a fraction ends in another digit. -/
structure IsTrimmed (cs : List Char) : Prop where
  mantissa : IsMantissa cs
  last : '.' ∈ cs → cs.getLast? ≠ some '0'

/-- A trimmed mantissa with an exponent of a sign and two digits or more. -/
inductive IsScaled : List Char → Prop where
  | exponent {m p : List Char} {sign : Char} (h : IsTrimmed m) (hs : sign = '+' ∨ sign = '-')
      (hp : IsDigits p) (two : 2 ≤ p.length) : IsScaled (m ++ 'e' :: sign :: p)

/-- With a minus sign in front, or without. -/
inductive Signed (form : List Char → Prop) : List Char → Prop where
  | positive {cs : List Char} (h : form cs) : Signed form cs
  | negative {cs : List Char} (h : form cs) : Signed form ('-' :: cs)

/-- The plain form of a number. -/
def IsPlain : List Char → Prop :=
  Signed IsTrimmed

/-- The scientific form of a number. -/
def IsScientific : List Char → Prop :=
  Signed IsScaled

theorem IsMantissa.no_exponent {cs : List Char} (h : IsMantissa cs) : 'e' ∉ cs := by
  have none_in {ds : List Char} (digits : IsDigits ds) : 'e' ∉ ds := fun mem =>
    absurd (digits.isDigit 'e' mem) (by decide)
  cases h with
  | whole digits => exact none_in digits
  | fraction digits digits' =>
    rw [List.mem_append, List.mem_cons]
    rintro (mem | same | mem)
    · exact none_in digits mem
    · exact absurd same (by decide)
    · exact none_in digits' mem

theorem IsPlain.no_exponent {cs : List Char} (h : IsPlain cs) : 'e' ∉ cs := by
  cases h with
  | positive trimmed => exact trimmed.mantissa.no_exponent
  | negative trimmed =>
    rw [List.mem_cons]
    rintro (same | mem)
    · exact absurd same (by decide)
    · exact trimmed.mantissa.no_exponent mem

theorem IsScaled.exponent_mem {cs : List Char} (h : IsScaled cs) : 'e' ∈ cs := by
  obtain ⟨-, -, -, -⟩ := h
  exact List.mem_append_right _ List.mem_cons_self

theorem IsScientific.exponent_mem {cs : List Char} (h : IsScientific cs) : 'e' ∈ cs := by
  cases h with
  | positive scaled => exact scaled.exponent_mem
  | negative scaled => exact List.mem_cons_of_mem _ scaled.exponent_mem

/-! ## Significant digits -/

/-- A positive number does not start with a zero. -/
theorem head?_digits {n : Nat} (h : 0 < n) : (digits n).head? ≠ some '0' := by
  induction n using Nat.strongRecOn with
  | ind n ih =>
    rw [digits, Nat.toDigits_eq_if (by decide)]
    split
    · rename_i small
      have no_zero : ∀ d : Fin 10, 0 < d.val → [Nat.digitChar d].head? ≠ some '0' := by decide
      exact no_zero ⟨n, small⟩ h
    · rename_i large
      have fewer : 0 < n / 10 := Nat.div_pos (Nat.le_of_not_lt large) (by decide)
      rw [List.head?_append_of_ne_nil _ Nat.toDigits_ne_nil]
      exact ih (n / 10) (Nat.div_lt_self h (by decide)) fewer

theorem ofDigits_concat (ds : List Char) (c : Char) :
    ofDigits (ds ++ [c]) = 10 * ofDigits ds + (c.toNat - '0'.toNat) := by
  rw [ofDigits, Nat.ofDigitChars_append, Nat.ofDigitChars_cons, Nat.ofDigitChars_nil, ofDigits]

/-- Digits stand for a number below the power of ten that has one digit more. -/
theorem ofDigits_lt {ds : List Char} (h : ∀ c ∈ ds, c.isDigit = true) :
    ofDigits ds < 10 ^ ds.length := by
  induction ds using List.reverseRecOn with
  | nil => exact Nat.one_pos
  | append_singleton ds c ih =>
    have digit := h c (List.mem_append_right _ (List.mem_singleton_self c))
    have below := ih fun d hd => h d (List.mem_append_left _ hd)
    have at_most : c.toNat - '0'.toNat ≤ 9 := by
      simp only [Char.isDigit, Bool.and_eq_true, decide_eq_true_eq] at digit
      have high : c.toNat ≤ 57 := UInt32.le_iff_toNat_le.1 digit.2
      have zero : '0'.toNat = 48 := rfl
      omega
    rw [ofDigits_concat, List.length_append, List.length_singleton, Nat.pow_succ]
    omega

/-- Digits of which the first is no zero stand for a number that reaches the power of ten of
    this digit. -/
theorem le_ofDigits {d : Char} {ds : List Char} (h : ∀ c ∈ d :: ds, c.isDigit = true)
    (first : d ≠ '0') : 10 ^ ds.length ≤ ofDigits (d :: ds) := by
  have digit := h d List.mem_cons_self
  have other : d.toNat ≠ '0'.toNat := fun same => first (Char.toNat_inj.1 same)
  have at_least : 1 ≤ 10 * 0 + (d.toNat - '0'.toNat) := by
    simp only [Char.isDigit, Bool.and_eq_true, decide_eq_true_eq] at digit
    have low : 48 ≤ d.toNat := UInt32.le_iff_toNat_le.1 digit.1
    have zero : '0'.toNat = 48 := rfl
    omega
  rw [ofDigits, Nat.ofDigitChars_cons, Nat.ofDigitChars_eq_ofDigitChars_zero]
  calc 10 ^ ds.length = 10 ^ ds.length * 1 := (Nat.mul_one _).symm
    _ ≤ 10 ^ ds.length * (10 * 0 + (d.toNat - '0'.toNat)) := Nat.mul_le_mul_left _ at_least
    _ ≤ _ := Nat.le_add_right _ _

namespace Scientific

/-- Digits of which neither the first nor the last is a zero. -/
structure Significant (s : Scientific) : Prop extends s.Proper where
  first : s.digits.head? ≠ some '0'
  last : s.digits.getLast? ≠ some '0'

theorem significant_ofGrid {n : Nat} (h : 0 < n) (count : Nat) (x : Int) :
    (ofGrid n count x).Significant := by
  refine ⟨proper_ofGrid h count x, ?_, ?_⟩
  · rw [ofGrid]
    split
    · show ['1'].head? ≠ some '0'
      decide
    · obtain ⟨k, filled⟩ := exists_trimZeros_append (Decimal.digits n)
      have head := head?_digits h
      rw [filled, List.head?_append_of_ne_nil _ (trimZeros_digits_ne_nil h)] at head
      exact head
  · rw [ofGrid]
    split
    · show ['1'].getLast? ≠ some '0'
      decide
    · obtain ⟨d, last, no_zero, -⟩ := exists_last_trimZeros h
      rw [last]
      exact fun same => no_zero (Option.some.inj same)

/-- The first digit tells between which powers of ten a number lies. -/
theorem value_bounds {s : Scientific} (h : s.Significant) :
    10 ^ s.exponent ≤ s.value ∧ s.value < 10 ^ (s.exponent + 1) := by
  have ten : (10 : ℚ) ≠ 0 := by norm_num
  have power_pos : (0 : ℚ) < 10 ^ (s.exponent - (s.digits.length - 1)) := by positivity
  obtain ⟨d, ds, shown⟩ := List.exists_cons_of_ne_nil h.ne_nil
  have isDigit := h.isDigit
  have first := h.first
  rw [value] at *
  rw [shown] at isDigit first power_pos ⊢
  rw [List.head?_cons] at first
  have low := le_ofDigits isDigit fun same => first (congrArg some same)
  have high := ofDigits_lt isDigit
  constructor
  · calc (10 : ℚ) ^ s.exponent
        = 10 ^ ds.length * 10 ^ (s.exponent - (((d :: ds).length : Int) - 1)) := by
          rw [← zpow_natCast, ← zpow_add₀ ten, List.length_cons]
          congr 1
          omega
      _ ≤ _ := mul_le_mul_of_nonneg_right (by exact_mod_cast low) power_pos.le
  · calc _ < (10 : ℚ) ^ (d :: ds).length * 10 ^ (s.exponent - (((d :: ds).length : Int) - 1)) :=
          mul_lt_mul_of_pos_right (by exact_mod_cast high) power_pos
      _ = 10 ^ (s.exponent + 1) := by
          rw [← zpow_natCast, ← zpow_add₀ ten]
          congr 1
          omega

/-! ## Layouts -/

theorem isTrimmed_plain {s : Scientific} (h : s.Significant) : IsTrimmed s.plain := by
  refine ⟨isMantissa_plain h.toProper, fun pointed => ?_⟩
  obtain ⟨d, last⟩ : ∃ d, s.digits.getLast? = some d :=
    Option.ne_none_iff_exists'.1 (mt List.getLast?_eq_none_iff.1 h.ne_nil)
  have no_zero := h.last
  rw [plain] at pointed ⊢
  -- the digits stand at the end, unless zeros are filled in, and then there is no point
  split
  · rw [List.getLast?_cons_cons, List.getLast?_cons, List.getLast?_append, last]
    simpa [last] using no_zero
  · rename_i at_least_one
    rw [if_neg at_least_one] at pointed
    dsimp only at pointed ⊢
    split
    · rename_i short
      rw [if_pos short] at pointed
      rcases List.mem_append.1 pointed with mem | mem
      · exact absurd (h.isDigit '.' mem) (by decide)
      · exact absurd (List.eq_of_mem_replicate mem) (by decide)
    · rename_i longer
      rw [List.getLast?_append, List.getLast?_cons, List.getLast?_drop, if_neg longer, last]
      simpa [last] using no_zero

theorem isScaled_withExponent {s : Scientific} (h : s.Significant) : IsScaled s.withExponent := by
  obtain ⟨power, two⟩ := isDigits_power s.exponent.natAbs
  have last := h.last
  have isDigit := h.isDigit
  obtain ⟨d, ds, digits⟩ := List.exists_cons_of_ne_nil h.ne_nil
  rw [withExponent]
  refine .exponent ?_ (exponent_sign s.exponent) power two
  rw [digits] at isDigit last ⊢
  -- one digit stands alone, and further ones follow a point
  cases ds with
  | nil =>
    exact ⟨.whole ⟨by simp, isDigit⟩, fun pointed => absurd (isDigit '.' pointed) (by decide)⟩
  | cons e ds =>
    have first : IsDigits [d] :=
      ⟨by simp, List.forall_mem_singleton.2 (isDigit d List.mem_cons_self)⟩
    have others : IsDigits (e :: ds) :=
      ⟨by simp, fun c hc => isDigit c (List.mem_cons_of_mem d hc)⟩
    refine ⟨.fraction first others, fun _ => ?_⟩
    rw [List.getLast?_cons_cons] at last ⊢
    rwa [List.getLast?_cons_cons]

/-- The power of the first digit tells in which form digits are laid out, with their sign. -/
theorem form_general {s : Scientific} (h : s.Significant) (limit : Int) (negative : Bool) :
    let text := if negative then '-' :: s.general limit else s.general limit
    (IsScientific text ↔ s.exponent < -4 ∨ limit ≤ s.exponent) ∧
      (IsPlain text ↔ ¬ (s.exponent < -4 ∨ limit ≤ s.exponent)) := by
  intro text
  have signed {form : List Char → Prop} (unsigned : form (s.general limit)) : Signed form text := by
    cases negative with
    | true => exact .negative unsigned
    | false => exact .positive unsigned
  have scientific (far : s.exponent < -4 ∨ limit ≤ s.exponent) : IsScientific text := by
    refine signed ?_
    rw [general, if_pos (by simpa using far)]
    exact isScaled_withExponent h
  have plain (near : ¬ (s.exponent < -4 ∨ limit ≤ s.exponent)) : IsPlain text := by
    refine signed ?_
    rw [general, if_neg (by simpa using near)]
    exact isTrimmed_plain h
  -- no text has both forms, as only one has an exponent
  have apart (hs : IsScientific text) (hp : IsPlain text) : False :=
    hp.no_exponent hs.exponent_mem
  refine ⟨⟨fun hs => ?_, scientific⟩, ⟨fun hp far => apart (scientific far) hp, plain⟩⟩
  by_contra near
  exact apart hs (plain near)

end Scientific

end ErrorBudget.Decimal
