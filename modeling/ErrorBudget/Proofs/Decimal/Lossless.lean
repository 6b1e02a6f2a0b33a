/-
  ErrorBudget.Proofs.Decimal.Lossless

  Doubles in their shortest digits, and the doubles that such texts are read as. The text
  denotes the number that the digits stand for; this number is in the interval around the
  double, and reading takes what it denotes to the nearest double, so nothing is lost.
-/
import ErrorBudget.Proofs.Decimal.Shortest

namespace ErrorBudget.Decimal

/-! ## Reading a literal -/

theorem read?_negative (cs : List Char) :
    read? ('-' :: cs) = (readUnsigned? cs).map fun x => -x :=
  rfl

theorem read?_of_isDigit {c : Char} (h : c.isDigit = true) (cs : List Char) :
    read? (c :: cs) = readUnsigned? (c :: cs) := by
  obtain ⟨no_minus, no_plus⟩ := no_sign_of_isDigit h
  rw [read?]
  · rintro ds same
    exact no_minus (List.cons.inj same).1
  · rintro ds same
    exact no_plus (List.cons.inj same).1

theorem normal_of_reading {x : Float} {b : Binary} (h : Reading.ofFloat x = .finite b) :
    Normal b.significand b.exponent := by
  have agrees := agrees_unpack x
  rw [h] at agrees
  generalize x.toModel.unpack = u at agrees
  cases agrees with
  | zero s => exact ⟨Nat.two_pow_pos 53, le_refl _, .inr rfl⟩
  | finite s pos normal => exact normal

/-- An unsigned literal of a number around a double is read as this double. -/
theorem exists_readUnsigned? {b : Binary} {cs : List Char} {q : ℚ} (pos : 0 < q)
    (denotes : denotedUnsigned? cs = some q) (captured : b.Captures q)
    (not_zero : b.significand ≠ 0) (normal : Normal b.significand b.exponent)
    (fits : b.exponent ≤ 971) :
    ∃ x, readUnsigned? cs = some x ∧
      Reading.ofFloat x = .finite ⟨false, b.significand, b.exponent⟩ := by
  obtain ⟨⟨n, k⟩, parts, rfl⟩ := Option.map_eq_some_iff.1 denotes
  have n_pos : 0 < n := by
    refine Nat.pos_of_ne_zero ?_
    rintro rfl
    rw [Nat.cast_zero, zero_mul] at pos
    exact lt_irrefl _ pos
  refine ⟨nearest n k, ?_, ?_⟩
  · rw [readUnsigned?_eq_parts, parts, Option.map_some]
  · exact reading_nearest n_pos (Nat.pos_of_ne_zero not_zero) fits (captured.nearest normal)

/-! ## Doubles -/

/-- Every double is written as a literal; in its shortest digits, a number other than zero is
    written as what they stand for, plainly or with an exponent as the first of them calls
    for, and is read again from this text. -/
theorem shortest_lossless (v : Float) :
    IsLiteral (general v none).toList ∧
      ∀ b, Reading.ofFloat v = .finite b → b.significand ≠ 0 →
        b.IsShortest b.shortest ∧
        denoted? (general v none).toList =
          some ((if b.negative then -1 else 1) * b.shortest.value) ∧
        (IsScientific (general v none).toList ↔
          b.shortest.exponent < -4 ∨ 6 ≤ b.shortest.exponent) ∧
        (IsPlain (general v none).toList ↔
          ¬ (b.shortest.exponent < -4 ∨ 6 ≤ b.shortest.exponent)) ∧
        read? (general v none).toList = some v := by
  refine ⟨isLiteral_general v none, fun b finite not_zero => ?_⟩
  have normal := normal_of_reading finite
  obtain ⟨fits, -⟩ := bits_of_reading finite
  have shortest := Binary.isShortest_shortest not_zero normal.lt
  have proper := shortest.significant.toProper
  have value_pos : 0 < b.shortest.value :=
    (zpow_pos (by norm_num) _).trans_le (Scientific.value_bounds shortest.significant).1
  have denotes := Scientific.denotedUnsigned?_general proper shortestLimit
  obtain ⟨x, read, reading⟩ :=
    exists_readUnsigned? value_pos denotes shortest.captured not_zero normal fits
  have text : (general v none).toList =
      if b.negative then '-' :: b.shortest.general shortestLimit
      else b.shortest.general shortestLimit := by
    rw [general, finite]
    dsimp only
    rw [String.toList_ofList, Binary.general, if_neg not_zero]
  obtain ⟨scientific, plain⟩ :=
    Scientific.form_general shortest.significant shortestLimit b.negative
  rw [← text] at scientific plain
  obtain ⟨c, rest, body, digit⟩ := (Scientific.isUnsigned_general proper shortestLimit).exists_digit
  obtain ⟨negative, significand, exponent⟩ := b
  refine ⟨shortest, ?_, scientific, plain, ?_⟩
  · rw [text]
    cases negative with
    | true => rw [if_pos rfl, if_pos rfl, denoted?_negative, denotes, Option.map_some, neg_one_mul]
    | false =>
      rw [if_neg Bool.false_ne_true, if_neg Bool.false_ne_true, body, denoted?_of_isDigit digit,
        ← body, denotes, one_mul]
  · rw [text]
    cases negative with
    | true =>
      rw [if_pos rfl, read?_negative, read, Option.map_some,
        eq_of_reading (reading_neg reading) finite]
    | false =>
      rw [if_neg Bool.false_ne_true, body, read?_of_isDigit digit, ← body, read,
        eq_of_reading reading finite]

/-- The double next to `10 ^ 23` is written as this power of ten, which it is not equal to, and
    is read again from this text. -/
theorem shortest_lossless_next :
    general 1e23 none = "1e+23" ∧ IsScientific "1e+23".toList ∧
      read? "1e+23".toList = some 1e23 := by
  have finite : Reading.ofFloat 1e23 = .finite ⟨false, 5960464477539062, 24⟩ := by decide
  have text : general 1e23 none = "1e+23" := by decide
  have power : (Binary.shortest ⟨false, 5960464477539062, 24⟩).exponent = 23 := by decide
  obtain ⟨-, lossless⟩ := shortest_lossless 1e23
  obtain ⟨-, -, scientific, -, read⟩ := lossless _ finite (by decide)
  rw [text] at scientific read
  rw [power] at scientific
  exact ⟨text, scientific.2 (.inr (by decide)), read⟩

end ErrorBudget.Decimal
