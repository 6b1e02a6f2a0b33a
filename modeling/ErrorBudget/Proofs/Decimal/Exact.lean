/-
  ErrorBudget.Proofs.Decimal.Exact

  The number that a literal denotes. Reading a literal as a double takes it apart into a
  whole number and a power of ten and rounds afterwards; without rounding, these denote the
  number exactly. Whichever layout significant digits are written in, plain or with an
  exponent, the literal denotes what the digits stand for.
-/
import ErrorBudget.Proofs.Decimal.Literal

namespace ErrorBudget.Decimal

/-! ## Reading without rounding -/

/-- An unsigned number as a whole number and the power of ten that it is scaled by. -/
def parts? (cs : List Char) : Option (Nat × Int) :=
  let (whole, rest) := spanDigits cs
  let (fraction, rest) := match rest with
    | '.' :: tail => spanDigits tail
    | _ => ([], rest)
  if whole.isEmpty && fraction.isEmpty then none
  else
    (readExponent? rest).map fun e =>
      (ofDigits (whole ++ fraction), e - fraction.length)

/-- The double that an unsigned number is read as is the nearest to its parts. -/
theorem readUnsigned?_eq_parts (cs : List Char) :
    readUnsigned? cs = (parts? cs).map fun p => nearest p.1 p.2 := by
  symm
  simp only [parts?, apply_ite (Option.map _), Option.map_none, Option.map_map, Function.comp_def]
  rfl

/-- The number that an unsigned literal denotes. -/
def denotedUnsigned? (cs : List Char) : Option ℚ :=
  (parts? cs).map fun p => p.1 * 10 ^ p.2

/-- The number that a literal denotes. -/
def denoted? : List Char → Option ℚ
  | '-' :: cs => (denotedUnsigned? cs).map fun q => -q
  | '+' :: cs => denotedUnsigned? cs
  | cs => denotedUnsigned? cs

theorem denoted?_negative (cs : List Char) :
    denoted? ('-' :: cs) = (denotedUnsigned? cs).map fun q => -q :=
  rfl

/-- A digit is no sign. -/
theorem no_sign_of_isDigit {c : Char} (h : c.isDigit = true) : c ≠ '-' ∧ c ≠ '+' := by
  constructor
  · rintro rfl
    cases h
  · rintro rfl
    cases h

theorem denoted?_of_isDigit {c : Char} (h : c.isDigit = true) (cs : List Char) :
    denoted? (c :: cs) = denotedUnsigned? (c :: cs) := by
  obtain ⟨no_minus, no_plus⟩ := no_sign_of_isDigit h
  rw [denoted?]
  · rintro ds same
    exact no_minus (List.cons.inj same).1
  · rintro ds same
    exact no_plus (List.cons.inj same).1

/-! ## Parts -/

theorem parts?_whole {ds rest : List Char} (h : IsDigits ds) (hr : Ends rest) :
    parts? (ds ++ rest) = (readExponent? rest).map fun e => (ofDigits ds, e) := by
  have some_digit : ds.isEmpty = false := List.isEmpty_eq_false_iff.2 h.ne_nil
  rw [parts?, spanDigits_append h.isDigit hr.no_digit]
  dsimp only
  split
  · -- a point after the digits would have to be the one of a fraction
    exact absurd rfl hr.no_point
  · simp only [some_digit, Bool.false_and, Bool.false_eq_true, if_false, List.append_nil,
      List.length_nil, Int.ofNat_zero, Int.sub_zero]

theorem parts?_fraction {ds fs rest : List Char} (h : IsDigits ds) (h' : IsDigits fs)
    (hr : NoDigitHead rest) :
    parts? (ds ++ '.' :: (fs ++ rest)) =
      (readExponent? rest).map fun e : Int => (ofDigits (ds ++ fs), e - fs.length) := by
  have some_digit : ds.isEmpty = false := List.isEmpty_eq_false_iff.2 h.ne_nil
  have point : NoDigitHead ('.' :: (fs ++ rest)) := by simp [NoDigitHead]
  rw [parts?, spanDigits_append h.isDigit point]
  simp only [spanDigits_append h'.isDigit hr, some_digit, Bool.false_and, Bool.false_eq_true,
    if_false]

theorem readExponent?_negative {ds : List Char} (h : IsDigits ds) :
    readExponent? ('e' :: '-' :: ds) = some (-(ofDigits ds : Int)) := by
  have all_digits := List.all_eq_true.2 h.isDigit
  simp [readExponent?, h.ne_nil, all_digits]

theorem readExponent?_positive {ds : List Char} (h : IsDigits ds) :
    readExponent? ('e' :: '+' :: ds) = some (ofDigits ds : Int) := by
  have all_digits := List.all_eq_true.2 h.isDigit
  simp [readExponent?, h.ne_nil, all_digits]

theorem ends_nil : Ends [] :=
  ⟨by simp [NoDigitHead], by simp⟩

theorem ends_exponent (cs : List Char) : Ends ('e' :: cs) :=
  ⟨by simp [NoDigitHead], by simp⟩

/-! ## Zeros -/

theorem ofDigits_append_zeros (ds : List Char) (n : Nat) :
    ofDigits (ds ++ List.replicate n '0') = ofDigits ds * 10 ^ n := by
  rw [ofDigits, ofDigits, Nat.ofDigitChars_append, Nat.ofDigitChars_replicate_zero, Nat.mul_comm]

theorem ofDigits_zeros_append (n : Nat) (ds : List Char) :
    ofDigits (List.replicate n '0' ++ ds) = ofDigits ds := by
  rw [ofDigits, ofDigits, Nat.ofDigitChars_append, Nat.ofDigitChars_replicate_zero, Nat.mul_zero]

/-- Filling a power up to two digits does not change it. -/
theorem ofDigits_power (n : Nat) :
    ofDigits (if (digits n).length < 2 then '0' :: digits n else digits n) = n := by
  split
  · exact (ofDigits_zeros_append 1 (digits n)).trans (ofDigits_digits n)
  · exact ofDigits_digits n

/-! ## Layouts -/

namespace Scientific

/-- The number that significant digits stand for: the first has the power of the exponent. -/
def value (s : Scientific) : ℚ :=
  ofDigits s.digits * 10 ^ (s.exponent - (s.digits.length - 1))

theorem denotedUnsigned?_plain {s : Scientific} (h : s.Proper) :
    denotedUnsigned? s.plain = some s.value := by
  have digits := h.isDigits
  rw [plain, denotedUnsigned?, value]
  -- below one, within the digits, or past their end: that is where the point stands
  split
  · rename_i below_one
    have zero : IsDigits ['0'] := ⟨by simp, by simp⟩
    have shifted := parts?_fraction zero
      (isDigits_zeros_append digits (-s.exponent - 1).toNat) ends_nil.no_digit
    rw [List.append_nil] at shifted
    have number : ofDigits (['0'] ++ (List.replicate (-s.exponent - 1).toNat '0' ++ s.digits)) =
        ofDigits s.digits :=
      (ofDigits_zeros_append 1 _).trans (ofDigits_zeros_append _ _)
    have power : (0 : Int) - (List.replicate (-s.exponent - 1).toNat '0' ++ s.digits).length =
        s.exponent - (s.digits.length - 1) := by
      rw [List.length_append, List.length_replicate]
      omega
    rw [show '0' :: '.' :: (List.replicate (-s.exponent - 1).toNat '0' ++ s.digits) =
      ['0'] ++ '.' :: (List.replicate (-s.exponent - 1).toNat '0' ++ s.digits) from rfl, shifted,
      number]
    simp only [readExponent?, Option.map_some, power]
  · rename_i at_least_one
    dsimp only
    split
    · rename_i short
      have filled := parts?_whole
        (isDigits_append_zeros digits (s.exponent.toNat + 1 - s.digits.length)) ends_nil
      rw [List.append_nil, ofDigits_append_zeros] at filled
      have power : s.exponent - (s.digits.length - 1) =
          (s.exponent.toNat + 1 - s.digits.length : Nat) := by omega
      rw [filled, power]
      simp [readExponent?]
    · rename_i longer
      have digit_before : IsDigits (s.digits.take (s.exponent.toNat + 1)) :=
        ⟨by simp [h.ne_nil], fun c hc => h.isDigit c (List.mem_of_mem_take hc)⟩
      have digit_after : IsDigits (s.digits.drop (s.exponent.toNat + 1)) := by
        refine ⟨?_, fun c hc => h.isDigit c (List.mem_of_mem_drop hc)⟩
        rw [ne_eq, List.drop_eq_nil_iff]
        omega
      have pointed := parts?_fraction digit_before digit_after ends_nil.no_digit
      rw [List.append_nil, List.take_append_drop] at pointed
      have power : (0 : Int) - (s.digits.drop (s.exponent.toNat + 1)).length =
          s.exponent - (s.digits.length - 1) := by
        rw [List.length_drop]
        omega
      rw [pointed]
      simp only [readExponent?, Option.map_some, power]

theorem denotedUnsigned?_withExponent {s : Scientific} (h : s.Proper) :
    denotedUnsigned? s.withExponent = some s.value := by
  obtain ⟨power_digits, -⟩ := isDigits_power s.exponent.natAbs
  have power := ofDigits_power s.exponent.natAbs
  rw [withExponent, denotedUnsigned?, value]
  generalize (if (Decimal.digits s.exponent.natAbs).length < 2
    then '0' :: Decimal.digits s.exponent.natAbs
    else Decimal.digits s.exponent.natAbs) = ps at power_digits power
  have exponent : readExponent? ('e' :: (if s.exponent < 0 then '-' else '+') :: ps) =
      some s.exponent := by
    split
    · rename_i negative
      rw [readExponent?_negative power_digits, power]
      congr 1
      omega
    · rename_i positive
      rw [readExponent?_positive power_digits, power]
      congr 1
      omega
  obtain ⟨ne_nil, isDigit⟩ := h
  obtain ⟨d, ds, digits⟩ := List.exists_cons_of_ne_nil ne_nil
  rw [digits] at isDigit ⊢
  -- one digit stands alone, and further ones follow a point
  cases ds with
  | nil =>
    rw [parts?_whole ⟨by simp, isDigit⟩ (ends_exponent _), exponent]
    simp
  | cons e ds =>
    have first : IsDigits [d] :=
      ⟨by simp, List.forall_mem_singleton.2 (isDigit d List.mem_cons_self)⟩
    have others : IsDigits (e :: ds) :=
      ⟨by simp, fun c hc => isDigit c (List.mem_cons_of_mem d hc)⟩
    have pointed := parts?_fraction first others
      (ends_exponent ((if s.exponent < 0 then '-' else '+') :: ps)).no_digit
    rw [exponent] at pointed
    show (parts? ([d] ++ '.' :: (e :: ds ++ _))).map _ = _
    rw [pointed]
    simp

/-- In the general layout, digits denote what they stand for. -/
theorem denotedUnsigned?_general {s : Scientific} (h : s.Proper) (limit : Int) :
    denotedUnsigned? (s.general limit) = some s.value := by
  rw [general]
  split
  · exact denotedUnsigned?_withExponent h
  · exact denotedUnsigned?_plain h

end Scientific

end ErrorBudget.Decimal
