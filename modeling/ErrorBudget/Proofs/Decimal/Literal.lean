/-
  ErrorBudget.Proofs.Decimal.Literal

  The number literals of query expressions, and that the general layout writes
  nothing else: every double, with every precision, is written as a literal.
-/
import ErrorBudget.Decimal.Reader
import ErrorBudget.Proofs.Decimal.SecondRounding

namespace ErrorBudget.Decimal

/-! ## Grammar -/

/-- One decimal digit or more. -/
structure IsDigits (cs : List Char) : Prop where
  ne_nil : cs ≠ []
  isDigit : ∀ c ∈ cs, c.isDigit = true

theorem isDigits_iff {cs : List Char} :
    IsDigits cs ↔ cs ≠ [] ∧ ∀ c ∈ cs, c.isDigit = true :=
  ⟨fun h => ⟨h.ne_nil, h.isDigit⟩, fun h => ⟨h.1, h.2⟩⟩

/-- Digits, with a point and more digits or without. -/
inductive IsMantissa : List Char → Prop where
  | whole {ds : List Char} (h : IsDigits ds) : IsMantissa ds
  | fraction {ds fs : List Char} (h : IsDigits ds) (h' : IsDigits fs) :
      IsMantissa (ds ++ '.' :: fs)

/-- A mantissa, with an exponent of a sign and two digits or more, or without. -/
inductive IsUnsigned : List Char → Prop where
  | plain {m : List Char} (h : IsMantissa m) : IsUnsigned m
  | scaled {m p : List Char} {sign : Char} (h : IsMantissa m) (hs : sign = '+' ∨ sign = '-')
      (hp : IsDigits p) (two : 2 ≤ p.length) : IsUnsigned (m ++ 'e' :: sign :: p)

/-- A number literal. -/
inductive IsLiteral : List Char → Prop where
  | positive {cs : List Char} (h : IsUnsigned cs) : IsLiteral cs
  | negative {cs : List Char} (h : IsUnsigned cs) : IsLiteral ('-' :: cs)
  | notANumber : IsLiteral ['N', 'a', 'N']
  | infinite : IsLiteral ['+', 'I', 'n', 'f']
  | negativeInfinite : IsLiteral ['-', 'I', 'n', 'f']

theorem isDigits_digits (n : Nat) : IsDigits (digits n) :=
  ⟨digits_ne_nil n, fun _ => isDigit_of_mem_digits⟩

theorem isDigits_append_zeros {ds : List Char} (h : IsDigits ds) (n : Nat) :
    IsDigits (ds ++ List.replicate n '0') := by
  refine ⟨by simp [h.ne_nil], fun c hc => ?_⟩
  rcases List.mem_append.1 hc with hc | hc
  · exact h.isDigit c hc
  · rw [(List.mem_replicate.1 hc).2]
    decide

theorem isDigits_zeros_append {ds : List Char} (h : IsDigits ds) (n : Nat) :
    IsDigits (List.replicate n '0' ++ ds) := by
  refine ⟨by simp [h.ne_nil], fun c hc => ?_⟩
  rcases List.mem_append.1 hc with hc | hc
  · rw [(List.mem_replicate.1 hc).2]
    decide
  · exact h.isDigit c hc

/-! ## Layouts -/

/-- The power of an exponent, filled up to two digits. -/
theorem isDigits_power (n : Nat) :
    IsDigits (if (digits n).length < 2 then '0' :: digits n else digits n) ∧
      2 ≤ (if (digits n).length < 2 then '0' :: digits n else digits n).length := by
  have count := digitCount_pos n
  rw [digitCount] at count
  split
  · refine ⟨⟨by simp, fun c hc => ?_⟩, Nat.succ_le_succ count⟩
    rcases List.mem_cons.1 hc with rfl | hc
    · decide
    · exact isDigit_of_mem_digits hc
  · exact ⟨isDigits_digits n, by omega⟩

/-- The sign of an exponent. -/
theorem exponent_sign (e : Int) :
    (if e < 0 then '-' else '+') = '+' ∨ (if e < 0 then '-' else '+') = '-' := by
  split
  · exact .inr rfl
  · exact .inl rfl

namespace Scientific

theorem Proper.isDigits {s : Scientific} (h : s.Proper) : IsDigits s.digits :=
  ⟨h.ne_nil, h.isDigit⟩

/-- The plain layout is a mantissa, wherever the exponent puts the point. -/
theorem isMantissa_plain {s : Scientific} (h : s.Proper) : IsMantissa s.plain := by
  rw [plain]
  -- below one, within the digits, or past their end: that is where the point stands
  split
  · have zero : IsDigits ['0'] := ⟨by simp, by simp⟩
    exact .fraction zero (isDigits_zeros_append h.isDigits _)
  · simp only
    split
    · exact .whole (isDigits_append_zeros h.isDigits _)
    · rename_i longer
      -- the point stands after a digit and before another
      have digit_before : s.digits.take (s.exponent.toNat + 1) ≠ [] := by
        simp [h.ne_nil]
      have digit_after : s.digits.drop (s.exponent.toNat + 1) ≠ [] := by
        rw [ne_eq, List.drop_eq_nil_iff]
        omega
      exact .fraction
        ⟨digit_before, fun c hc => h.isDigit c (List.mem_of_mem_take hc)⟩
        ⟨digit_after, fun c hc => h.isDigit c (List.mem_of_mem_drop hc)⟩

/-- The layout with an exponent is an unsigned number. -/
theorem isUnsigned_withExponent {s : Scientific} (h : s.Proper) : IsUnsigned s.withExponent := by
  obtain ⟨power, two⟩ := isDigits_power s.exponent.natAbs
  rw [withExponent]
  refine .scaled ?_ (exponent_sign s.exponent) power two
  obtain ⟨ne_nil, isDigit⟩ := h
  -- one digit stands alone, and further ones follow a point
  match s.digits, ne_nil, isDigit with
  | [d], _, isDigit => exact .whole ⟨by simp, isDigit⟩
  | d :: e :: ds, _, isDigit =>
    have first : IsDigits [d] := ⟨by simp, fun c hc => isDigit c (by simp_all)⟩
    exact .fraction first
      ⟨by simp, fun c hc => isDigit c (List.mem_cons_of_mem d hc)⟩

theorem isUnsigned_general {s : Scientific} (h : s.Proper) (limit : Int) :
    IsUnsigned (s.general limit) := by
  rw [general]
  split
  · exact isUnsigned_withExponent h
  · exact .plain (isMantissa_plain h)

end Scientific

/-- A finite number is written as a literal. -/
theorem Binary.isLiteral_general (b : Binary) (precision : Option Nat) :
    IsLiteral (b.general precision) := by
  unfold Binary.general
  split
  · exact .positive (.plain (.whole ⟨by simp, by simp⟩))
  · rename_i not_zero
    -- a sign in front is all that a negative number adds
    have signed {cs : List Char} (h : IsUnsigned cs) :
        IsLiteral (if b.negative then '-' :: cs else cs) := by
      split
      · exact .negative h
      · exact .positive h
    cases precision with
    | none => exact signed (Scientific.isUnsigned_general (proper_shortest not_zero) _)
    | some p =>
      have some_digit : 0 < max p 1 := by omega
      have proper := proper_rounded (num_pos not_zero) b.den_pos some_digit
      dsimp only
      rw [Binary.precise_eq not_zero some_digit]
      exact signed (Scientific.isUnsigned_general proper _)

/-- Every double is written as a literal. -/
theorem isLiteral_general (x : Float) (precision : Option Nat) :
    IsLiteral (general x precision).toList := by
  rw [general]
  split
  · exact .notANumber
  · split
    · exact .negativeInfinite
    · exact .infinite
  · rw [String.toList_ofList]
    exact Binary.isLiteral_general _ precision

/-! ## Reading -/

/-- A text that starts with no digit. -/
def NoDigitHead (cs : List Char) : Prop :=
  ∀ c ∈ cs.head?, c.isDigit = false

theorem spanDigits_append {ds rest : List Char} (h : ∀ c ∈ ds, c.isDigit = true)
    (hr : NoDigitHead rest) : spanDigits (ds ++ rest) = (ds, rest) := by
  have stop : rest.takeWhile Char.isDigit = [] ∧ rest.dropWhile Char.isDigit = rest := by
    cases rest with
    | nil => exact ⟨rfl, rfl⟩
    | cons c cs => simp [hr c rfl]
  rw [spanDigits, List.takeWhile_append_of_pos h, List.dropWhile_append_of_pos h, stop.1, stop.2,
    List.append_nil]

/-- What an exponent or nothing may follow: neither digits nor a point. -/
structure Ends (rest : List Char) : Prop where
  no_digit : NoDigitHead rest
  no_point : rest.head? ≠ some '.'

/-- A mantissa is read up to where it ends. -/
theorem readUnsigned?_mantissa {m rest : List Char} (h : IsMantissa m) (hr : Ends rest) :
    (readUnsigned? (m ++ rest)).isSome = (readExponent? rest).isSome := by
  cases h with
  | whole digits =>
    rw [readUnsigned?, spanDigits_append digits.isDigit hr.no_digit]
    simp only
    -- a point after the digits would have to be the one of a fraction
    split
    · exact absurd rfl hr.no_point
    · simp [digits.ne_nil]
  | fraction digits digits' =>
    rw [readUnsigned?, List.append_assoc,
      spanDigits_append digits.isDigit (by simp [NoDigitHead]), List.cons_append]
    simp [spanDigits_append digits'.isDigit hr.no_digit, digits.ne_nil]

/-- The reader takes every unsigned number. -/
theorem isSome_readUnsigned? {cs : List Char} (h : IsUnsigned cs) :
    (readUnsigned? cs).isSome = true := by
  cases h with
  | plain mantissa =>
    have stop : Ends [] := ⟨by simp [NoDigitHead], by simp⟩
    have read := readUnsigned?_mantissa mantissa stop
    rwa [List.append_nil] at read
  | scaled mantissa sign power two =>
    rw [readUnsigned?_mantissa mantissa ⟨by simp [NoDigitHead], by simp⟩]
    have all_digits := List.all_eq_true.2 power.isDigit
    rcases sign with rfl | rfl
    · simp [readExponent?, power.ne_nil, all_digits]
    · simp [readExponent?, power.ne_nil, all_digits]

end ErrorBudget.Decimal
