/-
  ErrorBudget.Proofs.Query.Evaluation

  When the condition that an expression says holds, given the values of the series that it
  looks at. A literal stands for exactly the number that its digits denote, so nothing is
  rounded here.
-/
import ErrorBudget.Proofs.Decimal.Exact
import ErrorBudget.Proofs.Query.Reader

namespace ErrorBudget.Query

/-! ## Amounts -/

/-- What literals stand for: a number, or one that is infinite. -/
inductive Amount where
  | finite (q : ℚ)
  | infinite (negative : Bool)
deriving DecidableEq

namespace Amount

/-- What a literal stands for, if it is no NaN. -/
def ofLiteral? (cs : List Char) : Option Amount :=
  if cs = ['+', 'I', 'n', 'f'] then some (infinite false)
  else if cs = ['-', 'I', 'n', 'f'] then some (infinite true)
  else (Decimal.denoted? cs).map finite

/-- The product; there is none of an infinite number and zero. -/
def mul? : Amount → Amount → Option Amount
  | finite p, finite q => some (finite (p * q))
  | infinite a, infinite b => some (infinite (a != b))
  | infinite a, finite q => if q = 0 then none else some (infinite (a != decide (q < 0)))
  | finite q, infinite a => if q = 0 then none else some (infinite (a != decide (q < 0)))

/-- The strict order. -/
def Below : Amount → Amount → Prop
  | finite p, finite q => p < q
  | finite _, infinite negative => negative = false
  | infinite negative, finite _ => negative = true
  | infinite a, infinite b => a = true ∧ b = false

/-- A literal that denotes a number is not the one of an infinite number. -/
theorem ofLiteral?_of_denoted {cs : List Char} {q : ℚ} (h : Decimal.denoted? cs = some q) :
    ofLiteral? cs = some (finite q) := by
  have no_number (sign : Char) (s : sign = '+' ∨ sign = '-') :
      cs ≠ [sign, 'I', 'n', 'f'] := by
    have unread : Decimal.denotedUnsigned? ['I', 'n', 'f'] = none := rfl
    rintro rfl
    rcases s with rfl | rfl
    · rw [Decimal.denoted?, unread] at h
      cases h
    · rw [Decimal.denoted?_negative, unread] at h
      cases h
  rw [ofLiteral?, if_neg (no_number '+' (.inl rfl)), if_neg (no_number '-' (.inr rfl)), h,
    Option.map_some]

end Amount

/-! ## Conditions that hold -/

namespace Meaning

section

variable (observed : Series → Option ℚ)

/-- The amount of an expression, if the series that it looks at have values. -/
def amount? : Meaning → Option Amount
  | number literal => Amount.ofLiteral? literal
  | series s => (observed s).map .finite
  | product a b => a.amount?.bind fun x => b.amount?.bind x.mul?
  | compare _ _ _ | both _ _ | either _ _ => none

/-- A condition holds; an amount alone is none. Without the value of a series no comparison
    with it holds. -/
def Holds : Meaning → Prop
  | number _ | series _ | product _ _ => False
  | compare .above a b => ∃ x ∈ a.amount? observed, ∃ y ∈ b.amount? observed, y.Below x
  | compare .below a b => ∃ x ∈ a.amount? observed, ∃ y ∈ b.amount? observed, x.Below y
  | both a b => a.Holds ∧ b.Holds
  | either a b => a.Holds ∨ b.Holds

theorem holds_foldl_either (ms : List Meaning) (m : Meaning) :
    (ms.foldl either m).Holds observed ↔ m.Holds observed ∨ ∃ n ∈ ms, n.Holds observed := by
  induction ms generalizing m with
  | nil => simp
  | cons n ms ih =>
    rw [List.foldl_cons, ih, Holds, or_assoc]
    simp only [List.mem_cons, exists_eq_or_imp]

/-- Of conditions that are joined, at least one has to hold. -/
theorem holds_anyOf? {ms : List Meaning} {m : Meaning} (h : anyOf? ms = some m) :
    m.Holds observed ↔ ∃ n ∈ ms, n.Holds observed := by
  cases ms with
  | nil => cases h
  | cons n ms =>
    obtain rfl := Option.some.inj h
    rw [holds_foldl_either]
    simp only [List.mem_cons, exists_eq_or_imp]

end

end Meaning

end ErrorBudget.Query
