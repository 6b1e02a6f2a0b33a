/-
  ErrorBudget.Proofs.Duration.Spelling

  How spans of time may be spelled: amounts in decimal digits, zeros in front included, each
  followed by its unit. Digits and letters alternate, so a text is a spelling in one way at
  most. Reading unit by unit finds exactly the spellings whose units stand in the order in
  which they are read.
-/
import ErrorBudget.Duration.Parser
import ErrorBudget.Proofs.Decimal.Literal

namespace ErrorBudget.Duration

open Decimal (NoDigitHead IsDigits)

/-! ## Units -/

namespace Scale

theorem suffix_ne_nil (unit : Scale) : unit.suffix ≠ [] := by
  cases unit <;> decide

theorem not_isDigit_of_mem_suffix {unit : Scale} {c : Char} (h : c ∈ unit.suffix) :
    c.isDigit = false := by
  have letters : unit.suffix.all (fun c => !c.isDigit) = true := by cases unit <;> rfl
  simpa using List.all_eq_true.1 letters c h

/-- A unit is told by its suffix. -/
theorem suffix_inj {u v : Scale} : u.suffix = v.suffix ↔ u = v := by
  cases u <;> cases v <;> simp [suffix]

end Scale

/-! ## Spellings -/

/-- An amount of a unit as it is spelled: its digits, and the unit. -/
structure Part where
  digits : List Char
  unit : Scale
deriving DecidableEq

namespace Part

def text (p : Part) : List Char :=
  p.digits ++ p.unit.suffix

/-- What is read for the part: the number that its digits denote, and the unit. -/
def component (p : Part) : Component :=
  ⟨Decimal.ofDigits p.digits, p.unit⟩

end Part

/-- Parts whose amounts are written in digits, and whose units are some of the given ones in
    their order. -/
structure Spelled (units : List Scale) (ps : List Part) : Prop where
  digits : ∀ p ∈ ps, IsDigits p.digits
  ordered : (ps.map Part.unit).Sublist units

namespace Spelled

variable {units : List Scale} {unit : Scale} {p : Part} {ps : List Part}

theorem tail (h : Spelled units (p :: ps)) : ∀ q ∈ ps, IsDigits q.digits :=
  fun q hq => h.digits q (List.mem_cons_of_mem p hq)

/-- If the first part is not of the first unit, all parts are of later ones. -/
theorem of_ne (h : Spelled (unit :: units) (p :: ps)) (other : p.unit ≠ unit) :
    Spelled units (p :: ps) := by
  refine ⟨h.digits, ?_⟩
  cases h.ordered with
  | cons _ later => exact later
  | cons_cons => exact absurd rfl other

theorem of_eq (h : Spelled (p.unit :: units) (p :: ps)) : Spelled units ps :=
  ⟨h.tail, List.cons_sublist_cons.1 h.ordered⟩

theorem later (h : Spelled units ps) (unit : Scale) : Spelled (unit :: units) ps :=
  ⟨h.digits, h.ordered.cons unit⟩

theorem cons (h : Spelled units ps) {ds : List Char} (digits : IsDigits ds) (unit : Scale) :
    Spelled (unit :: units) (⟨ds, unit⟩ :: ps) :=
  ⟨List.forall_mem_cons.2 ⟨digits, h.digits⟩, h.ordered.cons_cons unit⟩

end Spelled

/-! ## Where a part ends -/

/-- What may follow a part: another one, or nothing. -/
def DigitHead (rest : List Char) : Prop :=
  ∀ c, rest.head? = some c → c.isDigit = true

theorem digitHead_flatMap_text {ps : List Part} (h : ∀ p ∈ ps, IsDigits p.digits) :
    DigitHead (ps.flatMap Part.text) := by
  intro c hc
  cases ps with
  | nil => cases hc
  | cons p ps =>
    obtain ⟨ne_nil, isDigit⟩ := h p List.mem_cons_self
    obtain ⟨d, ds, first⟩ := List.exists_cons_of_ne_nil ne_nil
    rw [List.flatMap_cons, Part.text, first] at hc
    obtain rfl := Option.some.inj hc
    exact isDigit _ (first ▸ List.mem_cons_self)

theorem noDigitHead_suffix_append (unit : Scale) (rest : List Char) :
    NoDigitHead (unit.suffix ++ rest) := by
  intro c hc
  obtain ⟨d, ds, first⟩ := List.exists_cons_of_ne_nil unit.suffix_ne_nil
  rw [first] at hc
  obtain rfl := Option.some.inj hc
  exact Scale.not_isDigit_of_mem_suffix (first ▸ List.mem_cons_self)

/-- The digits of a part end where its unit begins. -/
theorem spanDigits_text_append {p : Part} (h : IsDigits p.digits) (rest : List Char) :
    Decimal.spanDigits (p.text ++ rest) = (p.digits, p.unit.suffix ++ rest) := by
  rw [Part.text, List.append_assoc]
  exact Decimal.spanDigits_append h.isDigit (noDigitHead_suffix_append p.unit rest)

theorem headAmount_text_append {p : Part} (h : IsDigits p.digits) (rest : List Char) :
    headAmount (p.text ++ rest) = p.digits :=
  congrArg Prod.fst (spanDigits_text_append h rest)

/-- The unit of a part ends where the next amount begins. -/
theorem headWord_text_append {p : Part} (h : IsDigits p.digits) {rest : List Char}
    (next : DigitHead rest) :
    headWord (p.text ++ rest) = p.unit.suffix ∧ afterWord (p.text ++ rest) = rest := by
  have letters : ∀ c ∈ p.unit.suffix, (!c.isDigit) = true := by
    intro c hc
    rw [Scale.not_isDigit_of_mem_suffix hc]
    rfl
  have stop : rest.takeWhile (fun c => !c.isDigit) = [] ∧
      rest.dropWhile (fun c => !c.isDigit) = rest := by
    cases rest with
    | nil => exact ⟨rfl, rfl⟩
    | cons c rest => simp [next c rfl]
  have after_digits : (p.text ++ rest).dropWhile Char.isDigit = p.unit.suffix ++ rest :=
    congrArg Prod.snd (spanDigits_text_append h rest)
  rw [headWord, afterWord, after_digits, List.takeWhile_append_of_pos letters,
    List.dropWhile_append_of_pos letters, stop.1, stop.2, List.append_nil]
  exact ⟨rfl, rfl⟩

/-- A text is cut after its first digits and the word behind them. -/
theorem headAmount_append (cs : List Char) :
    headAmount cs ++ (headWord cs ++ afterWord cs) = cs := by
  rw [headAmount, headWord, afterWord, List.takeWhile_append_dropWhile,
    List.takeWhile_append_dropWhile]

/-- A text is spelled in one way at most. -/
theorem flatMap_text_inj {ps qs : List Part} (hp : ∀ p ∈ ps, IsDigits p.digits)
    (hq : ∀ q ∈ qs, IsDigits q.digits) (same : ps.flatMap Part.text = qs.flatMap Part.text) :
    ps = qs := by
  induction ps generalizing qs with
  | nil =>
    cases qs with
    | nil => rfl
    | cons q qs =>
      -- a part has a digit at least, so no text is left for it
      have digits := (hq q List.mem_cons_self).ne_nil
      simp [Part.text, digits] at same
  | cons p ps ih =>
    obtain ⟨digits, others⟩ := List.forall_mem_cons.1 hp
    cases qs with
    | nil => simp [Part.text, digits.ne_nil] at same
    | cons q qs =>
      obtain ⟨digits', others'⟩ := List.forall_mem_cons.1 hq
      rw [List.flatMap_cons, List.flatMap_cons] at same
      have amount : p.digits = q.digits := by
        rw [← headAmount_text_append digits, same, headAmount_text_append digits']
      obtain ⟨word, after⟩ := headWord_text_append digits (digitHead_flatMap_text others)
      obtain ⟨word', after'⟩ := headWord_text_append digits' (digitHead_flatMap_text others')
      rw [same] at word after
      have unit : p.unit = q.unit := Scale.suffix_inj.1 (word.symm.trans word')
      have rest : ps = qs := ih others others' (after.symm.trans after')
      rw [rest, show p = q from congr (congrArg Part.mk amount) unit]

/-! ## Reading all parts -/

/-- Parts whose units stand in the order in which units are read are read. -/
theorem readComponents?_flatMap_spelled {units : List Scale} {ps : List Part}
    (h : Spelled units ps) :
    readComponents? units (ps.flatMap Part.text) = some (ps.map Part.component) := by
  induction units generalizing ps with
  | nil =>
    obtain rfl := List.map_eq_nil_iff.1 (List.sublist_nil.1 h.ordered)
    rfl
  | cons unit units ih =>
    cases ps with
    | nil => exact ih ⟨by simp, List.nil_sublist units⟩
    | cons p ps =>
      have digits := h.digits p List.mem_cons_self
      obtain ⟨word, after⟩ := headWord_text_append digits (digitHead_flatMap_text h.tail)
      rw [List.flatMap_cons, readComponents?, headAmount_text_append digits, word, after]
      by_cases same : p.unit = unit
      · -- the first part is of this unit, the others are of later ones
        subst same
        rw [if_pos (by simp [digits.ne_nil]), ih h.of_eq]
        rfl
      · rw [if_neg (by simp [Scale.suffix_inj, same]), ← List.flatMap_cons]
        exact ih (h.of_ne same)

/-- What is read is spelled by parts whose units stand in that order. -/
theorem exists_spelled {units : List Scale} {cs : List Char} {components : List Component}
    (h : readComponents? units cs = some components) :
    ∃ ps, Spelled units ps ∧ ps.flatMap Part.text = cs := by
  induction units generalizing cs components with
  | nil =>
    rw [readComponents?] at h
    split at h
    · rename_i none_left
      exact ⟨[], ⟨by simp, List.Sublist.refl _⟩, (List.isEmpty_iff.1 none_left).symm⟩
    · cases h
  | cons unit units ih =>
    rw [readComponents?] at h
    split at h
    · rename_i starts
      rw [Bool.and_eq_true, decide_eq_true_eq] at starts
      obtain ⟨some_digit, word⟩ := starts
      obtain ⟨others, read, -⟩ := Option.map_eq_some_iff.1 h
      obtain ⟨ps, spelled, written⟩ := ih read
      -- the digits and the unit that were found are the first part
      have digits : IsDigits (headAmount cs) :=
        ⟨by simpa using some_digit, fun c hc => List.mem_takeWhile_imp hc⟩
      refine ⟨⟨headAmount cs, unit⟩ :: ps, spelled.cons digits unit, ?_⟩
      rw [List.flatMap_cons, written, Part.text, List.append_assoc, ← word, headAmount_append]
    · obtain ⟨ps, spelled, written⟩ := ih h
      exact ⟨ps, spelled.later unit, written⟩

end ErrorBudget.Duration
