/-
  ErrorBudget.Proofs.Duration.Grammar

  The texts that are read as spans: a lone `0`, and amounts of descending units as long as
  every amount and the exact sum fit into 64 bits. The parts of a text are unique, the sum
  is exact, and each of the three defects has its own condition. Wherever a text is read that
  is no span, the fault names the text and the defect.
-/
import Mathlib.Data.List.Sort
import ErrorBudget.Burn.FixedWindow
import ErrorBudget.Proofs.Duration.Canonical

namespace ErrorBudget.Duration

open Decimal (IsDigits)

/-! ## Grammar -/

/-- The number that the digits of a part denote. -/
def Part.amount (p : Part) : Nat :=
  Decimal.ofDigits p.digits

/-- A text is made up of parts: one or more, all with digits, larger units first. -/
structure MadeOf (s : String) (ps : List Part) : Prop where
  some_part : ps ≠ []
  digits : ∀ p ∈ ps, IsDigits p.digits
  descending : ps.Pairwise fun p q => q.unit.millis < p.unit.millis
  written : s = String.ofList (ps.flatMap Part.text)

/-- Length of all parts together in milliseconds. -/
def exactSum (ps : List Part) : Nat :=
  (ps.map fun p => p.amount * p.unit.millis).sum

/-- Every amount and the sum of all lengths are below `2 ^ 64`. -/
structure InRange (ps : List Part) : Prop where
  amounts : ∀ p ∈ ps, p.amount < 2 ^ 64
  sum : exactSum ps < 2 ^ 64

/-! ## Units in descending order -/

theorem Scale.mem_all (unit : Scale) : unit ∈ Scale.all := by
  cases unit <;> decide

/-- Units descend exactly if they stand in the order in which units are read. -/
theorem descending_iff_sublist (units : List Scale) :
    Descending units ↔ units.Sublist Scale.all := by
  constructor
  · intro ordered
    have asymmetric : Std.Antisymm fun u v : Scale => v.millis < u.millis :=
      ⟨fun _ _ before after => absurd after (Nat.lt_asymm before)⟩
    have different : units.Nodup := by
      refine List.Pairwise.imp (fun shorter => ?_) ordered
      rintro rfl
      exact Nat.lt_irrefl _ shorter
    have listed : units.Subperm Scale.all :=
      different.subperm fun unit _ => unit.mem_all
    exact List.sublist_of_subperm_of_pairwise listed ordered descending_all
  · intro listed
    exact descending_all.sublist listed

theorem madeOf_iff {s : String} {ps : List Part} :
    MadeOf s ps ↔ ps ≠ [] ∧ Spelled Scale.all ps ∧ ps.flatMap Part.text = s.toList := by
  constructor
  · intro h
    have ordered := (descending_iff_sublist _).1 (List.pairwise_map.2 h.descending)
    refine ⟨h.some_part, ⟨h.digits, ordered⟩, ?_⟩
    rw [h.written, String.toList_ofList]
  · rintro ⟨some_part, spelled, written⟩
    have descending := List.pairwise_map.1 ((descending_iff_sublist _).2 spelled.ordered)
    refine ⟨some_part, spelled.digits, descending, ?_⟩
    rw [written, String.ofList_toList]

theorem MadeOf.unique {s : String} {ps qs : List Part} (h : MadeOf s ps) (h' : MadeOf s qs) :
    ps = qs := by
  obtain ⟨-, spelled, written⟩ := madeOf_iff.1 h
  obtain ⟨-, spelled', written'⟩ := madeOf_iff.1 h'
  exact flatMap_text_inj spelled.digits spelled'.digits (written.trans written'.symm)

/-- The last letter of a unit stands in the text, so it is not empty and no lone `0`. -/
theorem MadeOf.exists_letter {s : String} {ps : List Part} (h : MadeOf s ps) :
    ∃ c ∈ s.toList, c.isDigit = false := by
  obtain ⟨some_part, -, written⟩ := madeOf_iff.1 h
  obtain ⟨p, ps, rfl⟩ := List.exists_cons_of_ne_nil some_part
  obtain ⟨c, mem⟩ := List.exists_mem_of_ne_nil _ p.unit.suffix_ne_nil
  refine ⟨c, ?_, Scale.not_isDigit_of_mem_suffix mem⟩
  rw [← written, List.flatMap_cons, Part.text]
  exact List.mem_append_left _ (List.mem_append_right _ mem)

theorem not_madeOf_zero (ps : List Part) : ¬ MadeOf "0" ps := by
  intro h
  obtain ⟨c, mem, letter⟩ := h.exists_letter
  obtain rfl : c = '0' := List.mem_singleton.1 mem
  cases letter

theorem not_madeOf_empty (ps : List Part) : ¬ MadeOf "" ps := by
  intro h
  obtain ⟨c, mem, -⟩ := h.exists_letter
  cases mem

/-! ## Sums -/

theorem total_map_component (ps : List Part) : total (ps.map Part.component) = exactSum ps := by
  induction ps with
  | nil => rfl
  | cons p ps ih =>
    have first : p.component.millis = p.amount * p.unit.millis := rfl
    show p.component.millis + total (ps.map Part.component) = exactSum (p :: ps)
    rw [ih, first, exactSum, exactSum, List.map_cons, List.sum_cons]

/-- No amount is greater than the sum, so the sum alone decides. -/
theorem inRange_iff {ps : List Part} : InRange ps ↔ exactSum ps < 2 ^ 64 := by
  refine ⟨fun h => h.sum, fun fits => ⟨fun p hp => ?_, fits⟩⟩
  have amount_le : p.amount ≤ p.amount * p.unit.millis :=
    Nat.le_mul_of_pos_right _ p.unit.millis_pos
  have length_le : p.amount * p.unit.millis ≤ exactSum ps :=
    List.le_sum_of_mem (List.mem_map_of_mem hp)
  omega

/-! ## Reading -/

/-- What a text that is neither empty nor a lone `0` is read as. -/
theorem read_of_ne {s : String} (not_empty : s ≠ "") (not_zero : s ≠ "0") :
    read s = match readComponents? Scale.all s.toList with
      | none => .error .malformed
      | some components =>
        if total components < Nat.pow 2 64 then .ok (ofMillis (total components))
        else .error .outOfRange := by
  have not_zero' : s.toList ≠ ['0'] := fun same => not_zero (String.toList_inj.1 same)
  have not_empty' : s.toList.isEmpty = false := by
    rw [List.isEmpty_eq_false_iff]
    exact fun none_left => not_empty (String.toList_inj.1 none_left)
  rw [read, readChars, if_neg not_zero', not_empty']
  exact if_neg Bool.false_ne_true

/-- A text in parts is read as their exact sum, or is out of range. -/
theorem MadeOf.read_eq {s : String} {ps : List Part} (h : MadeOf s ps) :
    read s = if exactSum ps < 2 ^ 64 then .ok (ofMillis (exactSum ps))
      else .error .outOfRange := by
  have not_empty : s ≠ "" := fun same => not_madeOf_empty ps (same ▸ h)
  have not_zero : s ≠ "0" := fun same => not_madeOf_zero ps (same ▸ h)
  obtain ⟨-, spelled, written⟩ := madeOf_iff.1 h
  rw [read_of_ne not_empty not_zero, ← written, readComponents?_flatMap_spelled spelled]
  dsimp only
  rw [total_map_component]
  rfl

/-- A text that is not made up of parts is malformed, unless it is empty or a lone `0`. -/
theorem read_of_not_madeOf {s : String} (not_empty : s ≠ "") (not_zero : s ≠ "0")
    (h : ∀ ps, ¬ MadeOf s ps) : read s = .error .malformed := by
  rw [read_of_ne not_empty not_zero]
  cases found : readComponents? Scale.all s.toList with
  | none => rfl
  | some components =>
    obtain ⟨ps, spelled, written⟩ := exists_spelled found
    have some_part : ps ≠ [] := by
      rintro rfl
      exact not_empty (String.toList_inj.1 written.symm)
    exact absurd (madeOf_iff.2 ⟨some_part, spelled, written⟩) (h ps)

/-- What becomes of a text: it is a lone `0`, empty, made up of parts that are in range or
    not, or nothing of the kind. -/
inductive Outcome (s : String) : Except Defect Duration → Prop where
  | zero (text : s = "0") : Outcome s (.ok zero)
  | span {ps : List Part} (made : MadeOf s ps) (range : InRange ps) :
    Outcome s (.ok (ofMillis (exactSum ps)))
  | empty (text : s = "") : Outcome s (.error .empty)
  | outOfRange {ps : List Part} (made : MadeOf s ps) (too_large : ¬ InRange ps) :
    Outcome s (.error .outOfRange)
  | malformed (not_empty : s ≠ "") (not_zero : s ≠ "0") (none_made : ∀ ps, ¬ MadeOf s ps) :
    Outcome s (.error .malformed)

theorem outcome_read (s : String) : Outcome s (read s) := by
  by_cases zero_text : s = "0"
  · subst zero_text
    exact .zero rfl
  by_cases empty_text : s = ""
  · subst empty_text
    exact .empty rfl
  by_cases parts : ∃ ps, MadeOf s ps
  · obtain ⟨ps, made⟩ := parts
    rw [made.read_eq]
    split
    · rename_i fits
      exact .span made (inRange_iff.2 fits)
    · rename_i too_large
      exact .outOfRange made fun range => too_large range.sum
  · have none_made : ∀ ps, ¬ MadeOf s ps := fun ps made => parts ⟨ps, made⟩
    rw [read_of_not_madeOf empty_text zero_text none_made]
    exact .malformed empty_text zero_text none_made

theorem read_eq_ok_iff (s : String) (d : Duration) :
    read s = .ok d ↔ (s = "0" ∧ d = zero) ∨
      ∃ ps, MadeOf s ps ∧ InRange ps ∧ d.millis.toNat = exactSum ps := by
  constructor
  · intro h
    have outcome := outcome_read s
    rw [h] at outcome
    cases outcome with
    | zero text => exact .inl ⟨text, rfl⟩
    | span made range => exact .inr ⟨_, made, range, toNat_ofNat_of_lt range.sum⟩
  · rintro (⟨rfl, rfl⟩ | ⟨ps, made, range, length⟩)
    · rfl
    · rw [made.read_eq, if_pos range.sum, ← length, ofMillis, UInt64.ofNat_toNat]

theorem read_eq_empty_iff (s : String) : read s = .error .empty ↔ s = "" := by
  constructor
  · intro h
    have outcome := outcome_read s
    rw [h] at outcome
    cases outcome with
    | empty text => exact text
  · rintro rfl
    rfl

theorem read_eq_outOfRange_iff (s : String) :
    read s = .error .outOfRange ↔ ∃ ps, MadeOf s ps ∧ ¬ InRange ps := by
  constructor
  · intro h
    have outcome := outcome_read s
    rw [h] at outcome
    cases outcome with
    | outOfRange made too_large => exact ⟨_, made, too_large⟩
  · rintro ⟨ps, made, too_large⟩
    rw [made.read_eq, if_neg fun fits => too_large (inRange_iff.2 fits)]

theorem read_eq_malformed_iff (s : String) :
    read s = .error .malformed ↔ s ≠ "" ∧ s ≠ "0" ∧ ∀ ps, ¬ MadeOf s ps := by
  constructor
  · intro h
    have outcome := outcome_read s
    rw [h] at outcome
    cases outcome with
    | malformed not_empty not_zero none_made => exact ⟨not_empty, not_zero, none_made⟩
  · rintro ⟨not_empty, not_zero, none_made⟩
    exact read_of_not_madeOf not_empty not_zero none_made

/-- The exact sum is found also by adding up words of 64 bits, which fails just if it is too
    large. -/
theorem MadeOf.wordTotal?_eq {s : String} {ps : List Part} (h : MadeOf s ps) :
    wordTotal? (ps.map Part.component) = (read s).toOption.map millis := by
  rw [Duration.wordTotal?_eq, total_map_component, h.read_eq]
  by_cases fits : exactSum ps < 2 ^ 64
  · rw [word?_of_lt fits, if_pos fits]
    rfl
  · rw [word?_of_not_lt fits, if_neg fits]
    rfl

/-! ## Faults -/

/-- A value that holds a text which is no span fails with the text and the defect. -/
theorem duration_of_defect {σ : Type} [Source σ] {v : σ} {s : String} {defect : Defect}
    (held : Source.atom v = pure (.text s)) (h : read s = .error defect) :
    Source.duration v = Reader.fail (.duration s defect) := by
  rw [Source.duration, held]
  simp only [pure_bind, h]

/-- A wait that is no span fails with its text and the defect. -/
theorem wait_of_defect {s : String} {defect : Defect} (given : s ≠ "")
    (h : read s = .error defect) :
    Burn.FixedWindow.wait s = .error (.duration s defect) := by
  have not_empty : ¬ s.isEmpty = true := fun empty => given (String.isEmpty_iff.1 empty)
  rw [Burn.FixedWindow.wait, if_neg not_empty, h]

/-- The defect in words. -/
def reasonOf : Defect → String
  | .empty => "empty duration string"
  | .outOfRange => "duration out of range"
  | .malformed => "not a valid duration string"

theorem message_eq (s : String) (defect : Defect) :
    (Fault.duration s defect).message = "invalid duration '" ++ s ++ "': " ++ reasonOf defect := by
  cases defect <;> rfl

/-! ## The language of spans -/

/-- A text is a span exactly if it is a lone `0` or made up of parts in range. The parts are
    unique, and their exact sum is the span, as it is if words of 64 bits are added up. The
    empty text is called empty, parts that are not in range out of range, and everything else
    malformed; whoever reads the text reports it with its defect. -/
theorem reads_exactly_spans (s : String) :
    (∀ ps qs, MadeOf s ps → MadeOf s qs → ps = qs) ∧
    (∀ d, read s = .ok d ↔ (s = "0" ∧ d = zero) ∨
      ∃ ps, MadeOf s ps ∧ InRange ps ∧ d.millis.toNat = exactSum ps) ∧
    (∀ ps, MadeOf s ps → wordTotal? (ps.map Part.component) = (read s).toOption.map millis) ∧
    (read s = .error .empty ↔ s = "") ∧
    (read s = .error .outOfRange ↔ ∃ ps, MadeOf s ps ∧ ¬ InRange ps) ∧
    (read s = .error .malformed ↔ s ≠ "" ∧ s ≠ "0" ∧ ∀ ps, ¬ MadeOf s ps) ∧
    (∀ defect, read s = .error defect →
      (∀ {σ : Type} [Source σ] (v : σ), Source.atom v = pure (.text s) →
        Source.duration v = Reader.fail (.duration s defect)) ∧
      (s ≠ "" → Burn.FixedWindow.wait s = .error (.duration s defect)) ∧
      (Fault.duration s defect).message =
        "invalid duration '" ++ s ++ "': " ++ reasonOf defect) := by
  refine ⟨fun ps qs h h' => h.unique h', read_eq_ok_iff s, fun ps h => h.wordTotal?_eq,
    read_eq_empty_iff s, read_eq_outOfRange_iff s, read_eq_malformed_iff s, ?_⟩
  intro defect h
  exact ⟨fun v held => duration_of_defect held h, fun given => wait_of_defect given h,
    message_eq s defect⟩

/-- Zeros in front belong to an amount; and years that fit as a number can still be too long. -/
theorem reads_exactly_spans_days :
    let week : List Part := [⟨['0', '0', '7'], .day⟩, ⟨['5'], .millisecond⟩]
    let ages : List Part := [⟨['5', '8', '4', '9', '4', '2', '4', '1', '8'], .year⟩]
    (MadeOf "007d5ms" week ∧ InRange week ∧ read "007d5ms" = .ok ⟨604800005⟩) ∧
    (MadeOf "584942418y" ages ∧ ¬ InRange ages ∧
      read "584942418y" = .error .outOfRange ∧
      Burn.FixedWindow.wait "584942418y" =
        .error (.duration "584942418y" .outOfRange)) := by
  intro week ages
  have week_digits : ∀ p ∈ week, IsDigits p.digits := by simp [week, Decimal.isDigits_iff]
  have days_first : week.Pairwise fun p q => q.unit.millis < p.unit.millis := by
    simp [week, Scale.millis]
  have week_made : MadeOf "007d5ms" week := ⟨by decide, week_digits, days_first, rfl⟩
  have week_fits : InRange week := inRange_iff.2 (by decide)
  have ages_digits : ∀ p ∈ ages, IsDigits p.digits := by simp [ages, Decimal.isDigits_iff]
  have ages_made : MadeOf "584942418y" ages :=
    ⟨by decide, ages_digits, List.pairwise_singleton _ _, rfl⟩
  have ages_long : ¬ InRange ages := fun range => absurd range.sum (by decide)
  obtain ⟨-, accepted, -⟩ := reads_exactly_spans "007d5ms"
  obtain ⟨-, -, -, -, too_long, -, reported⟩ := reads_exactly_spans "584942418y"
  have defect := too_long.2 ⟨ages, ages_made, ages_long⟩
  exact ⟨⟨week_made, week_fits, (accepted _).2 (.inr ⟨week, week_made, week_fits, rfl⟩)⟩,
    ages_made, ages_long, defect, (reported _ defect).2.1 (by decide)⟩

end ErrorBudget.Duration
