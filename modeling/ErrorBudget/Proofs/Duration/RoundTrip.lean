/-
  ErrorBudget.Proofs.Duration.RoundTrip

  Spans of time are read back as they were written. The written form has each unit at
  most once and in the order of the units, so that reading unit by unit finds the same
  components; and their lengths add up to the span.
-/
import ErrorBudget.Proofs.Duration.Spelling

namespace ErrorBudget.Duration

open Decimal (digits)

/-! ## Reading what is written -/

/-- A component as it is written: without zeros in front. -/
def Component.part (c : Component) : Part :=
  ⟨digits c.amount, c.unit⟩

theorem Component.component_part (c : Component) : c.part.component = c := by
  rw [part, Part.component, Decimal.ofDigits_digits]

/-- Components whose units stand in the order in which units are read are read back. -/
theorem readComponents?_flatMap_text {units : List Scale} {cs : List Component}
    (h : (cs.map Component.unit).Sublist units) :
    readComponents? units (cs.flatMap Component.text) = some cs := by
  have spelled : Spelled units (cs.map Component.part) := by
    refine ⟨List.forall_mem_map.2 fun c _ => Decimal.isDigits_digits c.amount, ?_⟩
    rw [List.map_map]
    exact h
  have read := readComponents?_flatMap_spelled spelled
  rw [List.flatMap_map, List.map_map] at read
  have same : Part.component ∘ Component.part = id := funext Component.component_part
  rwa [same, List.map_id] at read

/-! ## Writing all of a span -/

theorem decompose_sublist (units : List Scale) (n : Nat) :
    ((decompose units n).map Component.unit).Sublist units := by
  induction units generalizing n with
  | nil => exact List.Sublist.slnil
  | cons unit units ih =>
    rw [decompose]
    split
    · exact (ih _).cons unit
    · exact (ih _).cons_cons unit

/-- What the units before the last leave over is counted in milliseconds. -/
theorem total_decompose (units : List Scale) (n : Nat) :
    total (decompose (units ++ [.millisecond]) n) = n := by
  induction units generalizing n with
  | nil =>
    rw [List.nil_append, decompose, Scale.millis, Nat.div_one]
    split
    · rename_i none_left
      exact none_left.symm
    · simp [decompose, total, Component.millis, Scale.millis]
  | cons unit units ih =>
    have whole := Nat.div_add_mod' n unit.millis
    rw [List.cons_append, decompose]
    split
    · rename_i too_short
      rw [ih]
      rw [too_short] at whole
      omega
    · change n / unit.millis * unit.millis + total (decompose _ _) = n
      rw [ih, whole]

theorem total_decompose_all (n : Nat) : total (decompose Scale.all n) = n :=
  total_decompose [.year, .week, .day, .hour, .minute, .second] n

/-! ## Spans -/

/-- What is written for a span: its components, and for the empty span no seconds. -/
theorem exists_components (d : Duration) :
    ∃ cs : List Component, cs ≠ [] ∧ (cs.map Component.unit).Sublist Scale.all ∧
      d.chars = cs.flatMap Component.text ∧ total cs = d.millis.toNat := by
  by_cases none_left : d.isZero = true
  · refine ⟨[⟨0, .second⟩], List.cons_ne_nil _ _, by simp [Scale.all], ?_, ?_⟩
    · rw [chars, if_pos none_left]
      rfl
    · rw [eq_of_beq none_left]
      rfl
  · have length := total_decompose_all d.millis.toNat
    refine ⟨decompose Scale.all d.millis.toNat, fun none => ?_, decompose_sublist _ _, ?_, length⟩
    · rw [none] at length
      exact none_left (beq_iff_eq.2 (UInt64.toNat_inj.1 length.symm))
    · rw [chars, if_neg none_left]

/-- A span is read back from its written form. -/
theorem read_text (d : Duration) : read d.text = .ok d := by
  obtain ⟨cs, some_written, ordered, written, length⟩ := exists_components d
  -- a unit is written, so the text is not empty and no lone `0`
  obtain ⟨letter, mem, no_digit⟩ : ∃ letter ∈ d.chars, letter.isDigit = false := by
    obtain ⟨c, cs, rfl⟩ := List.exists_cons_of_ne_nil some_written
    obtain ⟨letter, mem⟩ := List.exists_mem_of_ne_nil _ c.unit.suffix_ne_nil
    refine ⟨letter, ?_, Scale.not_isDigit_of_mem_suffix mem⟩
    rw [written, List.flatMap_cons, Component.text]
    exact List.mem_append_left _ (List.mem_append_right _ mem)
  have not_zero : d.chars ≠ ['0'] := by
    intro same
    rw [same, List.mem_singleton] at mem
    rw [mem] at no_digit
    exact Bool.noConfusion no_digit
  have not_empty : d.chars.isEmpty = false :=
    Bool.eq_false_iff.2 fun none => List.ne_nil_of_mem mem (List.isEmpty_iff.1 none)
  have components : readComponents? Scale.all d.chars = some cs := by
    rw [written]
    exact readComponents?_flatMap_text ordered
  have in_range : total cs < Nat.pow 2 64 := length ▸ d.millis.toNat_lt
  rw [read, text, String.toList_ofList, readChars, if_neg not_zero, not_empty,
    if_neg Bool.false_ne_true, components]
  dsimp only
  rw [if_pos in_range, length, ofMillis, UInt64.ofNat_toNat]

/-- Different spans are written differently. -/
theorem text_injective : Function.Injective text := by
  intro d e same
  have read_same : (.ok d : Except Defect Duration) = .ok e := by
    rw [← read_text d, ← read_text e, same]
  exact Except.ok.inj read_same

end ErrorBudget.Duration
