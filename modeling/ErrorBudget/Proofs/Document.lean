/-
  ErrorBudget.Proofs.Document

  Which documents are accepted: those in which no name of a service or a class is blank,
  and no two services and no two classes have the same name. Any other is refused for the
  first name that does not stand, and for a class only if all services stand.
-/
import ErrorBudget.Document
import ErrorBudget.Proofs.Generation.Report
import ErrorBudget.Proofs.KeyMap

namespace ErrorBudget

/-! ## Names -/

/-- Names that stand: something is to be seen in each, and no two are the same. -/
structure SoundNames (names : List String) : Prop where
  visible : ∀ name ∈ names, IsVisible name
  distinct : names.Nodup

/-- A name does not stand: it is blank, or else it is an old one. -/
inductive Offends (blank : NameFault) (repeated : String → NameFault) (old : String → Prop)
    (name : String) : NameFault → Prop where
  | blank (hidden : ¬ IsVisible name) : Offends blank repeated old name blank
  | repeated (visible : IsVisible name) (known : old name) :
      Offends blank repeated old name (repeated name)

/-- The fault of the first name that does not stand after those before it. -/
def FirstOffence (blank : NameFault) (repeated : String → NameFault) (names : List String)
    (fault : NameFault) : Prop :=
  ∃ before name after, names = before ++ name :: after ∧ SoundNames before ∧
    Offends blank repeated (· ∈ before) name fault

/-- Names are accepted if none is blank, none is repeated, and none was seen before. -/
theorem checkNames_eq_ok_iff (blank : NameFault) (repeated : String → NameFault)
    (seen : KeyMap Unit) (names : List String) :
    checkNames blank repeated seen names = .ok () ↔
      (∀ name ∈ names, IsVisible name) ∧ names.Nodup ∧
        ∀ name ∈ names, seen.contains name = false := by
  induction names generalizing seen with
  | nil => simp [checkNames]
  | cons name names ih =>
    rw [checkNames, List.forall_mem_cons, List.forall_mem_cons, List.nodup_cons]
    by_cases hidden : Text.isBlank name = true
    · have not_visible : ¬ IsVisible name := (isBlank_iff name).1 hidden
      simp [hidden, not_visible]
    · have visible : IsVisible name := not_not.1 fun none => hidden ((isBlank_iff name).2 none)
      rw [if_neg hidden]
      cases old : seen.contains name with
      | true => simp
      | false =>
        rw [if_neg Bool.false_ne_true, ih]
        -- the names after this one are new to what was seen if they are not this one
        have new_iff : (∀ other ∈ names, (seen.insert name ()).contains other = false) ↔
            name ∉ names ∧ ∀ other ∈ names, seen.contains other = false := by
          simp only [KeyMap.contains_insert_eq_false_iff, forall_and, List.forall_mem_ne']
        rw [new_iff]
        tauto

namespace Offends

variable {blank : NameFault} {repeated : String → NameFault} {old known : String → Prop}
  {name : String} {fault other : NameFault}

theorem congr (h : Offends blank repeated old name fault) (same : old name ↔ known name) :
    Offends blank repeated known name fault := by
  cases h with
  | blank hidden => exact .blank hidden
  | repeated visible seen => exact .repeated visible (same.1 seen)

/-- A name has one fault at most. -/
theorem unique (h : Offends blank repeated old name fault)
    (also : Offends blank repeated old name other) : fault = other := by
  cases h with
  | blank hidden =>
    cases also with
    | blank => rfl
    | repeated visible => exact absurd visible hidden
  | repeated visible seen =>
    cases also with
    | blank hidden => exact absurd visible hidden
    | repeated => rfl

end Offends

section Steps

variable {blank : NameFault} {repeated : String → NameFault} {seen : KeyMap Unit}
  {name : String} {fault : NameFault}

/-- A name that does not stand ends the check. -/
theorem checkNames_cons_of_offends
    (h : Offends blank repeated (fun n => seen.contains n = true) name fault)
    (names : List String) : checkNames blank repeated seen (name :: names) = .error fault := by
  rw [checkNames]
  cases h with
  | blank hidden => rw [if_pos ((isBlank_iff name).2 hidden)]
  | repeated visible known =>
    rw [if_neg fun hidden => (isBlank_iff name).1 hidden visible, if_pos known]

/-- A name that stands is passed, and is known from then on. -/
theorem checkNames_cons_of_new (visible : IsVisible name) (new : seen.contains name = false)
    (names : List String) : checkNames blank repeated seen (name :: names) =
      checkNames blank repeated (seen.insert name ()) names := by
  rw [checkNames, if_neg fun hidden => (isBlank_iff name).1 hidden visible, new,
    if_neg Bool.false_ne_true]

/-- A name stands or does not. -/
theorem offends_or_new (blank : NameFault) (repeated : String → NameFault) (seen : KeyMap Unit)
    (name : String) :
    (∃ fault, Offends blank repeated (fun n => seen.contains n = true) name fault) ∨
      IsVisible name ∧ seen.contains name = false := by
  by_cases visible : IsVisible name
  · cases known : seen.contains name with
    | true => exact .inl ⟨_, .repeated visible known⟩
    | false => exact .inr ⟨visible, rfl⟩
  · exact .inl ⟨_, .blank visible⟩

end Steps

/-- Names are refused for the first that is blank, was seen, or is repeated. -/
theorem checkNames_eq_error_iff (blank : NameFault) (repeated : String → NameFault)
    (seen : KeyMap Unit) (names : List String) (fault : NameFault) :
    checkNames blank repeated seen names = .error fault ↔
      ∃ before name after, names = before ++ name :: after ∧
        checkNames blank repeated seen before = .ok () ∧
        Offends blank repeated (fun n => seen.contains n = true ∨ n ∈ before) name fault := by
  induction names generalizing seen with
  | nil => simp [checkNames]
  | cons first names ih =>
    rcases offends_or_new blank repeated seen first with ⟨cause, offends⟩ | ⟨visible, new⟩
    · -- nothing comes before the first name
      rw [checkNames_cons_of_offends offends, Except.error.injEq]
      constructor
      · rintro rfl
        exact ⟨[], first, names, rfl, rfl, offends.congr (by simp)⟩
      · rintro ⟨before, name, after, split, passed, also⟩
        cases before with
        | nil =>
          obtain ⟨rfl, -⟩ := List.cons.inj split
          exact offends.unique (also.congr (by simp))
        | cons =>
          obtain ⟨rfl, -⟩ := List.cons.inj split
          rw [checkNames_cons_of_offends offends] at passed
          cases passed
    · -- the first name is one of those before, and those after it are told by it as well
      have known (before : List String) (name : String) :
          ((seen.insert first ()).contains name = true ∨ name ∈ before) ↔
            seen.contains name = true ∨ name ∈ first :: before := by
        have same := KeyMap.contains_insert_eq_false_iff seen first () name
        rw [← Bool.not_eq_true, ← Bool.not_eq_true] at same
        rw [List.mem_cons]
        tauto
      rw [checkNames_cons_of_new visible new, ih]
      constructor
      · rintro ⟨before, name, after, rfl, passed, offends⟩
        refine ⟨first :: before, name, after, rfl, ?_, offends.congr (known before name)⟩
        rw [checkNames_cons_of_new visible new, passed]
      · rintro ⟨before, name, after, split, passed, offends⟩
        cases before with
        | nil =>
          obtain ⟨rfl, -⟩ := List.cons.inj split
          cases offends with
          | blank hidden => exact absurd visible hidden
          | repeated _ seen => simp [new] at seen
        | cons =>
          obtain ⟨rfl, rfl⟩ := List.cons.inj split
          rw [checkNames_cons_of_new visible new] at passed
          exact ⟨_, name, after, rfl, passed, offends.congr (known _ name).symm⟩

/-! ## Documents -/

/-- A check of names that have nothing before them passes if they stand. -/
theorem checkNames_empty_eq_ok_iff (blank : NameFault) (repeated : String → NameFault)
    (names : List String) :
    checkNames blank repeated .empty names = .ok () ↔ SoundNames names := by
  rw [checkNames_eq_ok_iff]
  simp only [KeyMap.contains_empty, implies_true, and_true]
  exact ⟨fun ⟨visible, distinct⟩ => ⟨visible, distinct⟩, fun h => ⟨h.visible, h.distinct⟩⟩

/-- If they do not, it fails with the fault of the first that does not. -/
theorem checkNames_empty_eq_error_iff (blank : NameFault) (repeated : String → NameFault)
    (names : List String) (fault : NameFault) :
    checkNames blank repeated .empty names = .error fault ↔
      FirstOffence blank repeated names fault := by
  rw [checkNames_eq_error_iff, FirstOffence]
  simp only [checkNames_empty_eq_ok_iff, KeyMap.contains_empty, Bool.false_eq_true, false_or]

namespace Document

theorem check_eq_ok_iff (d : Document) :
    d.check = .ok () ↔
      ((∀ slo ∈ d.slos, IsVisible slo.name) ∧ (d.slos.map Slo.name).Nodup) ∧
      (∀ c ∈ d.classes, IsVisible c.name) ∧ (d.classes.map ServiceClass.name).Nodup := by
  have services := checkNames_eq_ok_iff .blankSlo .repeatedSlo .empty (d.slos.map (·.name))
  have classes := checkNames_eq_ok_iff .blankClass .repeatedClass .empty (d.classes.map (·.name))
  simp only [KeyMap.contains_empty, List.forall_mem_map, implies_true, and_true] at services classes
  rw [check, ← services, ← classes]
  cases checkNames .blankSlo .repeatedSlo .empty (d.slos.map (·.name)) with
  | error fault => simp
  | ok _ =>
    cases checkNames .blankClass .repeatedClass .empty (d.classes.map (·.name)) with
    | error fault => simp
    | ok _ => simp

/-- A document whose names stand. -/
structure Sound (d : Document) : Prop where
  services : SoundNames (d.slos.map Slo.name)
  classes : SoundNames (d.classes.map ServiceClass.name)

theorem check_eq_ok_iff_sound (d : Document) : d.check = .ok () ↔ d.Sound := by
  rw [d.check_eq_ok_iff]
  constructor
  · rintro ⟨⟨visible, distinct⟩, seen, apart⟩
    exact ⟨⟨List.forall_mem_map.2 visible, distinct⟩, ⟨List.forall_mem_map.2 seen, apart⟩⟩
  · intro h
    exact ⟨⟨List.forall_mem_map.1 h.services.visible, h.services.distinct⟩,
      List.forall_mem_map.1 h.classes.visible, h.classes.distinct⟩

/-- A document is refused for the first service whose name does not stand, and for the first
    class if all services do. -/
theorem check_eq_error_iff (d : Document) (fault : Fault) :
    d.check = .error fault ↔ ∃ cause, fault = .names cause ∧
      (FirstOffence .blankSlo .repeatedSlo (d.slos.map Slo.name) cause ∨
        SoundNames (d.slos.map Slo.name) ∧
          FirstOffence .blankClass .repeatedClass (d.classes.map ServiceClass.name) cause) := by
  simp only [← checkNames_empty_eq_error_iff,
    ← checkNames_empty_eq_ok_iff .blankSlo .repeatedSlo]
  rw [check]
  cases checkNames .blankSlo .repeatedSlo .empty (d.slos.map (·.name)) with
  | error cause =>
    simp [eq_comm]
  | ok _ =>
    cases checkNames .blankClass .repeatedClass .empty (d.classes.map (·.name)) with
    | error cause => simp [eq_comm]
    | ok _ => simp

end Document

end ErrorBudget
