/-
  ErrorBudget.Proofs.ClassTable

  A class table as a look-up in the list that it was made from: of several classes
  with one name the first is found. The table has one entry for each name in the list,
  and what has been found once is not hidden by classes that come later.
-/
import Mathlib.Data.Finset.Card
import ErrorBudget.ClassTable
import ErrorBudget.Proofs.KeyMap

namespace ErrorBudget.ClassTable

/-! ## The table as a list -/

/-- Classes that are added are found after those that were there before. -/
theorem get?_foldl_insertNew (cs : List ServiceClass) (t : ClassTable) (name : String) :
    KeyMap.get? (cs.foldl (fun t c => t.insertNew c.name c) t) name =
      (KeyMap.get? t name).or (cs.find? fun c => name = c.name) := by
  induction cs generalizing t with
  | nil => rw [List.foldl_nil, List.find?_nil, Option.or_none]
  | cons c cs ih =>
    rw [List.foldl_cons, ih, KeyMap.get?_insertNew, Option.or_assoc, List.find?_cons]
    by_cases same : name = c.name
    · simp [same]
    · simp [same]

/-- The table of a list finds the first class of a name. -/
theorem get?_ofClasses (cs : List ServiceClass) (name : String) :
    KeyMap.get? (ofClasses cs) name = cs.find? fun c => name = c.name := by
  rw [ofClasses, get?_foldl_insertNew]
  exact Option.none_or

/-- The names in a table are those in the list. -/
theorem mem_keys_ofClasses (cs : List ServiceClass) (name : String) :
    name ∈ KeyMap.keys (ofClasses cs) ↔ name ∈ cs.map (·.name) := by
  rw [KeyMap.mem_keys_iff, get?_ofClasses, ← Option.isSome_iff_exists, List.find?_isSome,
    List.mem_map]
  simp only [decide_eq_true_eq, eq_comm (a := name)]

/-- A table has as many entries as there are different names. -/
theorem size_ofClasses (cs : List ServiceClass) :
    KeyMap.size (ofClasses cs) = (cs.map (·.name)).toFinset.card := by
  have names : (KeyMap.keys (ofClasses cs)).toFinset = (cs.map (·.name)).toFinset := by
    ext name
    rw [List.mem_toFinset, List.mem_toFinset, mem_keys_ofClasses]
  calc KeyMap.size (ofClasses cs)
      = (KeyMap.keys (ofClasses cs)).length := (List.length_map _).symm
    _ = (KeyMap.keys (ofClasses cs)).toFinset.card :=
        (List.toFinset_card_of_nodup (KeyMap.keys_nodup _)).symm
    _ = (cs.map (·.name)).toFinset.card := by rw [names]

/-! ## The first class of a name -/

/-- The first class with a name: all classes before it have other names. -/
def IsFirst (cs : List ServiceClass) (name : String) (c : ServiceClass) : Prop :=
  ∃ before after, cs = before ++ c :: after ∧ c.name = name ∧
    ∀ earlier ∈ before, earlier.name ≠ name

variable {cs : List ServiceClass} {name : String} {c : ServiceClass}

theorem find?_eq_some_iff_isFirst :
    (cs.find? fun c => name = c.name) = some c ↔ IsFirst cs name c := by
  rw [List.find?_eq_some_iff_append, IsFirst]
  constructor
  · rintro ⟨same, before, after, split, others⟩
    refine ⟨before, after, split, (of_decide_eq_true same).symm, ?_⟩
    intro earlier listed clash
    have other := others earlier listed
    rw [clash] at other
    simp at other
  · rintro ⟨before, after, split, same, others⟩
    refine ⟨decide_eq_true same.symm, before, after, split, ?_⟩
    intro earlier listed
    simpa using (others earlier listed).symm

theorem find?_eq_none_iff_unnamed :
    (cs.find? fun c => name = c.name) = none ↔ ∀ c ∈ cs, c.name ≠ name := by
  rw [List.find?_eq_none]
  simp only [decide_eq_true_eq, ne_eq, eq_comm (a := name)]

/-- Classes that come later leave the first one as it is. -/
theorem IsFirst.append (h : IsFirst cs name c) (more : List ServiceClass) :
    IsFirst (cs ++ more) name c := by
  obtain ⟨before, after, rfl, same, others⟩ := h
  exact ⟨before, after ++ more, by simp, same, others⟩

/-! ## Looking up a class -/

/-- No class is what the empty name stands for, whatever is in the table. -/
theorem find_eq_none_iff (t : ClassTable) (name : String) : t.find name = .ok none ↔ name = "" := by
  rw [find]
  split
  · rename_i empty
    simpa using empty
  · rename_i named
    have ne_empty : name ≠ "" := by simpa using named
    split <;> simp [ne_empty]

theorem find_of_named (t : ClassTable) (named : name ≠ "") :
    t.find name = match KeyMap.get? t name with
      | some c => .ok (some c)
      | none => .error (.unknownClass name) := by
  have visible : ¬ name.isEmpty = true := by simpa using named
  exact if_neg visible

theorem find_ofClasses_eq_some_iff :
    find (ofClasses cs) name = .ok (some c) ↔ name ≠ "" ∧ IsFirst cs name c := by
  by_cases empty : name = ""
  · rw [(find_eq_none_iff (ofClasses cs) name).2 empty]
    simp [empty]
  · rw [find_of_named _ empty, get?_ofClasses, ← find?_eq_some_iff_isFirst]
    cases cs.find? fun c => name = c.name with
    | none => simp
    | some d => simp [empty]

/-- The only fault of a look-up is a name that no class has. -/
theorem find_ofClasses_eq_error_iff {fault : Fault} :
    find (ofClasses cs) name = .error fault ↔
      name ≠ "" ∧ (∀ c ∈ cs, c.name ≠ name) ∧ fault = .unknownClass name := by
  by_cases empty : name = ""
  · rw [(find_eq_none_iff (ofClasses cs) name).2 empty]
    simp [empty]
  · rw [find_of_named _ empty, get?_ofClasses, ← find?_eq_none_iff_unnamed]
    cases cs.find? fun c => name = c.name with
    | none => simp [empty, eq_comm]
    | some d => simp

/-- A look-up that succeeds has the same result when more classes follow. -/
theorem find_append_of_ok {found : Option ServiceClass}
    (h : find (ofClasses cs) name = .ok found) (more : List ServiceClass) :
    find (ofClasses (cs ++ more)) name = .ok found := by
  cases found with
  | none => exact (find_eq_none_iff _ name).2 ((find_eq_none_iff _ name).1 h)
  | some c =>
    obtain ⟨named, first⟩ := find_ofClasses_eq_some_iff.1 h
    exact find_ofClasses_eq_some_iff.2 ⟨named, first.append more⟩

/-! ## The objectives that apply -/

theorem resolveObjectives_eq_ok_iff {slo : Slo} {o : Objectives} :
    slo.resolveObjectives (ofClasses cs) = .ok o ↔
      slo.className = "" ∧ o = slo.objectives ∨
        slo.className ≠ "" ∧ ∃ c, IsFirst cs slo.className c ∧ o = c.objectives := by
  rw [Slo.resolveObjectives]
  cases found : find (ofClasses cs) slo.className with
  | error fault =>
    obtain ⟨named, missing, -⟩ := find_ofClasses_eq_error_iff.1 found
    have no_first (c : ServiceClass) : ¬ IsFirst cs slo.className c := by
      rintro ⟨before, after, rfl, same, -⟩
      exact missing c (List.mem_append_right _ List.mem_cons_self) same
    simp [named, no_first]
  | ok result =>
    cases result with
    | none =>
      have empty := (find_eq_none_iff _ _).1 found
      simp [empty, eq_comm]
    | some d =>
      obtain ⟨named, first⟩ := find_ofClasses_eq_some_iff.1 found
      -- there is only one first class
      have unique (c : ServiceClass) (also : IsFirst cs slo.className c) : c = d := by
        have again := find_ofClasses_eq_some_iff.2 ⟨named, also⟩
        exact Option.some.inj (Except.ok.inj (again.symm.trans found))
      constructor
      · intro taken
        exact .inr ⟨named, d, first, (Except.ok.inj taken).symm⟩
      · rintro (⟨empty, -⟩ | ⟨-, c, also, rfl⟩)
        · exact absurd empty named
        · rw [unique c also]

theorem resolveObjectives_eq_error_iff {slo : Slo} {fault : Fault} :
    slo.resolveObjectives (ofClasses cs) = .error fault ↔
      slo.className ≠ "" ∧ (∀ c ∈ cs, c.name ≠ slo.className) ∧
        fault = .unknownClass slo.className := by
  rw [← find_ofClasses_eq_error_iff, Slo.resolveObjectives]
  cases find (ofClasses cs) slo.className with
  | error other => simp
  | ok result => cases result <;> simp

/-! ## The table of a list -/

/-- What a table has to do with the list that it was made from, in which names may be blank
    and may be repeated. -/
structure LooksUpFirst (cs : List ServiceClass) : Prop where
  unnamed_iff : ∀ name, find (ofClasses cs) name = .ok none ↔ name = ""
  found_iff : ∀ name c,
    find (ofClasses cs) name = .ok (some c) ↔ name ≠ "" ∧ IsFirst cs name c
  unknown_iff : ∀ name fault, find (ofClasses cs) name = .error fault ↔
    name ≠ "" ∧ (∀ c ∈ cs, c.name ≠ name) ∧ fault = .unknownClass name
  size_eq : KeyMap.size (ofClasses cs) = (cs.map (·.name)).toFinset.card
  objectives_iff : ∀ (slo : Slo) o, slo.resolveObjectives (ofClasses cs) = .ok o ↔
    slo.className = "" ∧ o = slo.objectives ∨
      slo.className ≠ "" ∧ ∃ c, IsFirst cs slo.className c ∧ o = c.objectives
  no_objectives_iff : ∀ (slo : Slo) fault,
    slo.resolveObjectives (ofClasses cs) = .error fault ↔
      slo.className ≠ "" ∧ (∀ c ∈ cs, c.name ≠ slo.className) ∧
        fault = .unknownClass slo.className
  stable : ∀ more name found, find (ofClasses cs) name = .ok found →
    find (ofClasses (cs ++ more)) name = .ok found

/-- A class table finds the first class of every name, for every list of classes. -/
theorem looks_up_first (cs : List ServiceClass) : LooksUpFirst cs where
  unnamed_iff := find_eq_none_iff (ofClasses cs)
  found_iff _ _ := find_ofClasses_eq_some_iff
  unknown_iff _ _ := find_ofClasses_eq_error_iff
  size_eq := size_ofClasses cs
  objectives_iff _ _ := resolveObjectives_eq_ok_iff
  no_objectives_iff _ _ := resolveObjectives_eq_error_iff
  stable more _ _ := fun found => find_append_of_ok found more

/-- Of two classes with one name, one is in the table, and a blank name is one like others. -/
example :
    KeyMap.keys (ofClasses [⟨"gold", {}⟩, ⟨" ", {}⟩, ⟨"gold", {}⟩]) = [" ", "gold"] := by
  decide

end ErrorBudget.ClassTable
