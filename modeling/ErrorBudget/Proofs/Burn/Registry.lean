/-
  ErrorBudget.Proofs.Burn.Registry

  What a registry holds after registrations, whatever they were: under every name the method
  that was registered last under it, and nothing under a name that was never registered. The
  names are listed once and in order.
-/
import ErrorBudget.Burn.Method
import ErrorBudget.Proofs.KeyMap

namespace ErrorBudget

namespace Burn

/-- The last of several methods with a name. -/
def lastNamed? (ms : List Method) (name : String) : Option Method :=
  (ms.filter fun m => m.name = name).getLast?

theorem lastNamed?_append_one (ms : List Method) (m : Method) (name : String) :
    lastNamed? (ms ++ [m]) name = if name = m.name then some m else lastNamed? ms name := by
  rw [lastNamed?, lastNamed?, List.filter_append]
  by_cases same : name = m.name
  · have stays : [m].filter (fun m => m.name = name) = [m] := by simp [same]
    rw [if_pos same, stays, List.getLast?_concat]
  · have goes : [m].filter (fun m => m.name = name) = [] := by simp [Ne.symm same]
    rw [if_neg same, goes, List.append_nil]

theorem exists_lastNamed?_iff (ms : List Method) (name : String) :
    (∃ m, lastNamed? ms name = some m) ↔ ∃ m ∈ ms, m.name = name := by
  constructor
  · rintro ⟨m, last⟩
    have listed := List.mem_filter.1 (List.mem_of_getLast? last)
    exact ⟨m, listed.1, of_decide_eq_true listed.2⟩
  · rintro ⟨m, listed, named⟩
    have some_left : (ms.filter fun m => m.name = name) ≠ [] :=
      List.ne_nil_of_mem (List.mem_filter.2 ⟨listed, decide_eq_true named⟩)
    exact ⟨_, List.getLast?_eq_some_getLast some_left⟩

theorem lastNamed?_eq_none_iff (ms : List Method) (name : String) :
    lastNamed? ms name = none ↔ ∀ m ∈ ms, m.name ≠ name := by
  have found := exists_lastNamed?_iff ms name
  rw [← Option.isSome_iff_exists] at found
  rw [← Option.not_isSome_iff_eq_none, found]
  exact ⟨fun none_named m listed named => none_named ⟨m, listed, named⟩,
    fun other ⟨m, listed, named⟩ => other m listed named⟩

namespace Registry

/-! ## Registrations -/

/-- A registry after registrations, from no method or from the built-in ones. The methods are
    listed in the order in which they were registered, the built-in ones included. -/
inductive RegisteredBy : Registry → List Method → Prop where
  | empty : RegisteredBy none []
  | builtin : RegisteredBy builtin Method.builtin
  | register {r : Registry} {ms : List Method} (earlier : RegisteredBy r ms) (m : Method) :
      RegisteredBy (r.register m) (ms ++ [m])

theorem get?_register (r : Registry) (m : Method) (name : String) :
    KeyMap.get? (r.register m) name = if name = m.name then some m else KeyMap.get? r name :=
  KeyMap.get?_insert r m.name m name

/-- If a registry finds the method that was registered last, it does so after one more
    registration. -/
theorem get?_register_eq {r : Registry} {ms : List Method} {name : String}
    (earlier : KeyMap.get? r name = lastNamed? ms name) (m : Method) :
    KeyMap.get? (r.register m) name = lastNamed? (ms ++ [m]) name := by
  rw [get?_register, lastNamed?_append_one, earlier]

namespace RegisteredBy

variable {r : Registry} {ms : List Method}

/-- Under a name stands the method that was registered last under it. -/
theorem get?_eq (h : r.RegisteredBy ms) (name : String) :
    KeyMap.get? r name = lastNamed? ms name := by
  induction h with
  | empty => rfl
  | builtin =>
    -- the built-in methods were registered one after the other
    have no_method : KeyMap.get? none name = lastNamed? [] name := rfl
    exact get?_register_eq (get?_register_eq no_method .simple) .multiWindow
  | register _ m ih => exact get?_register_eq ih m

theorem resolve_eq_ok_iff (h : r.RegisteredBy ms) (name : String) (m : Method) :
    r.resolve name = .ok m ↔ lastNamed? ms name = some m := by
  rw [resolve, h.get?_eq]
  cases lastNamed? ms name with
  | none => simp
  | some last => simp

/-- Only a name that was never registered is not resolved. -/
theorem resolve_eq_error_iff (h : r.RegisteredBy ms) (name : String) (fault : Fault) :
    r.resolve name = .error fault ↔
      fault = .unknownMethod name ∧ ∀ m ∈ ms, m.name ≠ name := by
  rw [← lastNamed?_eq_none_iff, resolve, h.get?_eq]
  cases lastNamed? ms name with
  | none => simp [eq_comm]
  | some last => simp

theorem mem_names_iff (h : r.RegisteredBy ms) (name : String) :
    name ∈ r.names ↔ ∃ m ∈ ms, m.name = name := by
  rw [names, KeyMap.mem_keys_iff, h.get?_eq, exists_lastNamed?_iff]

end RegisteredBy

theorem names_ascending (r : Registry) : r.names.Pairwise (· < ·) :=
  KeyMap.keys_ascending r

end Registry

end Burn

end ErrorBudget
