/-
  ErrorBudget.Proofs.Generation.Acceptance

  Which services have rules. The requirements are all met exactly if nothing is
  wrong with the service; so its rules are made if they are, and else the first
  requirement that is not met is the fault.
-/
import ErrorBudget.Proofs.Generation.Faults

namespace ErrorBudget

/-! ## Requirements -/

/-- An indicator from which its alerting method can make alerts. -/
structure Indicator.Alertable (o : Objectives) (i : Indicator) : Prop where
  simple : i.alertMethod = "simple" →
    i.alertWindow ∈ sampleWindows ∧
      (i.alertWait = "" ∨ ∃ d, Duration.read i.alertWait = .ok d)
  multiWindow : i.alertMethod = "multi-window" → i.windows = [] ∨ o.window ≠ Duration.zero

/-- A service that has rules, given the objectives that apply to it. -/
structure Slo.Acceptable (slo : Slo) (o : Objectives) : Prop where
  availability : IsShare o.availability
  targets : ∀ t ∈ o.latency, IsVisible t.le ∧ IsShare t.target
  windows : ∀ i ∈ [slo.errors, slo.latency], ∀ w ∈ i.windows,
    IsPositiveShare w.consumption ∧ w.duration ≠ Duration.zero
  methods : ∀ i ∈ [slo.errors, slo.latency], i.alertMethod ∈ ["", "simple", "multi-window"]
  errors : slo.errors.Alertable o
  latency : o.latency ≠ [] → slo.latency.Alertable o

/-! ## Nothing is wrong -/

theorem located_eq_nil {slo : Slo} {field : String} {fs : List Fault} :
    located slo field fs = [] ↔ fs = [] :=
  List.map_eq_nil_iff

theorem Objectives.faults_eq_nil (o : Objectives) :
    o.faults = [] ↔ IsShare o.availability ∧ ∀ t ∈ o.latency, IsVisible t.le ∧ IsShare t.target := by
  rw [faults, List.append_eq_nil_iff, require_eq_nil, List.flatMap_eq_nil_iff]
  simp only [LatencyTarget.faults, List.append_eq_nil_iff, require_eq_nil]

theorem Indicator.windowFaults_eq_nil (i : Indicator) :
    i.windowFaults = [] ↔
      ∀ w ∈ i.windows, IsPositiveShare w.consumption ∧ w.duration ≠ Duration.zero := by
  rw [windowFaults, List.flatMap_eq_nil_iff]
  simp only [Window.faults, List.append_eq_nil_iff, require_eq_nil]
  constructor
  · intro h w hw
    -- the fault of a window tells its index, so the window is looked up with it
    obtain ⟨index, listed⟩ := List.getElem?_of_mem hw
    exact h (w, index) (List.mk_mem_zipIdx_iff_getElem?.2 listed)
  · intro h e he
    exact h e.1 (List.fst_mem_of_mem_zipIdx he)

theorem waitFaults_eq_nil (text : String) :
    waitFaults text = [] ↔ text = "" ∨ ∃ d, Duration.read text = .ok d := by
  rw [waitFaults]
  by_cases none_set : text = ""
  · simp [none_set]
  · rw [if_neg none_set]
    cases Duration.read text with
    | ok d => simp
    | error defect => simp [none_set]

theorem Indicator.alertFaults_eq_nil (slo : Slo) (block : String) (o : Objectives)
    (i : Indicator) : i.alertFaults slo block o = [] ↔ i.Alertable o := by
  rw [alertFaults]
  by_cases simple : i.alertMethod = "simple"
  · have not_multi : i.alertMethod ≠ "multi-window" := by
      rw [simple]
      decide
    rw [if_pos simple, List.append_eq_nil_iff, located_eq_nil, located_eq_nil, require_eq_nil,
      waitFaults_eq_nil]
    exact ⟨fun h => ⟨fun _ => h, fun multi => absurd multi not_multi⟩, fun h => h.simple simple⟩
  · rw [if_neg simple]
    by_cases multi : i.alertMethod = "multi-window"
    · rw [if_pos multi, located_eq_nil, require_eq_nil]
      exact ⟨fun h => ⟨fun is_simple => absurd is_simple simple, fun _ => h⟩,
        fun h => h.multiWindow multi⟩
    · rw [if_neg multi]
      exact ⟨fun _ => ⟨fun h => absurd h simple, fun h => absurd h multi⟩, fun _ => rfl⟩

/-- Nothing is wrong with a service exactly if it meets all requirements. -/
theorem Slo.faults_eq_nil (slo : Slo) (classes : ClassTable) :
    slo.faults classes = [] ↔ ∃ o, slo.applicable? classes = some o ∧ slo.Acceptable o := by
  rw [faults]
  cases slo.applicable? classes with
  | none => simp [located]
  | some o =>
    -- without targets nothing about latency alerts is required
    have latency : (if o.latency = [] then [] else
        slo.latency.alertFaults slo "latencyRecord" o) = [] ↔
          (o.latency ≠ [] → slo.latency.Alertable o) := by
      by_cases no_targets : o.latency = []
      · simp [no_targets]
      · simp [no_targets, Indicator.alertFaults_eq_nil]
    simp only [List.append_eq_nil_iff, located_eq_nil, Objectives.faults_eq_nil,
      Indicator.windowFaults_eq_nil, Indicator.methodFaults, require_eq_nil,
      Indicator.alertFaults_eq_nil, latency, Option.some_inj, exists_eq_left']
    constructor
    · rintro ⟨⟨⟨⟨⟨⟨⟨availability, targets⟩, ew⟩, lw⟩, em⟩, lm⟩, errors⟩, latency⟩
      exact ⟨availability, targets, List.forall_mem_cons.2 ⟨ew, List.forall_mem_singleton.2 lw⟩,
        List.forall_mem_cons.2 ⟨em, List.forall_mem_singleton.2 lm⟩, errors, latency⟩
    · intro h
      have windows := h.windows
      have methods := h.methods
      rw [List.forall_mem_cons, List.forall_mem_singleton] at windows methods
      exact ⟨⟨⟨⟨⟨⟨⟨h.availability, h.targets⟩, windows.1⟩, windows.2⟩, methods.1⟩, methods.2⟩,
        h.errors⟩, h.latency⟩

/-- With the built-in methods, rules are made exactly for services that meet all
    requirements, and any other service fails with its first fault. -/
theorem Generator.generate_ok_or_first_fault (disableTicket : Bool) (slo : Slo)
    (classes : ClassTable) :
    ((∃ rules, generate ⟨.builtin, disableTicket⟩ slo classes = .ok rules) ↔
      ∃ o, slo.applicable? classes = some o ∧ slo.Acceptable o) ∧
    ∀ fault, generate ⟨.builtin, disableTicket⟩ slo classes = .error fault ↔
      (slo.faults classes).head? = some fault := by
  have report := reports_generate disableTicket slo classes
  exact ⟨report.ok_iff.trans (slo.faults_eq_nil classes), report.error_iff⟩

end ErrorBudget
