/-
  ErrorBudget.Proofs.Generation.Methods

  What the registry says in the rules of a service. The names of the two alerting methods are
  looked up once, when the service is prepared. Nothing else of the registry has a say; and
  once the methods were found, neither the registry nor the names have one.
-/
import ErrorBudget.Proofs.Burn.Registry
import ErrorBudget.Proofs.Generation.Report
import ErrorBudget.Generate

namespace ErrorBudget

/-! ## Looking up -/

namespace AlertMethods

/-- An indicator without a name asks the registry for nothing. -/
theorem resolveOne_congr (slo : Slo) {i : Indicator} {r s : Burn.Registry}
    (agree : i.alertMethod ≠ "" → KeyMap.get? r i.alertMethod = KeyMap.get? s i.alertMethod)
    (field : String) : resolveOne slo i r field = resolveOne slo i s field := by
  rw [resolveOne, resolveOne, Indicator.hasAlertMethod]
  by_cases unnamed : i.alertMethod = ""
  · rw [unnamed]
    rfl
  · rw [Burn.Registry.resolve, Burn.Registry.resolve, agree unnamed]

theorem resolve_congr {slo : Slo} {r s : Burn.Registry}
    (agree : ∀ i ∈ [slo.errors, slo.latency], i.alertMethod ≠ "" →
      KeyMap.get? r i.alertMethod = KeyMap.get? s i.alertMethod) :
    resolve slo r = resolve slo s := by
  have errors := resolveOne_congr slo (agree slo.errors (by simp)) "errorRateRecord"
  have latency := resolveOne_congr slo (agree slo.latency (by simp)) "latencyRecord"
  rw [resolve, resolve, errors, latency]

end AlertMethods

/-! ## Building -/

/-- A prepared service with other names for its alerting methods. The methods that were found
    stay. -/
def PreparedSlo.renameMethods (p : PreparedSlo) (errors latency : String) : PreparedSlo :=
  { p with
    slo :=
      { p.slo with
        errors := { p.slo.errors with alertMethod := errors }
        latency := { p.slo.latency with alertMethod := latency } } }

namespace Generator

theorem prepare_congr {slo : Slo} {r s : Burn.Registry}
    (agree : ∀ i ∈ [slo.errors, slo.latency], i.alertMethod ≠ "" →
      KeyMap.get? r i.alertMethod = KeyMap.get? s i.alertMethod)
    (disableTicket : Bool) (classes : ClassTable) :
    prepare ⟨r, disableTicket⟩ slo classes = prepare ⟨s, disableTicket⟩ slo classes := by
  rw [prepare, prepare, AlertMethods.resolve_congr agree]

/-- The rules are built from the methods that were found, whatever they are called now. -/
theorem build_renameMethods (g : Generator) (p : PreparedSlo) (s : Burn.Registry)
    (errors latency : String) :
    build ⟨s, g.disableTicket⟩ (p.renameMethods errors latency) = g.build p := by
  -- a request holds the settings of an indicator, but not the name of its method
  have on_errors : Alerting.errorBatch (p.renameMethods errors latency).slo p.objectives p.methods =
      Alerting.errorBatch p.slo p.objectives p.methods := rfl
  have on_latency :
      Alerting.latencyBatch (p.renameMethods errors latency).slo p.objectives p.methods =
        Alerting.latencyBatch p.slo p.objectives p.methods := rfl
  have alerts :
      Alerting.alerts (p.renameMethods errors latency).slo p.objectives p.methods g.disableTicket =
        Alerting.alerts p.slo p.objectives p.methods g.disableTicket := by
    rw [Alerting.alerts, Alerting.alerts, on_errors, on_latency]
    rfl
  have recorded :
      Recording.groups (p.renameMethods errors latency).slo p.objectives g.disableTicket =
        Recording.groups p.slo p.objectives g.disableTicket := rfl
  calc build ⟨s, g.disableTicket⟩ (p.renameMethods errors latency)
      = (do
          let alerts ← Alerting.alerts (p.renameMethods errors latency).slo p.objectives p.methods
            g.disableTicket
          return ⟨p.slo.name, Recording.groups (p.renameMethods errors latency).slo p.objectives
            g.disableTicket, alerts⟩) := rfl
    _ = (do
          let alerts ← Alerting.alerts p.slo p.objectives p.methods g.disableTicket
          return ⟨p.slo.name, Recording.groups p.slo p.objectives g.disableTicket, alerts⟩) := by
        rw [alerts, recorded]
    _ = g.build p := rfl

/-- A service that was prepared is built from what was prepared. -/
theorem generate_of_prepare {g : Generator} {slo : Slo} {classes : ClassTable} {p : PreparedSlo}
    (prepared : g.prepare slo classes = .ok p) : g.generate slo classes = g.build p := by
  rw [generate, prepared]
  rfl

/-- Whatever methods were registered, from none or from the built-in ones: under a name the
    registry has the method that was registered last under it, only a name that was never
    registered cannot be resolved, and the names are listed once each, in ascending order.
    Of the registry only what it has under the names of a service's methods matters to the
    service; and once the service is prepared, neither the registry nor these names do. -/
theorem registry_resolves_once :
    (∀ (r : Burn.Registry) (ms : List Burn.Method), r.RegisteredBy ms →
      (∀ name,
        KeyMap.get? r name = Burn.lastNamed? ms name ∧
        (∀ m, r.resolve name = .ok m ↔ Burn.lastNamed? ms name = some m) ∧
        ∀ fault, r.resolve name = .error fault ↔
          fault = .unknownMethod name ∧ ∀ m ∈ ms, m.name ≠ name) ∧
      r.names.Pairwise (· < ·) ∧
      ∀ name, name ∈ r.names ↔ ∃ m ∈ ms, m.name = name) ∧
    (∀ (r s : Burn.Registry) (slo : Slo),
      (∀ i ∈ [slo.errors, slo.latency], i.alertMethod ≠ "" →
        KeyMap.get? r i.alertMethod = KeyMap.get? s i.alertMethod) →
      ∀ (disableTicket : Bool) (classes : ClassTable),
        generate ⟨r, disableTicket⟩ slo classes = generate ⟨s, disableTicket⟩ slo classes) ∧
    ∀ (g : Generator) (slo : Slo) (classes : ClassTable) (p : PreparedSlo),
      g.prepare slo classes = .ok p →
      ∀ (s : Burn.Registry) (errors latency : String),
        build ⟨s, g.disableTicket⟩ (p.renameMethods errors latency) = g.generate slo classes := by
  refine ⟨fun r ms registered => ⟨fun name => ?_, r.names_ascending, registered.mem_names_iff⟩,
    fun r s slo agree disableTicket classes => ?_, fun g slo classes p prepared s errors latency => ?_⟩
  · exact ⟨registered.get?_eq name, registered.resolve_eq_ok_iff name,
      registered.resolve_eq_error_iff name⟩
  · -- a generator looks at its registry when it prepares, and not when it builds
    rw [generate, generate, prepare_congr agree]
    rfl
  · rw [generate_of_prepare prepared, build_renameMethods]

/-- A method that makes no alerts replaces a built-in one, and a second one is added that the
    service does not ask for. Renamed after it was prepared, the service has the same rules
    without any registry. -/
theorem registry_resolves_once_replaced :
    let silent : Burn.Method := ⟨"simple", fun _ _ => .ok [], fun _ _ => .ok []⟩
    let r : Burn.Registry := Burn.Registry.builtin.register silent
    let s : Burn.Registry := r.register { silent with name := "alpha" }
    let checkout : Slo :=
      { name := "checkout"
        objectives := { availability := 99.9 }
        errors := { expr := "job:errors:ratio", alertMethod := "simple" } }
    KeyMap.get? r "simple" = some silent ∧ s.names = ["alpha", "multi-window", "simple"] ∧
    r.resolve "alpha" = .error (.unknownMethod "alpha") ∧
    generate ⟨r, false⟩ checkout KeyMap.empty = generate ⟨s, false⟩ checkout KeyMap.empty ∧
    ∃ p, prepare ⟨r, false⟩ checkout KeyMap.empty = .ok p ∧
      build ⟨.none, false⟩ (p.renameMethods "gone" "gone") =
        generate ⟨r, false⟩ checkout KeyMap.empty := by
  intro silent r s checkout
  have registered : r.RegisteredBy (Burn.Method.builtin ++ [silent]) := .register .builtin silent
  obtain ⟨serves, agree, build_eq⟩ := registry_resolves_once
  obtain ⟨by_name, -, -⟩ := serves r _ registered
  have silent_last : Burn.lastNamed? (Burn.Method.builtin ++ [silent]) "simple" = some silent := rfl
  have unknown : ∀ m ∈ Burn.Method.builtin ++ [silent], m.name ≠ "alpha" := by
    simp [Burn.Method.builtin, Burn.Method.simple, Burn.Method.multiWindow, silent]
  have same : ∀ i ∈ [checkout.errors, checkout.latency], i.alertMethod ≠ "" →
      KeyMap.get? r i.alertMethod = KeyMap.get? s i.alertMethod := by
    rw [List.forall_mem_cons, List.forall_mem_singleton]
    refine ⟨fun _ => ?_, fun named => absurd rfl named⟩
    have found : KeyMap.get? s "simple" =
        if "simple" = "alpha" then _ else KeyMap.get? r "simple" := Burn.Registry.get?_register ..
    exact (found.trans (if_neg (by decide))).symm
  have prepares : (prepare ⟨r, false⟩ checkout KeyMap.empty).toOption.isSome = true := by
    decide +kernel
  obtain ⟨p, prepared⟩ := Option.isSome_iff_exists.1 prepares
  have prepared := eq_ok_of_toOption prepared
  exact ⟨(by_name "simple").1.trans silent_last, by decide +kernel,
    ((by_name "alpha").2.2 _).2 ⟨rfl, unknown⟩, agree r s checkout same false KeyMap.empty,
    p, prepared, build_eq ⟨r, false⟩ checkout KeyMap.empty p prepared .none "gone" "gone"⟩

end Generator

end ErrorBudget
