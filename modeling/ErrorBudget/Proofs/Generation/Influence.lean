/-
  ErrorBudget.Proofs.Generation.Influence

  Which settings have a say in the rules of a service. A setting of an alerting method says
  nothing where the method is another one, or where there is none. So services that agree in
  all settings that have a say, and are given objectives that do, have the same rules or
  fail with the same fault.
-/
import ErrorBudget.Proofs.Generation.Isolation

namespace ErrorBudget

/-! ## Settings that have a say -/

/-- Indicators with the same alert settings, as far as their method looks at them. -/
structure Indicator.Alike (i j : Indicator) : Prop where
  method : i.alertMethod = j.alertMethod
  /-- Only the method with several windows makes alerts from them; for any other they just
      have to be in range. -/
  windows : i.windows = j.windows ∨
    i.alertMethod ∈ ["simple", ""] ∧ i.checkWindows = .ok () ∧ j.checkWindows = .ok ()
  shortWindow : i.shortWindow = j.shortWindow ∨ i.alertMethod ∈ ["simple", ""]
  alertWindow : i.alertWindow = j.alertWindow ∨ i.alertMethod ∈ ["multi-window", ""]
  alertWait : i.alertWait = j.alertWait ∨ i.alertMethod ∈ ["multi-window", ""]

/-- Services with the same settings, as far as these have a say in their rules. Of traffic and
    quantiles only the templates have one, and the boundaries of errors have none. -/
structure Slo.Alike (a b : Slo) : Prop where
  name : a.name = b.name
  honorLabels : a.honorLabels = b.honorLabels
  labels : a.labels = b.labels
  annotations : a.annotations = b.annotations
  trafficExpr : a.traffic.expr = b.traffic.expr
  quantilesExpr : a.quantiles.expr = b.quantiles.expr
  errorsExpr : a.errors.expr = b.errors.expr
  latencyExpr : a.latency.expr = b.latency.expr
  latencyBuckets : a.latency.buckets = b.latency.buckets
  errors : a.errors.Alike b.errors
  latency : a.latency.Alike b.latency
  /-- Latency falls back on the burn rate of the errors. -/
  errorsBurnRate : a.errors.burnRate = b.errors.burnRate ∨
    a.errors.alertMethod ≠ "simple" ∧ a.latency.alertMethod ≠ "simple"
  latencyBurnRate : a.latency.burnRate = b.latency.burnRate ∨ a.latency.alertMethod ≠ "simple"

/-- Objectives that say the same to a service. The span that they cover says something to
    custom windows only. -/
structure Objectives.AlikeFor (slo : Slo) (o p : Objectives) : Prop where
  availability : o.availability = p.availability
  latency : o.latency = p.latency
  window : o.window = p.window ∨
    ∀ i ∈ [slo.errors, slo.latency], i.alertMethod = "multi-window" → i.windows = []

/-- Services are given objectives that say the same, or ask for the same class in vain. -/
inductive Slo.GivenAlike (a b : Slo) (t u : ClassTable) : Prop where
  | given {o p : Objectives} (of_a : a.applicable? t = some o) (of_b : b.applicable? u = some p)
      (same : o.AlikeFor a p)
  | missing (of_a : a.applicable? t = none) (of_b : b.applicable? u = none)
      (same : a.className = b.className)

/-! ## What a method looks at -/

namespace Burn

/-- Requests that the method with one window answers alike. -/
structure FixedWindow.Alike (r s : Request) : Prop where
  service : r.service = s.service
  burnRate : r.burnRate = s.burnRate
  alertWindow : r.alertWindow = s.alertWindow
  alertWait : r.alertWait = s.alertWait

theorem FixedWindow.errorAlerts_congr {r s : Request} (h : Alike r s) (availability : Float) :
    errorAlerts r availability = errorAlerts s availability := by
  simp only [errorAlerts, errorCondition, h.service, h.burnRate, h.alertWindow, h.alertWait]

theorem FixedWindow.latencyAlerts_congr {r s : Request} (h : Alike r s)
    (targets : List LatencyTarget) : latencyAlerts r targets = latencyAlerts s targets := by
  have conditions : latencyCondition r = latencyCondition s := by
    funext t
    simp only [latencyCondition, h.service, h.burnRate, h.alertWindow]
  simp only [latencyAlerts, conditions, h.service, h.alertWindow, h.alertWait]

/-- Requests that the method with several windows answers alike: they are worked out to the
    same windows. -/
structure MultiWindow.Alike (r s : Request) : Prop where
  service : r.service = s.service
  windows : burnWindows r.objectiveWindow r.windows r.shortWindow =
    burnWindows s.objectiveWindow s.windows s.shortWindow

theorem MultiWindow.errorAlerts_congr {r s : Request} (h : Alike r s) (availability : Float) :
    errorAlerts r availability = errorAlerts s availability := by
  have conditions : errorCondition r availability = errorCondition s availability := by
    funext w
    simp only [errorCondition, h.service]
  simp only [errorAlerts, conditions, h.service, h.windows]

theorem MultiWindow.latencyAlerts_congr {r s : Request} (h : Alike r s)
    (targets : List LatencyTarget) : latencyAlerts r targets = latencyAlerts s targets := by
  have conditions : latencyCondition r = latencyCondition s := by
    funext t w
    simp only [latencyCondition, h.service]
  simp only [latencyAlerts, conditions, h.service, h.windows]

/-- Without custom windows it does not matter which span the objective covers. -/
theorem burnWindows_congr {x y : Duration} {windows : List Window}
    (h : x = y ∨ windows = []) (short : Bool) :
    burnWindows x windows short = burnWindows y windows short := by
  rcases h with rfl | rfl
  · rfl
  · rfl

end Burn

/-! ## Indicators -/

theorem Indicator.burnRateOverride_congr {i j : Indicator} (h : i.burnRate = j.burnRate) :
    i.burnRateOverride = j.burnRateOverride := by
  rw [burnRateOverride, burnRateOverride, h]

namespace Indicator.Alike

variable {i j : Indicator}

theorem checkWindows_eq (h : i.Alike j) : i.checkWindows = j.checkWindows := by
  rcases h.windows with same | ⟨-, passes, also⟩
  · rw [checkWindows, checkWindows, same]
  · rw [passes, also]

theorem resolveOne_eq (h : i.Alike j) {a b : Slo} (name : a.name = b.name)
    (registry : Burn.Registry) (field : String) :
    AlertMethods.resolveOne a i registry field = AlertMethods.resolveOne b j registry field := by
  rw [AlertMethods.resolveOne, AlertMethods.resolveOne, hasAlertMethod, hasAlertMethod, h.method,
    name]

/-- Requests for the method with one window, if that is the method of the indicators. -/
theorem fixedWindow (h : i.Alike j) (simple : i.alertMethod = "simple") {a b : Slo}
    (name : a.name = b.name) (o p : Objectives) {x y : Option Float} (burnRate : x = y) :
    Burn.FixedWindow.Alike (Alerting.request a o i x) (Alerting.request b p j y) := by
  have not_listed : i.alertMethod ∉ ["multi-window", ""] := by
    rw [simple]
    decide
  exact ⟨name, burnRate, h.alertWindow.resolve_right not_listed,
    h.alertWait.resolve_right not_listed⟩

/-- Requests for the method with several windows, if that is the method of the indicators. -/
theorem multiWindow (h : i.Alike j) (multi : i.alertMethod = "multi-window") {a b : Slo}
    (name : a.name = b.name) {o p : Objectives} (covers : o.window = p.window ∨ i.windows = [])
    (x y : Option Float) :
    Burn.MultiWindow.Alike (Alerting.request a o i x) (Alerting.request b p j y) := by
  have not_listed : i.alertMethod ∉ ["simple", ""] := by
    rw [multi]
    decide
  have windows : i.windows = j.windows := h.windows.resolve_right fun other => not_listed other.1
  have short : i.shortWindowEnabled = j.shortWindowEnabled := by
    rw [shortWindowEnabled, shortWindowEnabled, h.shortWindow.resolve_right not_listed]
  refine ⟨name, ?_⟩
  change Burn.burnWindows o.window i.windows i.shortWindowEnabled =
    Burn.burnWindows p.window j.windows j.shortWindowEnabled
  rw [← windows, ← short]
  exact Burn.burnWindows_congr covers _

end Indicator.Alike

/-! ## Services -/

namespace Slo.Alike

variable {a b : Slo} {o p : Objectives}

theorem resolve_eq (h : a.Alike b) (registry : Burn.Registry) :
    AlertMethods.resolve a registry = AlertMethods.resolve b registry := by
  simp only [AlertMethods.resolve, h.errors.resolveOne_eq h.name, h.latency.resolveOne_eq h.name]

theorem errorBatch_eq (h : a.Alike b) (same : o.AlikeFor a p) {methods : AlertMethods}
    (named : methods.errors = Burn.Method.ofName? a.errors.alertMethod) :
    Alerting.errorBatch a o methods = Alerting.errorBatch b p methods := by
  cases found : Burn.Method.ofName? a.errors.alertMethod with
  | none => rw [Alerting.errorBatch, Alerting.errorBatch, named, found]
  | some m =>
    have answer : m.errorAlerts (Alerting.errorRequest a o) o.availability =
        m.errorAlerts (Alerting.errorRequest b p) p.availability := by
      rw [same.availability]
      rcases Burn.Method.ofName?_eq_some found with ⟨simple, rfl⟩ | ⟨multi, rfl⟩
      · have rate := h.errorsBurnRate.resolve_right fun other => other.1 simple
        exact Burn.FixedWindow.errorAlerts_congr
          (h.errors.fixedWindow simple h.name o p (Indicator.burnRateOverride_congr rate)) _
      · have covers := same.window.imp_right fun none_custom =>
          none_custom _ List.mem_cons_self multi
        exact Burn.MultiWindow.errorAlerts_congr (h.errors.multiWindow multi h.name covers _ _) _
    simp only [Alerting.errorBatch, named, found, answer, Alerting.locate, h.name]

theorem latencyBatch_eq (h : a.Alike b) (same : o.AlikeFor a p) {methods : AlertMethods}
    (named : methods.latency = Burn.Method.ofName? a.latency.alertMethod) :
    Alerting.latencyBatch a o methods = Alerting.latencyBatch b p methods := by
  cases found : Burn.Method.ofName? a.latency.alertMethod with
  | none => rw [Alerting.latencyBatch, Alerting.latencyBatch, named, found]
  | some m =>
    have answer : m.latencyAlerts (Alerting.latencyRequest a o) p.latency =
        m.latencyAlerts (Alerting.latencyRequest b p) p.latency := by
      rcases Burn.Method.ofName?_eq_some found with ⟨simple, rfl⟩ | ⟨multi, rfl⟩
      · -- both burn rates count: the one of the errors if latency has none
        have own := h.latencyBurnRate.resolve_right fun other => other simple
        have fallback := h.errorsBurnRate.resolve_right fun other => other.2 simple
        have rate : a.latency.burnRateOverride.or a.errors.burnRateOverride =
            b.latency.burnRateOverride.or b.errors.burnRateOverride := by
          rw [Indicator.burnRateOverride_congr own, Indicator.burnRateOverride_congr fallback]
        exact Burn.FixedWindow.latencyAlerts_congr
          (h.latency.fixedWindow simple h.name o p rate) _
      · have covers := same.window.imp_right fun none_custom =>
          none_custom _ (List.mem_cons_of_mem _ List.mem_cons_self) multi
        exact Burn.MultiWindow.latencyAlerts_congr
          (h.latency.multiWindow multi h.name covers _ _) _
    rw [Alerting.latencyBatch, Alerting.latencyBatch, named, found, same.latency]
    simp only [answer, Alerting.locate, h.name]

theorem alerts_eq (h : a.Alike b) (same : o.AlikeFor a p) {methods : AlertMethods}
    (resolved : AlertMethods.resolve a .builtin = .ok methods) (disableTicket : Bool) :
    Alerting.alerts a o methods disableTicket = Alerting.alerts b p methods disableTicket := by
  have named := AlertMethods.resolve_eq_ok resolved
  have metadata : Alerting.withMetadata a = Alerting.withMetadata b := by
    funext alert
    rw [Alerting.withMetadata, Alerting.withMetadata, h.labels, h.annotations]
  rw [Alerting.alerts, Alerting.alerts, h.errorBatch_eq same (by rw [named]),
    h.latencyBatch_eq same (by rw [named]), metadata]

theorem groups_eq (h : a.Alike b) (same : o.AlikeFor a p) (disableTicket : Bool) :
    Recording.groups a o disableTicket = Recording.groups b p disableTicket := by
  have labels : Recording.baseLabels a = Recording.baseLabels b := by
    rw [Recording.baseLabels, Recording.baseLabels, h.honorLabels, h.name, h.labels]
  have boundaries : Recording.boundaries a o = Recording.boundaries b p := by
    rw [Recording.boundaries, Recording.boundaries, h.latencyBuckets,
      Objectives.latencyBuckets, Objectives.latencyBuckets, same.latency]
  have traffic : Recording.trafficRules a = Recording.trafficRules b := by
    funext bucket
    rw [Recording.trafficRules, Recording.trafficRules, Indicator.hasExpr, Indicator.hasExpr,
      h.trafficExpr, labels]
  have errors : Recording.errorRules a = Recording.errorRules b := by
    funext bucket
    rw [Recording.errorRules, Recording.errorRules, Indicator.hasExpr, Indicator.hasExpr,
      h.errorsExpr, labels]
  have quantiles : Recording.quantileRules a = Recording.quantileRules b := by
    funext bucket
    rw [Recording.quantileRules, Recording.quantileRules, Indicator.hasExpr, Indicator.hasExpr,
      h.quantilesExpr, labels]
  have latency : Recording.latencyRules a = Recording.latencyRules b := by
    funext les bucket
    rw [Recording.latencyRules, Recording.latencyRules, Indicator.hasExpr, Indicator.hasExpr,
      h.latencyExpr, labels]
  have rules : Recording.bucketRules a = Recording.bucketRules b := by
    funext les bucket
    rw [Recording.bucketRules, Recording.bucketRules, traffic, errors, quantiles, latency]
  have group : Recording.group? a o disableTicket = Recording.group? b p disableTicket := by
    funext sample
    rw [Recording.group?, Recording.group?, boundaries, rules, h.name]
  rw [Recording.groups, Recording.groups, group]

end Slo.Alike

namespace Generator

/-- A step that fails for two services of one name fails with the same fault. -/
theorem locate_congr {α : Type} {a b : Slo} (name : a.name = b.name) (field : String)
    (c : Except Fault α) : locate a field c = locate b field c := by
  cases c with
  | ok x => rfl
  | error fault => rw [locate, locate, name]

/-- With the built-in methods, services that agree in all settings that have a say, and are
    given objectives that say the same, have the same rules or fail with the same fault.
    The settings of a method say nothing where the method is another one or there is none;
    a burn rate says nothing without the method with one window, and the span of the
    objectives nothing without custom windows of the method with several. -/
theorem generate_eq_of_alike (disableTicket : Bool) {a b : Slo} {t u : ClassTable}
    (settings : a.Alike b) (objectives : a.GivenAlike b t u) :
    generate ⟨.builtin, disableTicket⟩ a t = generate ⟨.builtin, disableTicket⟩ b u := by
  cases objectives with
  | missing of_a of_b same =>
    -- nothing else is looked at before the class, and the fault names service and class
    rw [generate, generate, prepare, prepare, resolveObjectives_eq, resolveObjectives_eq, of_a,
      of_b]
    simp only [same, locate_congr settings.name]
    rfl
  | @given o p of_a of_b same =>
    have check : o.check = p.check := by
      rw [Objectives.check, Objectives.check, same.availability, same.latency]
    -- anything is built only with methods that were found
    have built : (AlertMethods.resolve b .builtin >>= fun methods =>
          build ⟨.builtin, disableTicket⟩ ⟨a, o, methods⟩) =
        AlertMethods.resolve b .builtin >>= fun methods =>
          build ⟨.builtin, disableTicket⟩ ⟨b, p, methods⟩ := by
      cases resolved : AlertMethods.resolve b .builtin with
      | error fault => rfl
      | ok methods =>
        change build _ ⟨a, o, methods⟩ = build _ ⟨b, p, methods⟩
        rw [build, build, settings.groups_eq same,
          settings.alerts_eq same ((settings.resolve_eq _).trans resolved), settings.name]
    rw [generate_eq_of_applicable _ of_a, generate_eq_of_applicable _ of_b]
    simp only [check, settings.errors.checkWindows_eq, settings.latency.checkWindows_eq,
      locate_congr settings.name, settings.resolve_eq, built]

/-- Errors are alerted on over one window and latency over several, and each indicator has
    settings of the other's method. The objectives of the class cover a span or none. -/
theorem generate_eq_of_alike_checkout :
    let hour : Duration := ⟨3600000⟩
    let a : Slo :=
      { name := "checkout"
        className := "gold"
        traffic := { expr := "job:requests:rate" }
        errors :=
          { expr := "job:errors:ratio", alertMethod := "simple", alertWindow := "1h"
            burnRate := 2.0, windows := [⟨hour, 5.0, "page"⟩] }
        latency := { expr := "job:latency:ratio", alertMethod := "multi-window" } }
    let b : Slo :=
      { a with
        traffic := { a.traffic with alertMethod := "simple", buckets := ["0.1"] }
        errors := { a.errors with windows := [], shortWindow := some false, buckets := ["0.1"] }
        latency := { a.latency with alertWindow := "22m", alertWait := "soon", burnRate := 3.0 } }
    let gold (span : Duration) : ClassTable :=
      .ofClasses [⟨"gold", { availability := 99.9, latency := [⟨"0.1", 95.0⟩], window := span }⟩]
    a.Alike b ∧ a.GivenAlike b (gold hour) (gold .zero) ∧
    generate ⟨.builtin, true⟩ a (gold hour) = generate ⟨.builtin, true⟩ b (gold .zero) := by
  intro hour a b gold
  have settings : a.Alike b :=
    { name := rfl, honorLabels := rfl, labels := rfl, annotations := rfl, trafficExpr := rfl
      quantilesExpr := rfl, errorsExpr := rfl, latencyExpr := rfl, latencyBuckets := rfl
      errors :=
        { method := rfl
          windows := .inr ⟨by decide, eq_ok_of_toOption (by decide +kernel), rfl⟩
          shortWindow := .inr (by decide), alertWindow := .inl rfl, alertWait := .inl rfl }
      latency :=
        { method := rfl, windows := .inl rfl, shortWindow := .inl rfl
          alertWindow := .inr (by decide), alertWait := .inr (by decide) }
      errorsBurnRate := .inl rfl
      latencyBurnRate := .inr (by decide) }
  have objectives : a.GivenAlike b (gold hour) (gold .zero) :=
    .given rfl rfl ⟨rfl, rfl, .inr (by decide)⟩
  exact ⟨settings, objectives, generate_eq_of_alike true settings objectives⟩

end Generator

end ErrorBudget
