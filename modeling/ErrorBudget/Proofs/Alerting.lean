/-
  ErrorBudget.Proofs.Alerting

  The alerts of a service by what they look at: each has a severity and windows,
  and its expression reads the series of these windows, for latency once for each
  target.
-/
import Mathlib.Data.List.Forall2
import ErrorBudget.Proofs.Burn.Expression
import ErrorBudget.Proofs.Generation.Faults
import ErrorBudget.Proofs.KeyMap

namespace ErrorBudget

open Burn (BurnWindow)
open Query (Meaning Series)

/-! ## Series that are read -/

/-- The series that an alert's expression reads. -/
def AlertRule.series (a : AlertRule) : List Series :=
  ((Query.read? a.expr).map Meaning.allSeries).getD []

/-- The ratio of failed requests of a service over a window. -/
def errorSeries (service window : String) : Series :=
  ⟨"slo:service_errors_total:ratio_rate_" ++ window, [("service", service)]⟩

/-- The ratio of requests of a service within a boundary over a window. -/
def latencySeries (service le window : String) : Series :=
  ⟨"slo:service_latency:ratio_rate_" ++ window, [("le", le), ("service", service)]⟩

/-- The windows of a burn window. -/
def Burn.BurnWindow.names (w : BurnWindow) : List String :=
  w.long :: w.short.toList

/-- What the alerts of an indicator look at: each with its severity and its windows. -/
def Indicator.watched (o : Objectives) (i : Indicator) : List (Severity × List String) :=
  if i.alertMethod = "simple" then [(.page, [i.alertWindow])]
  else if i.alertMethod = "multi-window" then
    match Burn.burnWindows o.window i.windows i.shortWindowEnabled with
    | .ok table => table.map fun e => (e.1, e.2.flatMap BurnWindow.names)
    | .error _ => []
  else []

namespace Burn

theorem allSeries_beyond (r : Relation) (metric : String) (matchers : List (String × String))
    {threshold : Meaning} (h : threshold.allSeries = []) (long : String) (short : Option String) :
    (beyond r metric matchers threshold long short).allSeries =
      (long :: short.toList).map fun w => ⟨metric ++ ":ratio_rate_" ++ w, matchers⟩ := by
  cases short with
  | none => simp [beyond, Meaning.allSeries, h]
  | some window => simp [beyond, Meaning.allSeries, h]

theorem allSeries_fixedErrors (r : Request) (availability : Float) :
    (fixedErrors r availability).allSeries = [errorSeries r.service r.alertWindow] :=
  allSeries_beyond _ _ _ rfl _ none

theorem allSeries_fixedLatency (r : Request) (t : LatencyTarget) :
    (fixedLatency r t).allSeries = [latencySeries r.service t.le r.alertWindow] :=
  allSeries_beyond _ _ _ rfl _ none

theorem allSeries_windowErrors (r : Request) (availability : Float) (w : BurnWindow) :
    (windowErrors r availability w).allSeries = w.names.map (errorSeries r.service) :=
  allSeries_beyond _ _ _ rfl w.long w.short

theorem allSeries_windowLatency (r : Request) (t : LatencyTarget) (w : BurnWindow) :
    (windowLatency r t w).allSeries = w.names.map (latencySeries r.service t.le) :=
  allSeries_beyond _ _ _ rfl w.long w.short

theorem allSeries_foldl_either (ms : List Meaning) (m : Meaning) :
    (ms.foldl Meaning.either m).allSeries = m.allSeries ++ ms.flatMap Meaning.allSeries := by
  induction ms generalizing m with
  | nil => simp
  | cons n ns ih => rw [List.foldl_cons, ih, Meaning.allSeries, List.flatMap_cons, List.append_assoc]

/-- An alert reads the series of its conditions. -/
theorem series_of_means {a : AlertRule} {conditions : List Meaning} (h : Means a conditions) :
    a.series = conditions.flatMap Meaning.allSeries := by
  obtain ⟨m, read, joined⟩ := h
  rw [AlertRule.series, read]
  cases conditions with
  -- there is no alert that says nothing
  | nil => cases joined
  | cons c cs =>
    obtain rfl := Option.some.inj joined
    exact allSeries_foldl_either cs c

end Burn

/-! ## What the built-in methods look at -/

/-- An alert has the labels of its severity, and reads exactly these series. -/
def AlertRule.Reads (signal : Signal) (ss : List String → List Series) (a : AlertRule)
    (e : Severity × List String) : Prop :=
  a.labels = Burn.alertLabels e.1 signal ∧ a.series = ss e.2

namespace Burn

theorem FixedWindow.reads_errorAlerts {r : Request} {availability : Float}
    {alerts : List AlertRule} (h : errorAlerts r availability = .ok alerts) :
    List.Forall₂ (AlertRule.Reads .error fun ws => ws.map (errorSeries r.service)) alerts
      [(.page, [r.alertWindow])] := by
  obtain ⟨a, rfl, labels, means⟩ := means_errorAlerts h
  refine .cons ⟨labels, ?_⟩ .nil
  rw [series_of_means means, List.flatMap_singleton, allSeries_fixedErrors]
  rfl

theorem FixedWindow.reads_latencyAlerts {r : Request} {targets : List LatencyTarget}
    {alerts : List AlertRule} (ne_nil : targets ≠ [])
    (h : latencyAlerts r targets = .ok alerts) :
    List.Forall₂ (AlertRule.Reads .latency fun ws =>
        targets.flatMap fun t => ws.map (latencySeries r.service t.le)) alerts
      [(.page, [r.alertWindow])] := by
  obtain ⟨a, rfl, labels, means⟩ := means_latencyAlerts ne_nil h
  refine .cons ⟨labels, ?_⟩ .nil
  rw [series_of_means means, List.flatMap_map]
  simp only [allSeries_fixedLatency]
  rfl

theorem MultiWindow.reads_errorAlerts {r : Request} {availability : Float}
    {alerts : List AlertRule} (h : errorAlerts r availability = .ok alerts) :
    ∃ table, burnWindows r.objectiveWindow r.windows r.shortWindow = .ok table ∧
      List.Forall₂ (AlertRule.Reads .error fun ws => ws.map (errorSeries r.service)) alerts
        (table.map fun e => (e.1, e.2.flatMap BurnWindow.names)) := by
  obtain ⟨table, watched, -⟩ := exists_of_bind_eq_ok h
  obtain ⟨alerts', made, means⟩ := means_errorAlerts watched availability
  -- the alerts that are known to mean something are the ones that were made
  obtain rfl : alerts' = alerts := Except.ok.inj (made.symm.trans h)
  refine ⟨table, watched, List.forall₂_map_right_iff.2 (means.imp fun a e h => ⟨h.1, ?_⟩)⟩
  rw [series_of_means h.2, List.flatMap_map]
  simp only [allSeries_windowErrors, List.map_flatMap]

theorem MultiWindow.reads_latencyAlerts {r : Request} {targets : List LatencyTarget}
    {alerts : List AlertRule} (ne_nil : targets ≠ [])
    (h : latencyAlerts r targets = .ok alerts) :
    ∃ table, burnWindows r.objectiveWindow r.windows r.shortWindow = .ok table ∧
      List.Forall₂ (AlertRule.Reads .latency fun ws =>
          targets.flatMap fun t => ws.map (latencySeries r.service t.le)) alerts
        (table.map fun e => (e.1, e.2.flatMap BurnWindow.names)) := by
  obtain ⟨table, watched, -⟩ := exists_of_bind_eq_ok h
  obtain ⟨alerts', made, means⟩ := means_latencyAlerts watched ne_nil
  obtain rfl : alerts' = alerts := Except.ok.inj (made.symm.trans h)
  refine ⟨table, watched, List.forall₂_map_right_iff.2 (means.imp fun a e h => ⟨h.1, ?_⟩)⟩
  rw [series_of_means h.2, List.flatMap_assoc]
  simp only [List.flatMap_map, allSeries_windowLatency, List.map_flatMap]

end Burn

namespace Indicator

theorem watched_simple {i : Indicator} (h : i.alertMethod = "simple") (o : Objectives) :
    i.watched o = [(.page, [i.alertWindow])] :=
  if_pos h

theorem watched_multiWindow {i : Indicator} (h : i.alertMethod = "multi-window")
    {o : Objectives} {table : List (Severity × List BurnWindow)}
    (made : Burn.burnWindows o.window i.windows i.shortWindowEnabled = .ok table) :
    i.watched o = table.map fun e => (e.1, e.2.flatMap BurnWindow.names) := by
  have not_simple : i.alertMethod ≠ "simple" := by
    rw [h]
    decide
  rw [watched, if_neg not_simple, if_pos h, made]

theorem watched_unnamed {i : Indicator} (h : Burn.Method.ofName? i.alertMethod = none)
    (o : Objectives) : i.watched o = [] := by
  obtain ⟨not_simple, not_multi⟩ := Burn.Method.ofName?_eq_none h
  rw [watched, if_neg not_simple, if_neg not_multi]

end Indicator

/-! ## Batches -/

namespace Alerting

theorem alertsOf_errorBatch_of_none {slo : Slo} {o : Objectives} {methods : AlertMethods}
    {b : Option Batch} (none_named : methods.errors = none)
    (h : errorBatch slo o methods = .ok b) : alertsOf b = [] := by
  rw [errorBatch, none_named] at h
  obtain rfl := Except.ok.inj h
  rfl

theorem alertsOf_latencyBatch_of_none {slo : Slo} {o : Objectives} {methods : AlertMethods}
    {b : Option Batch} (none_named : methods.latency = none)
    (h : latencyBatch slo o methods = .ok b) : alertsOf b = [] := by
  rw [latencyBatch, none_named] at h
  obtain rfl := Except.ok.inj h
  rfl

theorem errorBatch_eq_ok {slo : Slo} {o : Objectives} {methods : AlertMethods} {m : Burn.Method}
    {b : Option Batch} (named : methods.errors = some m)
    (h : errorBatch slo o methods = .ok b) :
    m.errorAlerts (errorRequest slo o) o.availability = .ok (alertsOf b) := by
  rw [errorBatch, named] at h
  cases made : m.errorAlerts (errorRequest slo o) o.availability with
  | error fault =>
    simp only [made, locate] at h
    cases h
  | ok alerts =>
    simp only [made, locate] at h
    obtain rfl := Except.ok.inj h
    rfl

theorem latencyBatch_eq_ok {slo : Slo} {o : Objectives} {methods : AlertMethods}
    {m : Burn.Method} {b : Option Batch} (named : methods.latency = some m)
    (targets : o.latency ≠ []) (h : latencyBatch slo o methods = .ok b) :
    m.latencyAlerts (latencyRequest slo o) o.latency = .ok (alertsOf b) := by
  rw [latencyBatch, named] at h
  simp only [List.isEmpty_iff, if_neg targets] at h
  cases made : m.latencyAlerts (latencyRequest slo o) o.latency with
  | error fault =>
    simp only [made, locate] at h
    cases h
  | ok alerts =>
    simp only [made, locate] at h
    obtain rfl := Except.ok.inj h
    rfl

/-- The alerts on errors, one for each entry of what the indicator looks at. -/
theorem errorBatch_reads {slo : Slo} {o : Objectives} {methods : AlertMethods} {b : Option Batch}
    (named : methods.errors = Burn.Method.ofName? slo.errors.alertMethod)
    (h : errorBatch slo o methods = .ok b) :
    List.Forall₂ (AlertRule.Reads .error fun ws => ws.map (errorSeries slo.name))
      (alertsOf b) (slo.errors.watched o) := by
  cases found : Burn.Method.ofName? slo.errors.alertMethod with
  | none =>
    rw [alertsOf_errorBatch_of_none (named.trans found) h, Indicator.watched_unnamed found]
    exact .nil
  | some m =>
    have made := errorBatch_eq_ok (named.trans found) h
    rcases Burn.Method.ofName?_eq_some found with ⟨simple, rfl⟩ | ⟨multi, rfl⟩
    · rw [Indicator.watched_simple simple]
      exact Burn.FixedWindow.reads_errorAlerts made
    · obtain ⟨table, watched, reads⟩ := Burn.MultiWindow.reads_errorAlerts made
      rw [Indicator.watched_multiWindow multi watched]
      exact reads

/-- The alerts on latency, one for each entry of what the indicator looks at; every target
    has its series. -/
theorem latencyBatch_reads {slo : Slo} {o : Objectives} {methods : AlertMethods}
    {b : Option Batch} (named : methods.latency = Burn.Method.ofName? slo.latency.alertMethod)
    (targets : o.latency ≠ []) (h : latencyBatch slo o methods = .ok b) :
    List.Forall₂ (AlertRule.Reads .latency fun ws =>
        o.latency.flatMap fun t => ws.map (latencySeries slo.name t.le))
      (alertsOf b) (slo.latency.watched o) := by
  cases found : Burn.Method.ofName? slo.latency.alertMethod with
  | none =>
    rw [alertsOf_latencyBatch_of_none (named.trans found) h, Indicator.watched_unnamed found]
    exact .nil
  | some m =>
    have made := latencyBatch_eq_ok (named.trans found) targets h
    rcases Burn.Method.ofName?_eq_some found with ⟨simple, rfl⟩ | ⟨multi, rfl⟩
    · rw [Indicator.watched_simple simple]
      exact Burn.FixedWindow.reads_latencyAlerts targets made
    · obtain ⟨table, watched, reads⟩ := Burn.MultiWindow.reads_latencyAlerts targets made
      rw [Indicator.watched_multiWindow multi watched]
      exact reads

theorem alertsOf_latencyBatch_of_no_targets {slo : Slo} {o : Objectives} {methods : AlertMethods}
    {b : Option Batch} (no_targets : o.latency = []) (h : latencyBatch slo o methods = .ok b) :
    alertsOf b = [] := by
  rw [latencyBatch] at h
  split at h
  · obtain rfl := Except.ok.inj h
    rfl
  · rw [if_pos (List.isEmpty_iff.2 no_targets)] at h
    obtain rfl := Except.ok.inj h
    rfl

end Alerting

/-! ## Labels -/

/-- The severity that an alert of a service is labelled with: the service's labels decide
    over the alert's own. -/
def Slo.severityLabel (slo : Slo) (severity : Severity) : String :=
  (slo.labels.get? "severity").getD severity.text

namespace Alerting

theorem severity_withMetadata {slo : Slo} {a : AlertRule} {severity : Severity}
    {signal : Signal} (h : a.labels = Burn.alertLabels severity signal) :
    (withMetadata slo a).labels.get? "severity" = some (slo.severityLabel severity) := by
  -- whatever the service's labels are, the alert has a severity of its own below them
  have own : a.labels.get? "severity" = some severity.text := by
    rw [h]
    cases severity <;> cases signal <;> rfl
  rw [withMetadata, KeyMap.get?_union, own, Slo.severityLabel]
  cases slo.labels.get? "severity" with
  | none => rfl
  | some text => rfl

end Alerting

end ErrorBudget
