/-
  ErrorBudget.Proofs.Alerting.Raised

  The alerts that an indicator raises: one for each severity that it alerts with, in the
  order of the severities. With one window this is the page alone, with custom windows the
  severities that they are tagged with, and by default both. Every alert has some condition,
  and waits as its method has it.
-/
import ErrorBudget.Proofs.Recording.CustomWindows
import ErrorBudget.Proofs.Tickets.Projection

namespace ErrorBudget

open Burn (BurnWindow)

/-! ## What an indicator asks for -/

/-- Whether an indicator alerts with a severity: with one window it is for pages, and with
    several it is for the severities that they are tagged with, or for both by default. -/
def Indicator.AlertsOn (i : Indicator) (severity : Severity) : Prop :=
  (i.alertMethod = "simple" ∧ severity = .page) ∨
  (i.alertMethod = "multi-window" ∧
    (i.windows = [] ∨ ∃ w ∈ i.windows, w.notification = severity.text))

/-- How long an alert of an indicator waits: with one window as long as it is told to, not
    at all if that is left out, and with several windows not at all. -/
def Indicator.Waits (i : Indicator) (d : Duration) : Prop :=
  (i.alertMethod = "simple" →
    if i.alertWait = "" then d = Duration.zero else Duration.read i.alertWait = .ok d) ∧
  (i.alertMethod = "multi-window" → d = Duration.zero)

/-! ## Alerts of the built-in methods -/

namespace Burn

/-- The alerts on a signal, one for each severity: each has some condition, and waits as
    it should. -/
def Raises (service : String) (signal : Signal) (waits : Duration → Prop) :
    List AlertRule → List Severity → Prop :=
  List.Forall₂ fun a severity => ∃ conditions wait, conditions ≠ [] ∧ waits wait ∧
    a = alertRule service signal severity conditions wait

/-- The alerts on a signal, one for each severity that is asked for, in their order. -/
def RaisesFor (service : String) (signal : Signal) (asked : Severity → Prop)
    (waits : Duration → Prop) (alerts : List AlertRule) : Prop :=
  ∃ severities : List Severity, severities.Sublist Severity.all ∧
    (∀ severity, severity ∈ severities ↔ asked severity) ∧
    Raises service signal waits alerts severities

theorem Raises.names {service : String} {signal : Signal} {waits : Duration → Prop}
    {alerts : List AlertRule} {severities : List Severity}
    (h : Raises service signal waits alerts severities) :
    alerts.map AlertRule.alert = severities.map (alertName service signal) := by
  induction h with
  | nil => rfl
  | cons raised _ ih =>
    obtain ⟨conditions, wait, -, -, rfl⟩ := raised
    rw [List.map_cons, List.map_cons, ih]
    rfl

theorem Raises.exists_of_mem {service : String} {signal : Signal} {waits : Duration → Prop}
    {alerts : List AlertRule} {severities : List Severity}
    (h : Raises service signal waits alerts severities) {a : AlertRule} (ha : a ∈ alerts) :
    ∃ severity ∈ severities, ∃ conditions wait, conditions ≠ [] ∧ waits wait ∧
      a = alertRule service signal severity conditions wait := by
  induction h with
  | nil => cases ha
  | cons raised _ ih =>
    rcases List.mem_cons.1 ha with rfl | ha
    · exact ⟨_, List.mem_cons_self, raised⟩
    · obtain ⟨severity, listed, raised⟩ := ih ha
      exact ⟨severity, List.mem_cons_of_mem _ listed, raised⟩

namespace FixedWindow

theorem raises_errorAlerts {r : Request} {availability : Float} {alerts : List AlertRule}
    (h : errorAlerts r availability = .ok alerts) :
    Raises r.service .error (fun d => wait r.alertWait = .ok d) alerts [.page] := by
  obtain ⟨-, d, waited, rfl⟩ := errorAlerts_eq_ok h
  exact .cons ⟨_, d, List.cons_ne_nil _ _, waited, rfl⟩ .nil

theorem raises_latencyAlerts {r : Request} {targets : List LatencyTarget}
    {alerts : List AlertRule} (ne_nil : targets ≠ [])
    (h : latencyAlerts r targets = .ok alerts) :
    Raises r.service .latency (fun d => wait r.alertWait = .ok d) alerts [.page] := by
  obtain ⟨-, d, waited, rfl⟩ := latencyAlerts_eq_ok h
  have some_condition : targets.map (latencyCondition r) ≠ [] := by simpa using ne_nil
  exact .cons ⟨_, d, some_condition, waited, rfl⟩ .nil

end FixedWindow

namespace MultiWindow

/-- One alert for each row of a table of windows. -/
theorem raises_rows (service : String) (signal : Signal)
    {table : List (Severity × List BurnWindow)}
    {conditions : Severity × List BurnWindow → List Condition}
    (some_condition : ∀ e ∈ table, conditions e ≠ []) :
    Raises service signal (· = Duration.zero)
      (table.map fun e => alertRule service signal e.1 (conditions e) Duration.zero)
      (table.map Prod.fst) := by
  rw [Raises, List.forall₂_map_left_iff, List.forall₂_map_right_iff, List.forall₂_same]
  exact fun e he => ⟨conditions e, Duration.zero, some_condition e he, rfl, rfl⟩

theorem raises_errorAlerts {r : Request} {availability : Float} {alerts : List AlertRule}
    (h : errorAlerts r availability = .ok alerts) :
    ∃ table, burnWindows r.objectiveWindow r.windows r.shortWindow = .ok table ∧
      Raises r.service .error (· = Duration.zero) alerts (table.map Prod.fst) := by
  obtain ⟨table, made, returned⟩ := exists_of_bind_eq_ok h
  obtain rfl := Except.ok.inj returned
  refine ⟨table, made, raises_rows r.service .error fun e he => ?_⟩
  have some_window := (burnWindows_named made e he).1
  simpa using some_window

theorem raises_latencyAlerts {r : Request} {targets : List LatencyTarget}
    {alerts : List AlertRule} (ne_nil : targets ≠ [])
    (h : latencyAlerts r targets = .ok alerts) :
    ∃ table, burnWindows r.objectiveWindow r.windows r.shortWindow = .ok table ∧
      Raises r.service .latency (· = Duration.zero) alerts (table.map Prod.fst) := by
  obtain ⟨table, made, returned⟩ := exists_of_bind_eq_ok h
  obtain rfl := Except.ok.inj returned
  refine ⟨table, made, raises_rows r.service .latency fun e he => ?_⟩
  have some_window := (burnWindows_named made e he).1
  obtain ⟨t, ts, rfl⟩ := List.exists_cons_of_ne_nil ne_nil
  simp [some_window]

end MultiWindow

end Burn

/-! ## Severities of custom windows -/

namespace Burn

theorem tagged_ne_nil_iff (severity : Severity) (windows : List Window) :
    tagged severity windows ≠ [] ↔ ∃ w ∈ windows, w.notification = severity.text := by
  rw [tagged, ne_eq, List.filter_eq_nil_iff]
  simp [Severity.ofTag?_eq_some_iff]

/-- Over a span that is not empty, no custom window is lost. -/
theorem filterMap_ofWindow?_eq_nil {objective : Duration} (h : objective.isZero = false)
    (short : Bool) (windows : List Window) :
    windows.filterMap (BurnWindow.ofWindow? objective short) = [] ↔ windows = [] := by
  refine ⟨fun none_left => List.eq_nil_iff_forall_not_mem.2 fun w hw => ?_, fun none => none ▸ rfl⟩
  obtain ⟨b, burns⟩ := exists_ofWindow? h short w
  rw [List.filterMap_eq_nil_iff.1 none_left w hw] at burns
  cases burns

/-- The rows of the table for custom windows: the severities that some window is tagged
    with, in their order. -/
theorem severities_custom {objective : Duration} {windows : List Window} {short : Bool}
    {table : List (Severity × List BurnWindow)} (custom : windows ≠ [])
    (h : burnWindows objective windows short = .ok table) :
    table.map Prod.fst = Severity.all.filter fun s => !(tagged s windows).isEmpty := by
  rw [burnWindows, if_neg (mt List.isEmpty_iff.1 custom)] at h
  split at h
  · cases h
  · rename_i objective_set
    obtain rfl := Except.ok.inj h
    rw [List.map_filterMap, ← List.filterMap_eq_filter]
    refine List.filterMap_congr fun severity _ => ?_
    have lost := filterMap_ofWindow?_eq_nil (Bool.eq_false_iff.2 objective_set) short
      (tagged severity windows)
    split
    · rename_i none_left
      simp [Option.guard, lost.1 none_left]
    · rename_i some_left
      have some_tagged := mt lost.2 some_left
      simp [Option.guard, some_tagged]

/-- The rows of the table: each severity at most once, in their order, and by default both. -/
theorem severities_burnWindows {objective : Duration} {windows : List Window} {short : Bool}
    {table : List (Severity × List BurnWindow)}
    (h : burnWindows objective windows short = .ok table) :
    (table.map Prod.fst).Sublist Severity.all ∧
      ∀ severity, severity ∈ table.map Prod.fst ↔
        windows = [] ∨ ∃ w ∈ windows, w.notification = severity.text := by
  by_cases default : windows = []
  · rw [burnWindows, if_pos (List.isEmpty_iff.2 default)] at h
    obtain rfl := Except.ok.inj h
    exact ⟨List.Sublist.refl _, fun severity => ⟨fun _ => .inl default, fun _ => severity.mem_all⟩⟩
  · rw [severities_custom default h]
    refine ⟨List.filter_sublist, fun severity => ?_⟩
    rw [List.mem_filter, and_iff_right severity.mem_all, or_iff_right default,
      ← tagged_ne_nil_iff, Bool.not_eq_true', ← Bool.not_eq_true, List.isEmpty_iff]

end Burn

/-! ## Alerts of an indicator -/

namespace Indicator

variable {i : Indicator} {service : String} {signal : Signal} {alerts : List AlertRule}

theorem waits_simple (simple : i.alertMethod = "simple") {d : Duration}
    (h : Burn.FixedWindow.wait i.alertWait = .ok d) : i.Waits d := by
  refine ⟨fun _ => ?_, fun multi => ?_⟩
  · rw [Burn.FixedWindow.wait] at h
    by_cases none_set : i.alertWait = ""
    · rw [if_pos (String.isEmpty_iff.2 none_set)] at h
      rw [if_pos none_set]
      exact (Except.ok.inj h).symm
    · rw [if_neg (mt String.isEmpty_iff.1 none_set)] at h
      rw [if_neg none_set]
      cases read : Duration.read i.alertWait with
      | error defect =>
        rw [read] at h
        cases h
      | ok d' =>
        rw [read] at h
        rw [Except.ok.inj h]
  · rw [simple] at multi
    exact absurd multi (by decide)

theorem waits_multiWindow (multi : i.alertMethod = "multi-window") {d : Duration}
    (h : d = Duration.zero) : i.Waits d := by
  refine ⟨fun simple => ?_, fun _ => h⟩
  rw [multi] at simple
  exact absurd simple (by decide)

theorem alertsOn_simple (simple : i.alertMethod = "simple") (severity : Severity) :
    i.AlertsOn severity ↔ severity = .page := by
  have not_multi : i.alertMethod ≠ "multi-window" := by
    rw [simple]
    decide
  rw [AlertsOn, and_iff_right simple, or_iff_left fun multi => not_multi multi.1]

theorem alertsOn_multiWindow (multi : i.alertMethod = "multi-window") (severity : Severity) :
    i.AlertsOn severity ↔ i.windows = [] ∨ ∃ w ∈ i.windows, w.notification = severity.text := by
  have not_simple : i.alertMethod ≠ "simple" := by
    rw [multi]
    decide
  rw [AlertsOn, and_iff_right multi, or_iff_right fun simple => not_simple simple.1]

theorem raises_simple (simple : i.alertMethod = "simple")
    (h : Burn.Raises service signal (fun d => Burn.FixedWindow.wait i.alertWait = .ok d) alerts
      [.page]) : Burn.RaisesFor service signal i.AlertsOn i.Waits alerts := by
  refine ⟨[.page], by decide, fun severity => ?_, ?_⟩
  · rw [alertsOn_simple simple, List.mem_singleton]
  · exact h.imp fun a severity ⟨conditions, wait, some_condition, waited, made⟩ =>
      ⟨conditions, wait, some_condition, waits_simple simple waited, made⟩

theorem raises_multiWindow (multi : i.alertMethod = "multi-window") {o : Objectives}
    {table : List (Severity × List BurnWindow)}
    (made : Burn.burnWindows o.window i.windows i.shortWindowEnabled = .ok table)
    (h : Burn.Raises service signal (· = Duration.zero) alerts (table.map Prod.fst)) :
    Burn.RaisesFor service signal i.AlertsOn i.Waits alerts := by
  obtain ⟨ordered, mem_iff⟩ := Burn.severities_burnWindows made
  refine ⟨table.map Prod.fst, ordered, fun severity => ?_, ?_⟩
  · rw [mem_iff, alertsOn_multiWindow multi]
  · exact h.imp fun a severity ⟨conditions, wait, some_condition, waited, made⟩ =>
      ⟨conditions, wait, some_condition, waits_multiWindow multi waited, made⟩

theorem raises_unnamed (h : Burn.Method.ofName? i.alertMethod = none) :
    Burn.RaisesFor service signal i.AlertsOn i.Waits [] := by
  obtain ⟨not_simple, not_multi⟩ := Burn.Method.ofName?_eq_none h
  refine ⟨[], List.nil_sublist _, fun severity => ?_, .nil⟩
  simp [AlertsOn, not_simple, not_multi]

end Indicator

namespace Alerting

theorem raises_errorBatch {slo : Slo} {o : Objectives} {methods : AlertMethods}
    {b : Option Batch} (named : methods.errors = Burn.Method.ofName? slo.errors.alertMethod)
    (h : errorBatch slo o methods = .ok b) :
    Burn.RaisesFor slo.name .error slo.errors.AlertsOn slo.errors.Waits (alertsOf b) := by
  cases found : Burn.Method.ofName? slo.errors.alertMethod with
  | none =>
    rw [alertsOf_errorBatch_of_none (named.trans found) h]
    exact Indicator.raises_unnamed found
  | some m =>
    have made := errorBatch_eq_ok (named.trans found) h
    rcases Burn.Method.ofName?_eq_some found with ⟨simple, rfl⟩ | ⟨multi, rfl⟩
    · exact Indicator.raises_simple simple (Burn.FixedWindow.raises_errorAlerts made)
    · obtain ⟨table, watched, raises⟩ := Burn.MultiWindow.raises_errorAlerts made
      exact Indicator.raises_multiWindow multi watched raises

theorem raises_latencyBatch {slo : Slo} {o : Objectives} {methods : AlertMethods}
    {b : Option Batch} (named : methods.latency = Burn.Method.ofName? slo.latency.alertMethod)
    (targets : o.latency ≠ []) (h : latencyBatch slo o methods = .ok b) :
    Burn.RaisesFor slo.name .latency slo.latency.AlertsOn slo.latency.Waits (alertsOf b) := by
  cases found : Burn.Method.ofName? slo.latency.alertMethod with
  | none =>
    rw [alertsOf_latencyBatch_of_none (named.trans found) h]
    exact Indicator.raises_unnamed found
  | some m =>
    have made := latencyBatch_eq_ok (named.trans found) targets h
    rcases Burn.Method.ofName?_eq_some found with ⟨simple, rfl⟩ | ⟨multi, rfl⟩
    · exact Indicator.raises_simple simple (Burn.FixedWindow.raises_latencyAlerts targets made)
    · obtain ⟨table, watched, raises⟩ := Burn.MultiWindow.raises_latencyAlerts targets made
      exact Indicator.raises_multiWindow multi watched raises

end Alerting

end ErrorBudget
