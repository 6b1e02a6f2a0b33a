/-
  ErrorBudget.Proofs.Recording.Coverage

  Alerts whose windows are those of the schedule: one window that is checked, or the
  default table. Whatever such an alert reads is recorded by the same service under the
  same name and with the labels that it is read by, unless the service has other plans
  for these labels.
-/
import ErrorBudget.Proofs.Generation.Parts
import ErrorBudget.Proofs.Recording

namespace ErrorBudget

open Burn (BurnWindow)
open Query (Series)

/-- A rule provides a series if it records under its name and with all labels that the
    series is read by. -/
def RecordingRule.Provides (r : RecordingRule) (s : Series) : Prop :=
  r.record = s.name ∧ ∀ m ∈ s.matchers, r.labels.get? m.1 = some m.2

/-- One of the recording rules provides a series. -/
def SloRules.Provides (rules : SloRules) (s : Series) : Prop :=
  ∃ g ∈ rules.groups, ∃ r ∈ g.rules, r.Provides s

/-- An indicator that is alerted on over windows of the schedule alone. -/
def Indicator.OnSchedule (i : Indicator) : Prop :=
  i.alertMethod = "simple" ∨ (i.alertMethod = "multi-window" ∧ i.windows = [])

/-! ## Windows -/

namespace Indicator

/-- Every alert looks at some window. -/
theorem ne_nil_of_mem_watched {i : Indicator} {o : Objectives} {e : Severity × List String}
    (h : e ∈ i.watched o) : e.2 ≠ [] := by
  rw [watched] at h
  split at h
  · obtain rfl := List.mem_singleton.1 h
    exact List.cons_ne_nil _ _
  · split at h
    · split at h
      · rename_i table made
        obtain ⟨row, listed, rfl⟩ := List.mem_map.1 h
        -- a severity without windows has no row
        obtain ⟨w, ws, row_windows⟩ :=
          List.exists_cons_of_ne_nil (Burn.burnWindows_named made row listed).1
        simp [row_windows, BurnWindow.names]
      · cases h
    · cases h

/-- On schedule, no alert looks at a window that is not recorded. -/
theorem mem_buckets_of_watched {i : Indicator} {o : Objectives} (scheduled : i.OnSchedule)
    (alertable : i.Alertable o) : ∀ e ∈ i.watched o, ∀ w ∈ e.2, w ∈ Schedule.buckets := by
  rcases scheduled with simple | ⟨multi, default⟩
  · rw [watched_simple simple]
    exact List.forall_mem_singleton.2 (List.forall_mem_singleton.2 (alertable.simple simple).1)
  · have made : Burn.burnWindows o.window i.windows i.shortWindowEnabled =
        .ok Burn.defaultWindows := by
      rw [default]
      rfl
    rw [watched_multiWindow multi made]
    decide

end Indicator

/-! ## Labels -/

namespace Recording

theorem get?_service_baseLabels {slo : Slo} (own : slo.honorLabels = false)
    (free : slo.labels.get? "service" = none) :
    (baseLabels slo).get? "service" = some slo.name := by
  rw [baseLabels, own, if_neg Bool.false_ne_true, KeyMap.get?_union, free, Option.none_or,
    KeyMap.get?_insert, if_pos rfl]

theorem provides_errorSeries {slo : Slo} (template : slo.errors.hasExpr = true)
    (own : slo.honorLabels = false) (free : slo.labels.get? "service" = none) (o : Objectives)
    {w : String} (hw : w ∈ Schedule.buckets) :
    ∃ g ∈ groups slo o false, ∃ r ∈ g.rules, r.Provides (errorSeries slo.name w) := by
  have service : ∀ m ∈ [("service", slo.name)], (baseLabels slo).get? m.1 = some m.2 :=
    List.forall_mem_singleton.2 (get?_service_baseLabels own free)
  exact (exists_errorRule_iff slo o false w fun labels =>
    ∀ m ∈ [("service", slo.name)], labels.get? m.1 = some m.2).2 ⟨⟨template, service⟩, hw, rfl⟩

theorem provides_latencySeries {slo : Slo} (template : slo.latency.hasExpr = true)
    (own : slo.honorLabels = false) (free : slo.labels.get? "service" = none) {o : Objectives}
    {le : String} (hle : le ∈ boundaries slo o) {w : String} (hw : w ∈ Schedule.buckets) :
    ∃ g ∈ groups slo o false, ∃ r ∈ g.rules, r.Provides (latencySeries slo.name le w) := by
  have other : "service" ≠ "le" := by decide
  -- the boundary is set last, so not even the service's labels hide it
  have both : ∀ m ∈ [("le", le), ("service", slo.name)],
      ((baseLabels slo).insert "le" le).get? m.1 = some m.2 := by
    refine List.forall_mem_cons.2 ⟨?_, List.forall_mem_singleton.2 ?_⟩
    · rw [KeyMap.get?_insert, if_pos rfl]
    · rw [KeyMap.get?_insert]
      exact (if_neg other).trans (get?_service_baseLabels own free)
  exact (exists_latencyRule_iff slo o false w fun labels =>
    ∀ m ∈ [("le", le), ("service", slo.name)], labels.get? m.1 = some m.2).2
      ⟨⟨template, le, hle, both⟩, hw, rfl⟩

end Recording

/-! ## Series -/

theorem Slo.seriesOver_ne_nil {slo : Slo} {o : Objectives} {signal : Signal}
    (targets : signal = .latency → o.latency ≠ []) {ws : List String} (h : ws ≠ []) :
    slo.seriesOver o signal ws ≠ [] := by
  cases signal with
  | error => simpa [seriesOver] using h
  | latency =>
    obtain ⟨t, ts, first⟩ := List.exists_cons_of_ne_nil (targets rfl)
    simp [seriesOver, first, h]

namespace Generator

/-- An alert on a signal that looks at windows of the schedule reads some series, and
    only series over windows of the schedule. -/
theorem series_on_schedule {slo : Slo} {classes : ClassTable} {o : Objectives}
    {rules : SloRules} (applies : slo.applicable? classes = some o)
    (h : generate ⟨.builtin, false⟩ slo classes = .ok rules) (signal : Signal)
    (targets : signal = .latency → o.latency ≠ [])
    (scheduled : (slo.indicator signal).OnSchedule)
    (alertable : (slo.indicator signal).Alertable o) :
    ∀ a ∈ rules.alerts, a.IsOn slo.name signal →
      a.series ≠ [] ∧ ∃ ws, (∀ w ∈ ws, w ∈ Schedule.buckets) ∧
        a.series = slo.seriesOver o signal ws := by
  refine (forall_alert_iff applies h signal targets fun series =>
    series ≠ [] ∧ ∃ ws, (∀ w ∈ ws, w ∈ Schedule.buckets) ∧
      series = slo.seriesOver o signal ws).2 fun e he => ?_
  have some_window := Indicator.ne_nil_of_mem_watched he
  exact ⟨Slo.seriesOver_ne_nil targets some_window, e.2,
    Indicator.mem_buckets_of_watched scheduled alertable e he, rfl⟩

/-- Every series that an alert reads over a window of the schedule is recorded under its
    name and with the labels that it is read by: for errors if there is a template, and
    for latency if there is one and the boundaries are those of the targets. -/
theorem scheduled_series_provided {slo : Slo} {classes : ClassTable} {rules : SloRules}
    (h : generate ⟨.builtin, false⟩ slo classes = .ok rules)
    (own : slo.honorLabels = false) (free : slo.labels.get? "service" = none) :
    (∀ a ∈ rules.alerts, ∃ signal, a.IsOn slo.name signal) ∧
    (slo.errors.hasExpr = true → slo.errors.OnSchedule →
      ∀ a ∈ rules.alerts, a.IsOn slo.name .error →
        a.series ≠ [] ∧ ∀ s ∈ a.series, (∃ w, s = errorSeries slo.name w) ∧ rules.Provides s) ∧
    (slo.latency.hasExpr = true → slo.latency.buckets = [] → slo.latency.OnSchedule →
      ∀ a ∈ rules.alerts, a.IsOn slo.name .latency →
        a.series ≠ [] ∧
          ∀ s ∈ a.series, (∃ le w, s = latencySeries slo.name le w) ∧ rules.Provides s) := by
  obtain ⟨o, applies, acceptable⟩ := exists_acceptable h
  have groups := groups_eq applies h
  refine ⟨fun a ha => exists_isOn h ha, fun template scheduled a ha on => ?_,
    fun template no_override scheduled a ha on => ?_⟩
  · obtain ⟨some_series, ws, recorded, reads⟩ :=
      series_on_schedule applies h .error (fun e => nomatch e) scheduled acceptable.errors a ha on
    refine ⟨some_series, fun s hs => ?_⟩
    rw [reads] at hs
    obtain ⟨w, hw, rfl⟩ := List.mem_map.1 hs
    refine ⟨⟨w, rfl⟩, ?_⟩
    rw [SloRules.Provides, groups]
    exact Recording.provides_errorSeries template own free o (recorded w hw)
  · have targets : o.latency ≠ [] := by
      intro no_targets
      have none_made := latency_alerts_eq_nil applies no_targets h
      exact List.filter_eq_nil_iff.1 none_made a ha (decide_eq_true on)
    obtain ⟨some_series, ws, recorded, reads⟩ :=
      series_on_schedule applies h .latency (fun _ => targets) scheduled
        (acceptable.latency targets) a ha on
    refine ⟨some_series, fun s hs => ?_⟩
    rw [reads] at hs
    obtain ⟨t, ht, hs⟩ := List.mem_flatMap.1 hs
    obtain ⟨w, hw, rfl⟩ := List.mem_map.1 hs
    -- without boundaries of its own, the indicator is recorded at those of the targets
    have boundary : t.le ∈ Recording.boundaries slo o := by
      rw [Recording.boundaries, no_override]
      exact List.mem_map_of_mem ht
    refine ⟨⟨t.le, w, rfl⟩, ?_⟩
    rw [SloRules.Provides, groups]
    exact Recording.provides_latencySeries template own free boundary (recorded w hw)

/-- Two targets, alerted on by the default table: what a latency alert reads is recorded. -/
theorem scheduled_series_provided_targets :
    let slo : Slo :=
      { name := "checkout"
        objectives := { availability := 99.9, latency := [⟨"0.1", 95.0⟩, ⟨"0.5", 99.0⟩] }
        errors := { expr := "job:errors:ratio", alertMethod := "simple", alertWindow := "6h" }
        latency := { expr := "job:latency:ratio", alertMethod := "multi-window" } }
    slo.honorLabels = false ∧ slo.labels.get? "service" = none ∧
    ∃ rules, generate ⟨.builtin, false⟩ slo KeyMap.empty = .ok rules ∧
      ∃ a ∈ rules.alerts, a.IsOn "checkout" .latency ∧ a.series ≠ [] ∧
        ∀ s ∈ a.series, (∃ le w, s = latencySeries "checkout" le w) ∧ rules.Provides s := by
  intro slo
  have applies : slo.applicable? KeyMap.empty = some slo.objectives := rfl
  have acceptable : slo.Acceptable slo.objectives :=
    { availability := (by decide : IsShare 99.9)
      targets := List.forall_mem_cons.2 ⟨⟨⟨'0', by simp, rfl⟩, by decide⟩,
        List.forall_mem_singleton.2 ⟨⟨'0', by simp, rfl⟩, by decide⟩⟩
      windows := by simp [slo]
      methods := by simp [slo]
      errors := ⟨fun _ => ⟨by decide, .inl rfl⟩, fun multi => by simp [slo] at multi⟩
      latency := fun _ => ⟨fun simple => by simp [slo] at simple, fun _ => .inl rfl⟩ }
  obtain ⟨rules, made⟩ := exists_rules applies acceptable false
  -- the default table has a row for pages, so there is an alert to look at
  have watched : slo.latency.watched slo.objectives =
      [(.page, ["1h", "5m", "6h", "30m"]), (.ticket, ["1d", "2h", "3d", "6h"])] := rfl
  have reads := alerts_read applies made .latency fun _ => List.cons_ne_nil _ _
  rw [show slo.indicator .latency = slo.latency from rfl, watched] at reads
  obtain ⟨a, others, -, -, listed⟩ := List.forall₂_cons_right_iff.1 reads
  have first : a ∈ rules.alerts.filter fun a => a.IsOn slo.name .latency := by
    rw [listed]
    exact List.mem_cons_self
  obtain ⟨ha, on⟩ := List.mem_filter.1 first
  obtain ⟨-, -, latency⟩ := scheduled_series_provided made rfl rfl
  exact ⟨rfl, rfl, rules, made, a, ha, of_decide_eq_true on,
    latency rfl rfl (.inr ⟨rfl, rfl⟩) a ha (of_decide_eq_true on)⟩

end Generator

end ErrorBudget
