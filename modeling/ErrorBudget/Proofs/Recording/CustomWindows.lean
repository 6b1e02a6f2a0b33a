/-
  ErrorBudget.Proofs.Recording.CustomWindows

  Alerts over custom windows. Custom windows are taken as they are written, and their
  short windows follow from them, while the schedule records seven windows only. The
  alerts find all their windows recorded exactly if the custom windows are four (or,
  without short windows, seven) spans of time.
-/
import ErrorBudget.Proofs.Duration.RoundTrip
import ErrorBudget.Proofs.Generation.Parts
import ErrorBudget.Proofs.Recording

namespace ErrorBudget

open Burn (BurnWindow)
open Query (Series)

/-- Something is recorded under a name. -/
def SloRules.Records (rules : SloRules) (name : String) : Prop :=
  ∃ g ∈ rules.groups, ∃ r ∈ g.rules, r.record = name

/-- All series that the alerts on a signal read have names that are recorded. -/
def SloRules.Legible (rules : SloRules) (service : String) (signal : Signal) : Prop :=
  ∀ a ∈ rules.alerts, a.IsOn service signal → ∀ s ∈ a.series, rules.Records s.name

/-- The spans that a custom window can have so that it and its short window, if it has
    one, are recorded. -/
def Schedule.customSpans (short : Bool) : List Duration :=
  if short then [.of 1 .hour, .of 6 .hour, .of 1 .day, .of 3 .day]
  else [.of 5 .minute, .of 30 .minute, .of 1 .hour, .of 2 .hour, .of 6 .hour, .of 1 .day,
    .of 3 .day]

/-- Every custom window that some severity is tagged with has one of these spans. -/
def Indicator.CustomOnSchedule (i : Indicator) : Prop :=
  ∀ w ∈ i.windows, (Severity.ofTag? w.notification).isSome = true →
    w.duration ∈ Schedule.customSpans i.shortWindowEnabled

/-! ## Spans of the schedule -/

namespace Schedule

/-- A span is recorded if it is one of seven. -/
theorem text_mem_buckets {d : Duration} : d.text ∈ buckets ↔ d ∈ customSpans false := by
  have written : buckets = (customSpans false).map Duration.text := by rfl
  rw [written, List.mem_map_of_injective Duration.text_injective]

/-- A span and its twelfth are both recorded if the span is one of four. -/
theorem mem_customSpans_true {d : Duration} :
    d ∈ customSpans true ↔
      d ∈ customSpans false ∧ ⟨d.millis / Burn.shortDivisor⟩ ∈ customSpans false := by
  have both : ∀ d ∈ customSpans true,
      d ∈ customSpans false ∧ ⟨d.millis / Burn.shortDivisor⟩ ∈ customSpans false := by decide
  have no_others : ∀ d ∈ customSpans false,
      ⟨d.millis / Burn.shortDivisor⟩ ∈ customSpans false → d ∈ customSpans true := by decide
  exact ⟨both d, fun h => no_others d h.1 h.2⟩

end Schedule

/-! ## Windows that are looked at -/

namespace Burn

theorem BurnWindow.names_mem_buckets {objective : Duration} {short : Bool} {w : Window}
    {b : BurnWindow} (h : BurnWindow.ofWindow? objective short w = some b) :
    (∀ n ∈ b.names, n ∈ Schedule.buckets) ↔ w.duration ∈ Schedule.customSpans short := by
  obtain ⟨ratio, -, rfl⟩ := Option.map_eq_some_iff.1 h
  cases short with
  | false => exact List.forall_mem_singleton.trans Schedule.text_mem_buckets
  | true =>
    rw [Schedule.mem_customSpans_true, ← Schedule.text_mem_buckets, ← Schedule.text_mem_buckets]
    exact List.forall_mem_cons.trans (and_congr_right' List.forall_mem_singleton)

/-- The custom windows that are looked at: those that a severity is tagged with. -/
theorem mem_burnWindows_custom {objective : Duration} {windows : List Window} {short : Bool}
    {table : List (Severity × List BurnWindow)} (custom : windows ≠ [])
    (h : burnWindows objective windows short = .ok table) (b : BurnWindow) :
    (∃ e ∈ table, b ∈ e.2) ↔
      ∃ w ∈ windows, (Severity.ofTag? w.notification).isSome = true ∧
        BurnWindow.ofWindow? objective short w = some b := by
  have some_window : ¬ windows.isEmpty = true := fun none => custom (List.isEmpty_iff.1 none)
  rw [burnWindows, if_neg some_window] at h
  split at h
  · cases h
  · obtain rfl := Except.ok.inj h
    constructor
    · rintro ⟨e, he, hb⟩
      obtain ⟨severity, -, he⟩ := List.mem_filterMap.1 he
      split at he
      · cases he
      · obtain rfl := Option.some.inj he
        obtain ⟨w, hw, ofWindow⟩ := List.mem_filterMap.1 hb
        obtain ⟨hw, tag⟩ := List.mem_filter.1 hw
        exact ⟨w, hw, Option.isSome_iff_exists.2 ⟨severity, eq_of_beq tag⟩, ofWindow⟩
    · rintro ⟨w, hw, tag, ofWindow⟩
      obtain ⟨severity, tag⟩ := Option.isSome_iff_exists.1 tag
      have hw : w ∈ tagged severity windows := List.mem_filter.2 ⟨hw, beq_iff_eq.2 tag⟩
      have hb := List.mem_filterMap.2 ⟨w, hw, ofWindow⟩
      refine ⟨(severity, _), List.mem_filterMap.2 ⟨severity, severity.mem_all, ?_⟩, hb⟩
      -- with this window in it, the severity is not left out of the table
      split
      · rename_i none_left
        exact absurd none_left (List.ne_nil_of_mem hb)
      · rfl

/-- Over a span that is not empty, every custom window has a burn rate. -/
theorem exists_ofWindow? {objective : Duration} (h : objective.isZero = false) (short : Bool)
    (w : Window) : ∃ b, BurnWindow.ofWindow? objective short w = some b := by
  rw [BurnWindow.ofWindow?, Duration.ratio?, h, if_neg Bool.false_ne_true]
  exact ⟨_, rfl⟩

end Burn

/-- With custom windows, an indicator looks at windows of the schedule alone exactly if
    the custom windows have the right spans. -/
theorem Indicator.watched_mem_buckets_iff {i : Indicator} {o : Objectives}
    (multi : i.alertMethod = "multi-window") (custom : i.windows ≠ [])
    (objective : o.window.isZero = false) :
    (∀ e ∈ i.watched o, ∀ w ∈ e.2, w ∈ Schedule.buckets) ↔ i.CustomOnSchedule := by
  have some_window : ¬ i.windows.isEmpty = true := fun none => custom (List.isEmpty_iff.1 none)
  obtain ⟨table, made⟩ : ∃ table,
      Burn.burnWindows o.window i.windows i.shortWindowEnabled = .ok table := by
    rw [Burn.burnWindows, if_neg some_window, objective, if_neg Bool.false_ne_true]
    exact ⟨_, rfl⟩
  have looked_at := Burn.mem_burnWindows_custom custom made
  rw [watched_multiWindow multi made, List.forall_mem_map]
  constructor
  · intro listed w hw tag
    obtain ⟨b, ofWindow⟩ := Burn.exists_ofWindow? objective i.shortWindowEnabled w
    obtain ⟨e, he, hb⟩ := (looked_at b).2 ⟨w, hw, tag, ofWindow⟩
    exact (Burn.BurnWindow.names_mem_buckets ofWindow).1 fun n hn =>
      listed e he n (List.mem_flatMap.2 ⟨b, hb, hn⟩)
  · intro scheduled e he n hn
    obtain ⟨b, hb, hn⟩ := List.mem_flatMap.1 hn
    obtain ⟨w, hw, tag, ofWindow⟩ := (looked_at b).1 ⟨e, he, hb⟩
    exact (Burn.BurnWindow.names_mem_buckets ofWindow).2 (scheduled w hw tag) n hn

/-! ## Names that are recorded -/

namespace Recording

theorem records_errors (slo : Slo) (o : Objectives) (w : String) :
    (∃ g ∈ groups slo o false, ∃ r ∈ g.rules,
      r.record = "slo:service_errors_total:ratio_rate_" ++ w) ↔
      slo.errors.hasExpr = true ∧ w ∈ Schedule.buckets := by
  have recorded := exists_errorRule_iff slo o false w fun _ => True
  simpa only [and_true, Bool.false_and] using recorded

theorem records_latency (slo : Slo) (o : Objectives) (w : String) :
    (∃ g ∈ groups slo o false, ∃ r ∈ g.rules,
      r.record = "slo:service_latency:ratio_rate_" ++ w) ↔
      (slo.latency.hasExpr = true ∧ ∃ le, le ∈ boundaries slo o) ∧ w ∈ Schedule.buckets := by
  have recorded := exists_latencyRule_iff slo o false w fun _ => True
  simpa only [and_true, Bool.false_and] using recorded

/-- If there are targets, latency is recorded at some boundary. -/
theorem exists_boundary {slo : Slo} {o : Objectives} (targets : o.latency ≠ []) :
    ∃ le, le ∈ boundaries slo o := by
  refine List.exists_mem_of_ne_nil _ ?_
  rw [boundaries]
  split
  · simpa [Objectives.latencyBuckets] using targets
  · rename_i own
    exact fun none => own (List.isEmpty_iff.2 none)

/-- What an alert reads over windows is recorded if the windows are on the schedule. -/
theorem records_seriesOver_iff {slo : Slo} {o : Objectives} {signal : Signal}
    (template : (slo.indicator signal).hasExpr = true)
    (targets : signal = .latency → o.latency ≠ []) (ws : List String) :
    (∀ s ∈ slo.seriesOver o signal ws,
      ∃ g ∈ groups slo o false, ∃ r ∈ g.rules, r.record = s.name) ↔
      ∀ w ∈ ws, w ∈ Schedule.buckets := by
  cases signal with
  | error =>
    rw [Slo.seriesOver, List.forall_mem_map]
    refine forall₂_congr fun w _ => (records_errors slo o w).trans ?_
    exact and_iff_right template
  | latency =>
    have recorded (le w : String) :
        (∃ g ∈ groups slo o false, ∃ r ∈ g.rules,
          r.record = (latencySeries slo.name le w).name) ↔ w ∈ Schedule.buckets :=
      (records_latency slo o w).trans
        (and_iff_right ⟨template, exists_boundary (targets rfl)⟩)
    obtain ⟨t, ht⟩ := List.exists_mem_of_ne_nil _ (targets rfl)
    constructor
    · intro all w hw
      exact (recorded t.le w).1
        (all _ (List.mem_flatMap.2 ⟨t, ht, List.mem_map_of_mem hw⟩))
    · intro listed s hs
      obtain ⟨u, -, hs⟩ := List.mem_flatMap.1 hs
      obtain ⟨w, hw, rfl⟩ := List.mem_map.1 hs
      exact (recorded u.le w).2 (listed w hw)

end Recording

/-! ## Custom windows -/

namespace Generator

/-- With custom windows, everything that the alerts on a signal read is recorded exactly
    if the custom windows have the spans of the schedule; or if there are no alerts, for
    want of latency targets. -/
theorem legible_custom_iff {slo : Slo} {classes : ClassTable} {o : Objectives}
    {rules : SloRules} (applies : slo.applicable? classes = some o)
    (h : generate ⟨.builtin, false⟩ slo classes = .ok rules) (signal : Signal)
    (template : (slo.indicator signal).hasExpr = true)
    (multi : (slo.indicator signal).alertMethod = "multi-window")
    (custom : (slo.indicator signal).windows ≠ []) :
    rules.Legible slo.name signal ↔
      (signal = .latency ∧ o.latency = []) ∨ (slo.indicator signal).CustomOnSchedule := by
  obtain ⟨o', applies', acceptable⟩ := exists_acceptable h
  obtain rfl : o' = o := Option.some.inj (applies'.symm.trans applies)
  by_cases no_alerts : signal = .latency ∧ o'.latency = []
  · obtain ⟨rfl, no_targets⟩ := no_alerts
    have none_made := latency_alerts_eq_nil applies no_targets h
    refine iff_of_true (fun a ha on => ?_) (.inl ⟨rfl, no_targets⟩)
    exact absurd (decide_eq_true on) (List.filter_eq_nil_iff.1 none_made a ha)
  · have targets : signal = .latency → o'.latency ≠ [] := fun on none => no_alerts ⟨on, none⟩
    have alertable : (slo.indicator signal).Alertable o' := by
      cases signal with
      | error => exact acceptable.errors
      | latency => exact acceptable.latency (targets rfl)
    have objective : o'.window.isZero = false := by
      have covers := (alertable.multiWindow multi).resolve_left custom
      rw [Duration.isZero, beq_eq_false_iff_ne]
      exact fun zero => covers (congrArg Duration.mk zero)
    rw [or_iff_right no_alerts, ← Indicator.watched_mem_buckets_iff multi custom objective,
      SloRules.Legible]
    simp only [SloRules.Records, groups_eq applies h]
    rw [forall_alert_iff applies h signal targets fun ss => ∀ s ∈ ss,
      ∃ g ∈ Recording.groups slo o' false, ∃ r ∈ g.rules, r.record = s.name]
    exact forall₂_congr fun e _ => Recording.records_seriesOver_iff template targets e.2

/-- A page on 45 minutes reads a series that nothing records. -/
theorem not_legible_custom_minutes :
    let slo : Slo :=
      { name := "checkout"
        objectives := { availability := 99.9, window := .of 30 .day }
        errors :=
          { expr := "job:errors:ratio"
            alertMethod := "multi-window"
            windows := [⟨.of 45 .minute, 5.0, "page"⟩] } }
    ∃ rules, generate ⟨.builtin, false⟩ slo KeyMap.empty = .ok rules ∧
      ¬ rules.Legible "checkout" .error := by
  intro slo
  have applies : slo.applicable? KeyMap.empty = some slo.objectives := rfl
  have objective : slo.objectives.window ≠ Duration.zero := by decide
  have acceptable : slo.Acceptable slo.objectives :=
    { availability := (by decide : IsShare 99.9)
      targets := fun _ listed => nomatch listed
      windows := List.forall_mem_cons.2 ⟨List.forall_mem_singleton.2
        ⟨(by decide : IsPositiveShare 5.0), by decide⟩, by simp [slo]⟩
      methods := by simp [slo]
      errors := ⟨fun simple => by simp [slo] at simple, fun _ => .inr objective⟩
      latency := fun targets => absurd rfl targets }
  obtain ⟨rules, made⟩ := exists_rules applies acceptable false
  have iff := legible_custom_iff applies made .error rfl rfl (List.cons_ne_nil _ _)
  refine ⟨rules, made, fun legible => ?_⟩
  rcases iff.1 legible with ⟨other, -⟩ | scheduled
  · cases other
  · have span := scheduled _ (List.mem_singleton_self _) rfl
    exact absurd span (by decide)

end Generator

end ErrorBudget
