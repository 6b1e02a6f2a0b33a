/-
  ErrorBudget.Proofs.Tickets.Stranding

  Alerts that are left without a series when tickets are turned off. The records
  of the long windows go, whichever alerts look at them; an alert that stays and
  looks at such a window reads a series that is no longer recorded.
-/
import ErrorBudget.Proofs.Generation.Parts
import ErrorBudget.Proofs.Recording
import ErrorBudget.Proofs.Tickets.Projection

namespace ErrorBudget

open Query (Series)

/-! ## What a service is left with -/

/-- An alert reads a series that is recorded with tickets and not without them. -/
def Stranded (full pruned : List RecordingGroup) (a : AlertRule) : Prop :=
  ∃ s ∈ a.series, Recorded full s ∧ ¬ Recorded pruned s

/-- The windows that are no longer recorded when tickets are turned off. -/
def longWindows : List String :=
  ["1d", "2h", "3d"]

/-- Some alert of an indicator stays when tickets are turned off, and looks at a window
    that goes. -/
def Slo.Overlooks (slo : Slo) (o : Objectives) (i : Indicator) : Prop :=
  ∃ e ∈ i.watched o, slo.severityLabel e.1 ≠ "ticket" ∧ ∃ w ∈ e.2, w ∈ longWindows

/-! ## Series that go -/

theorem Schedule.isTicketOnly_iff (w : String) :
    isTicketOnly w = true ↔ w ∈ longWindows := by
  rw [isTicketOnly, List.contains_iff_mem, longWindows]
  simp only [List.mem_cons, List.not_mem_nil, or_false]
  tauto

/-- Windows that go when tickets are turned off have been recorded before. -/
theorem Schedule.mem_buckets_of_isTicketOnly {w : String} (h : isTicketOnly w = true) :
    w ∈ buckets := by
  have listed : ∀ w ∈ longWindows, w ∈ buckets := by decide
  exact listed w ((isTicketOnly_iff w).1 h)

namespace Recording

theorem errorSeries_goes (slo : Slo) (o : Objectives) (service w : String) :
    (Recorded (groups slo o false) (errorSeries service w) ∧
      ¬ Recorded (groups slo o true) (errorSeries service w)) ↔
      slo.errors.hasExpr = true ∧ w ∈ longWindows := by
  rw [recorded_errorSeries, recorded_errorSeries, Bool.false_and, Bool.true_and,
    ← Schedule.isTicketOnly_iff]
  constructor
  · rintro ⟨⟨template, hw, -⟩, gone⟩
    exact ⟨template, Bool.of_not_eq_false fun stays => gone ⟨template, hw, stays⟩⟩
  · rintro ⟨template, goes⟩
    refine ⟨⟨template, Schedule.mem_buckets_of_isTicketOnly goes, rfl⟩, fun stays => ?_⟩
    rw [goes] at stays
    exact Bool.noConfusion stays.2.2

theorem latencySeries_goes (slo : Slo) (o : Objectives) (service le w : String) :
    (Recorded (groups slo o false) (latencySeries service le w) ∧
      ¬ Recorded (groups slo o true) (latencySeries service le w)) ↔
      (slo.latency.hasExpr = true ∧ le ∈ boundaries slo o) ∧ w ∈ longWindows := by
  rw [recorded_latencySeries, recorded_latencySeries, Bool.false_and, Bool.true_and,
    ← Schedule.isTicketOnly_iff]
  constructor
  · rintro ⟨⟨recorded, hw, -⟩, gone⟩
    exact ⟨recorded, Bool.of_not_eq_false fun stays => gone ⟨recorded, hw, stays⟩⟩
  · rintro ⟨recorded, goes⟩
    refine ⟨⟨recorded, Schedule.mem_buckets_of_isTicketOnly goes, rfl⟩, fun stays => ?_⟩
    rw [goes] at stays
    exact Bool.noConfusion stays.2.2

/-- What an alert on errors reads for its windows goes if one of them does. -/
theorem errors_go (slo : Slo) (o : Objectives) (ws : List String) :
    (∃ s ∈ ws.map (errorSeries slo.name),
      Recorded (groups slo o false) s ∧ ¬ Recorded (groups slo o true) s) ↔
      slo.errors.hasExpr = true ∧ ∃ w ∈ ws, w ∈ longWindows := by
  constructor
  · rintro ⟨s, hs, goes⟩
    obtain ⟨w, hw, rfl⟩ := List.mem_map.1 hs
    obtain ⟨template, long⟩ := (errorSeries_goes slo o slo.name w).1 goes
    exact ⟨template, w, hw, long⟩
  · rintro ⟨template, w, hw, long⟩
    exact ⟨errorSeries slo.name w, List.mem_map_of_mem hw,
      (errorSeries_goes slo o slo.name w).2 ⟨template, long⟩⟩

/-- What an alert on latency reads for its windows goes if one of them does, and one of
    the targets is recorded. -/
theorem latency_goes (slo : Slo) (o : Objectives) (ws : List String) :
    (∃ s ∈ o.latency.flatMap fun t => ws.map (latencySeries slo.name t.le),
      Recorded (groups slo o false) s ∧ ¬ Recorded (groups slo o true) s) ↔
      (slo.latency.hasExpr = true ∧ ∃ t ∈ o.latency, t.le ∈ boundaries slo o) ∧
        ∃ w ∈ ws, w ∈ longWindows := by
  constructor
  · rintro ⟨s, hs, goes⟩
    obtain ⟨t, ht, hs⟩ := List.mem_flatMap.1 hs
    obtain ⟨w, hw, rfl⟩ := List.mem_map.1 hs
    obtain ⟨⟨template, recorded⟩, long⟩ := (latencySeries_goes slo o slo.name t.le w).1 goes
    exact ⟨⟨template, t, ht, recorded⟩, w, hw, long⟩
  · rintro ⟨⟨template, t, ht, recorded⟩, w, hw, long⟩
    exact ⟨latencySeries slo.name t.le w,
      List.mem_flatMap.2 ⟨t, ht, List.mem_map_of_mem hw⟩,
      (latencySeries_goes slo o slo.name t.le w).2 ⟨⟨template, recorded⟩, long⟩⟩

end Recording

/-! ## Alerts that stay -/

theorem exists_mem_iff_of_forall₂ {α β : Type} {R : α → β → Prop} {p : α → Prop} {q : β → Prop}
    {as : List α} {bs : List β} (h : List.Forall₂ R as bs)
    (same : ∀ a b, R a b → (p a ↔ q b)) : (∃ a ∈ as, p a) ↔ ∃ b ∈ bs, q b := by
  induction h with
  | nil => simp
  | cons related _ ih => simp [same _ _ related, ih]

/-- An alert stays if the final label of its severity names no ticket. -/
theorem Alerting.isKept_withMetadata {slo : Slo} {a : AlertRule} {severity : Severity}
    {signal : Signal} (h : a.labels = Burn.alertLabels severity signal) :
    isKept true (withMetadata slo a) = true ↔ slo.severityLabel severity ≠ "ticket" := by
  rw [isKept_true, severity_withMetadata h, decide_eq_true_eq, ne_eq, Option.some_inj]

/-- Among alerts of one signal, one that stays is stranded exactly if what it reads for
    one of its windows goes. -/
theorem exists_stranded_of_signal_iff (slo : Slo) {full pruned : List RecordingGroup}
    {signal : Signal}
    {ss : List String → List Series} {goes : Prop} {as : List AlertRule}
    {watched : List (Severity × List String)}
    (reads : List.Forall₂ (AlertRule.Reads signal ss) as watched)
    (series : ∀ ws, (∃ s ∈ ss ws, Recorded full s ∧ ¬ Recorded pruned s) ↔
      goes ∧ ∃ w ∈ ws, w ∈ longWindows) :
    (∃ a ∈ as, Alerting.isKept true (Alerting.withMetadata slo a) = true ∧
      Stranded full pruned (Alerting.withMetadata slo a)) ↔
      goes ∧ ∃ e ∈ watched, slo.severityLabel e.1 ≠ "ticket" ∧
        ∃ w ∈ e.2, w ∈ longWindows := by
  -- labels and annotations are added to an alert, and its expression stays as it is
  have each : ∀ a e, AlertRule.Reads signal ss a e →
      ((Alerting.isKept true (Alerting.withMetadata slo a) = true ∧
        Stranded full pruned (Alerting.withMetadata slo a)) ↔
        (slo.severityLabel e.1 ≠ "ticket" ∧ goes ∧ ∃ w ∈ e.2, w ∈ longWindows)) := by
    rintro a e ⟨labels, read⟩
    have same : (Alerting.withMetadata slo a).series = ss e.2 := read
    rw [Alerting.isKept_withMetadata labels, Stranded, same, series]
  rw [exists_mem_iff_of_forall₂ reads each]
  constructor
  · rintro ⟨e, he, stays, goes, long⟩
    exact ⟨goes, e, he, stays, long⟩
  · rintro ⟨goes, e, he, stays, long⟩
    exact ⟨e, he, stays, goes, long⟩

/-- Turning tickets off leaves an alert without a series that was recorded before exactly
    if an alert that stays looks at one of the windows 1d, 2h and 3d: its ratio is
    recorded then, but no longer over this window. -/
theorem Generator.strands_alert_iff {slo : Slo} {classes : ClassTable} {o : Objectives}
    {full pruned : SloRules} (applies : slo.applicable? classes = some o)
    (with_tickets : generate ⟨.builtin, false⟩ slo classes = .ok full)
    (without_tickets : generate ⟨.builtin, true⟩ slo classes = .ok pruned) :
    (∃ a ∈ pruned.alerts, Stranded full.groups pruned.groups a) ↔
      (slo.errors.hasExpr = true ∧ slo.Overlooks o slo.errors) ∨
      (slo.latency.hasExpr = true ∧ (∃ t ∈ o.latency, t.le ∈ Recording.boundaries slo o) ∧
        slo.Overlooks o slo.latency) := by
  obtain ⟨-, -, -, -, -, -, -, full_groups, -⟩ := exists_batches applies with_tickets
  obtain ⟨methods, errors, latency, errors_named, latency_named, errors_made, latency_made,
    pruned_groups, stay⟩ := exists_batches applies without_tickets
  -- an alert that stays is one on errors or one on latency
  have either (as bs : List AlertRule) (p : AlertRule → Prop) :
      (∃ a ∈ ((as ++ bs).map (Alerting.withMetadata slo)).filter (Alerting.isKept true), p a) ↔
        (∃ a ∈ as, Alerting.isKept true (Alerting.withMetadata slo a) = true ∧
          p (Alerting.withMetadata slo a)) ∨
        ∃ a ∈ bs, Alerting.isKept true (Alerting.withMetadata slo a) = true ∧
          p (Alerting.withMetadata slo a) := by
    simp [List.mem_filter, List.mem_map, or_and_right, exists_or, and_assoc]
  have on_errors := exists_stranded_of_signal_iff slo
    (Alerting.errorBatch_reads errors_named errors_made) (Recording.errors_go slo o)
  have on_latency : (∃ a ∈ Alerting.alertsOf latency,
      Alerting.isKept true (Alerting.withMetadata slo a) = true ∧
        Stranded (Recording.groups slo o false) (Recording.groups slo o true)
          (Alerting.withMetadata slo a)) ↔
      (slo.latency.hasExpr = true ∧ ∃ t ∈ o.latency, t.le ∈ Recording.boundaries slo o) ∧
        slo.Overlooks o slo.latency := by
    -- without targets there is neither an alert nor a boundary
    by_cases no_targets : o.latency = []
    · rw [Alerting.alertsOf_latencyBatch_of_no_targets no_targets latency_made, no_targets]
      simp
    · exact exists_stranded_of_signal_iff slo
        (Alerting.latencyBatch_reads latency_named no_targets latency_made)
        (Recording.latency_goes slo o)
  rw [full_groups, pruned_groups, stay, either, on_errors, on_latency, and_assoc]
  rfl

/-- A page on the errors of a whole day loses its series. -/
theorem Generator.strands_alert_day :
    let slo : Slo :=
      { name := "checkout"
        objectives := { availability := 99.9 }
        errors := { expr := "job:errors:ratio", alertMethod := "simple", alertWindow := "1d" } }
    ∃ full pruned, generate ⟨.builtin, false⟩ slo KeyMap.empty = .ok full ∧
      generate ⟨.builtin, true⟩ slo KeyMap.empty = .ok pruned ∧
      ∃ a ∈ pruned.alerts, Stranded full.groups pruned.groups a := by
  intro slo
  have acceptable : slo.Acceptable slo.objectives :=
    { availability := (by decide : IsShare 99.9)
      targets := fun _ listed => nomatch listed
      windows := by simp [slo]
      methods := by simp [slo]
      errors := ⟨fun _ => ⟨by decide, .inl rfl⟩, fun multi => by simp [slo] at multi⟩
      latency := fun targets => absurd rfl targets }
  have nothing_wrong : slo.faults KeyMap.empty = [] :=
    (slo.faults_eq_nil KeyMap.empty).2 ⟨slo.objectives, rfl, acceptable⟩
  obtain ⟨full, with_tickets⟩ := (reports_generate false slo KeyMap.empty).ok_iff.2 nothing_wrong
  obtain ⟨pruned, without_tickets⟩ :=
    (reports_generate true slo KeyMap.empty).ok_iff.2 nothing_wrong
  have overlooks : slo.Overlooks slo.objectives slo.errors :=
    ⟨(.page, ["1d"]), List.mem_singleton_self _, by decide, "1d", by decide, by decide⟩
  exact ⟨full, pruned, with_tickets, without_tickets,
    (strands_alert_iff rfl with_tickets without_tickets).2 (.inl ⟨rfl, overlooks⟩)⟩

end ErrorBudget
