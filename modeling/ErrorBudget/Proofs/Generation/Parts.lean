/-
  ErrorBudget.Proofs.Generation.Parts

  The parts that the rules of a service are made of: its recording groups, and for each
  signal the alerts on it. With tickets there is one alert for each entry of what the
  signal's indicator looks at, and it reads the series of this entry.
-/
import ErrorBudget.Proofs.Alerting.Signal
import ErrorBudget.Proofs.Generation.Acceptance

namespace ErrorBudget

open Query (Series)

/-- How the ratio of a signal is measured and alerted on. -/
def Slo.indicator (slo : Slo) : Signal → Indicator
  | .error => slo.errors
  | .latency => slo.latency

/-- The series of a signal over windows: for latency, those of all targets. -/
def Slo.seriesOver (slo : Slo) (o : Objectives) : Signal → List String → List Series
  | .error, ws => ws.map (errorSeries slo.name)
  | .latency, ws => o.latency.flatMap fun t => ws.map (latencySeries slo.name t.le)

theorem forall_mem_iff_of_forall₂ {α β : Type} {R : α → β → Prop} {p : α → Prop} {q : β → Prop}
    {as : List α} {bs : List β} (h : List.Forall₂ R as bs)
    (same : ∀ a b, R a b → (p a ↔ q b)) : (∀ a ∈ as, p a) ↔ ∀ b ∈ bs, q b := by
  induction h with
  | nil => exact ⟨fun _ => List.forall_mem_nil q, fun _ => List.forall_mem_nil p⟩
  | cons related _ ih => rw [List.forall_mem_cons, List.forall_mem_cons, same _ _ related, ih]

namespace Generator

/-- A service that has rules meets all requirements. -/
theorem exists_acceptable {disableTicket : Bool} {slo : Slo} {classes : ClassTable}
    {rules : SloRules} (h : generate ⟨.builtin, disableTicket⟩ slo classes = .ok rules) :
    ∃ o, slo.applicable? classes = some o ∧ slo.Acceptable o :=
  (slo.faults_eq_nil classes).1
    ((reports_generate disableTicket slo classes).ok_iff.1 ⟨rules, h⟩)

/-- A service that meets all requirements has rules. -/
theorem exists_rules {slo : Slo} {classes : ClassTable} {o : Objectives}
    (applies : slo.applicable? classes = some o) (acceptable : slo.Acceptable o)
    (disableTicket : Bool) :
    ∃ rules, generate ⟨.builtin, disableTicket⟩ slo classes = .ok rules :=
  (reports_generate disableTicket slo classes).ok_iff.2
    ((slo.faults_eq_nil classes).2 ⟨o, applies, acceptable⟩)

/-- What the rules of a service are made of, whatever methods there are: the objectives that
    apply, the methods that are found, and what they make for each signal. -/
structure Builds (g : Generator) (slo : Slo) (classes : ClassTable) (rules : SloRules)
    (o : Objectives) (methods : AlertMethods) (errors latency : Option Alerting.Batch) :
    Prop where
  applies : slo.applicable? classes = some o
  resolved : AlertMethods.resolve slo g.registry = .ok methods
  errors_made : Alerting.errorBatch slo o methods = .ok errors
  latency_made : Alerting.latencyBatch slo o methods = .ok latency
  groups : rules.groups = Recording.groups slo o g.disableTicket
  alerts : rules.alerts = Alerting.finished slo g.disableTicket
    (Alerting.alertsOf errors ++ Alerting.alertsOf latency)

theorem exists_builds {g : Generator} {slo : Slo} {classes : ClassTable} {rules : SloRules}
    (h : g.generate slo classes = .ok rules) :
    ∃ o methods errors latency, Builds g slo classes rules o methods errors latency := by
  obtain ⟨p, prepared, built⟩ := exists_of_bind_eq_ok h
  rw [prepare, resolveObjectives_eq] at prepared
  cases applies : slo.applicable? classes with
  | none =>
    rw [applies] at prepared
    cases prepared
  | some o =>
    rw [applies] at prepared
    obtain ⟨found, same, prepared⟩ := exists_of_bind_eq_ok prepared
    obtain rfl : o = found := Except.ok.inj same
    -- the three checks of ranges leave nothing behind
    obtain ⟨_, -, prepared⟩ := exists_of_bind_eq_ok prepared
    obtain ⟨_, -, prepared⟩ := exists_of_bind_eq_ok prepared
    obtain ⟨_, -, prepared⟩ := exists_of_bind_eq_ok prepared
    obtain ⟨methods, resolved, prepared⟩ := exists_of_bind_eq_ok prepared
    obtain rfl := Except.ok.inj prepared
    -- building goes through the alerts on errors, those on latency, and the filter
    obtain ⟨alerts, alerted, made⟩ := exists_of_bind_eq_ok built
    obtain ⟨errors, errors_made, alerted⟩ := exists_of_bind_eq_ok alerted
    obtain ⟨latency, latency_made, alerted⟩ := exists_of_bind_eq_ok alerted
    obtain rfl := Except.ok.inj made
    obtain rfl := Except.ok.inj alerted
    exact ⟨o, methods, errors, latency, applies, resolved, errors_made, latency_made, rfl, rfl⟩

theorem slo_eq_of_generate {g : Generator} {slo : Slo} {classes : ClassTable} {rules : SloRules}
    (h : g.generate slo classes = .ok rules) : rules.slo = slo.name := by
  obtain ⟨p, prepared, built⟩ := exists_of_bind_eq_ok h
  obtain ⟨alerts, -, made⟩ := exists_of_bind_eq_ok built
  have of_prepared : p.slo = slo := by
    obtain ⟨o, -, prepared⟩ := exists_of_bind_eq_ok prepared
    -- the three checks of ranges leave nothing behind
    obtain ⟨_, -, prepared⟩ := exists_of_bind_eq_ok prepared
    obtain ⟨_, -, prepared⟩ := exists_of_bind_eq_ok prepared
    obtain ⟨_, -, prepared⟩ := exists_of_bind_eq_ok prepared
    obtain ⟨methods, -, prepared⟩ := exists_of_bind_eq_ok prepared
    rw [← Except.ok.inj prepared]
  rw [← Except.ok.inj made, ← of_prepared]

/-- The parts that the rules of a service are made of with the built-in methods. -/
theorem exists_batches {disableTicket : Bool} {slo : Slo} {classes : ClassTable}
    {o : Objectives} {rules : SloRules} (applies : slo.applicable? classes = some o)
    (h : generate ⟨.builtin, disableTicket⟩ slo classes = .ok rules) :
    ∃ methods : AlertMethods, ∃ errors latency,
      methods.errors = Burn.Method.ofName? slo.errors.alertMethod ∧
      methods.latency = Burn.Method.ofName? slo.latency.alertMethod ∧
      Alerting.errorBatch slo o methods = .ok errors ∧
      Alerting.latencyBatch slo o methods = .ok latency ∧
      rules.groups = Recording.groups slo o disableTicket ∧
      rules.alerts = ((Alerting.alertsOf errors ++ Alerting.alertsOf latency).map
        (Alerting.withMetadata slo)).filter (Alerting.isKept disableTicket) := by
  obtain ⟨o', methods, errors, latency, built⟩ := exists_builds h
  obtain rfl : o' = o := Option.some.inj (built.applies.symm.trans applies)
  obtain rfl := AlertMethods.resolve_eq_ok built.resolved
  exact ⟨_, errors, latency, rfl, rfl, built.errors_made, built.latency_made, built.groups,
    built.alerts⟩

theorem groups_eq {disableTicket : Bool} {slo : Slo} {classes : ClassTable}
    {o : Objectives} {rules : SloRules} (applies : slo.applicable? classes = some o)
    (h : generate ⟨.builtin, disableTicket⟩ slo classes = .ok rules) :
    rules.groups = Recording.groups slo o disableTicket := by
  obtain ⟨-, -, -, -, -, -, -, groups, -⟩ := exists_batches applies h
  exact groups

/-- Every alert is on one of the two signals. -/
theorem exists_isOn {disableTicket : Bool} {slo : Slo} {classes : ClassTable}
    {rules : SloRules} (h : generate ⟨.builtin, disableTicket⟩ slo classes = .ok rules)
    {a : AlertRule} (ha : a ∈ rules.alerts) : ∃ signal, a.IsOn slo.name signal := by
  obtain ⟨o, applies, -⟩ := exists_acceptable h
  obtain ⟨methods, errors, latency, errors_named, latency_named, errors_made, latency_made, -,
    alerts⟩ := exists_batches applies h
  rw [alerts] at ha
  -- an alert is named before it gets the labels of its service
  obtain ⟨b, hb, rfl⟩ := List.mem_map.1 (List.mem_filter.1 ha).1
  rcases List.mem_append.1 hb with hb | hb
  · exact ⟨.error, Alerting.isOn_errorBatch errors_named errors_made b hb⟩
  · exact ⟨.latency, Alerting.isOn_latencyBatch latency_named latency_made b hb⟩

/-- Without targets there are no alerts on latency. -/
theorem latency_alerts_eq_nil {disableTicket : Bool} {slo : Slo} {classes : ClassTable}
    {o : Objectives} {rules : SloRules} (applies : slo.applicable? classes = some o)
    (no_targets : o.latency = [])
    (h : generate ⟨.builtin, disableTicket⟩ slo classes = .ok rules) :
    rules.alerts.filter (fun a => a.IsOn slo.name .latency) = [] := by
  obtain ⟨methods, errors, latency, errors_named, latency_named, errors_made, latency_made, -,
    alerts⟩ := exists_batches applies h
  have none_made := Alerting.alertsOf_latencyBatch_of_no_targets no_targets latency_made
  have found := Alerting.filter_isOn_finished_append
    (Alerting.isOn_errorBatch errors_named errors_made)
    (Alerting.isOn_latencyBatch latency_named latency_made) disableTicket .latency
  rw [alerts, ← Alerting.finished, found, none_made]
  rfl

/-- With tickets, the alerts on a signal read series for what its indicator looks at,
    one alert for each entry. -/
theorem alerts_read {slo : Slo} {classes : ClassTable} {o : Objectives} {rules : SloRules}
    (applies : slo.applicable? classes = some o)
    (h : generate ⟨.builtin, false⟩ slo classes = .ok rules) (signal : Signal)
    (targets : signal = .latency → o.latency ≠ []) :
    List.Forall₂ (fun a e => a.series = slo.seriesOver o signal e.2)
      (rules.alerts.filter fun a => a.IsOn slo.name signal) ((slo.indicator signal).watched o) := by
  obtain ⟨methods, errors, latency, errors_named, latency_named, errors_made, latency_made, -,
    alerts⟩ := exists_batches applies h
  have found := Alerting.filter_isOn_finished_append
    (Alerting.isOn_errorBatch errors_named errors_made)
    (Alerting.isOn_latencyBatch latency_named latency_made) false signal
  -- labels and annotations are added to an alert, and its expression stays as it is
  rw [alerts, ← Alerting.finished, found, Alerting.finished_false, List.forall₂_map_left_iff]
  cases signal with
  | error => exact (Alerting.errorBatch_reads errors_named errors_made).imp fun _ _ reads => reads.2
  | latency =>
    exact (Alerting.latencyBatch_reads latency_named (targets rfl) latency_made).imp
      fun _ _ reads => reads.2

/-- With tickets, what holds of the series of all alerts on a signal is what holds of the
    series over all windows that its indicator looks at. -/
theorem forall_alert_iff {slo : Slo} {classes : ClassTable} {o : Objectives} {rules : SloRules}
    (applies : slo.applicable? classes = some o)
    (h : generate ⟨.builtin, false⟩ slo classes = .ok rules) (signal : Signal)
    (targets : signal = .latency → o.latency ≠ []) (p : List Series → Prop) :
    (∀ a ∈ rules.alerts, a.IsOn slo.name signal → p a.series) ↔
      ∀ e ∈ (slo.indicator signal).watched o, p (slo.seriesOver o signal e.2) := by
  have each := forall_mem_iff_of_forall₂ (alerts_read applies h signal targets)
    (fun a e (read : a.series = slo.seriesOver o signal e.2) =>
      show p a.series ↔ p (slo.seriesOver o signal e.2) by rw [read])
  rw [← each]
  simp only [List.mem_filter, decide_eq_true_eq, and_imp]

end Generator

end ErrorBudget
