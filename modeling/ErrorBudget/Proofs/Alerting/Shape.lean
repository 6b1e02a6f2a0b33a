/-
  ErrorBudget.Proofs.Alerting.Shape

  Which alerts a service has: on errors and then on latency, pages before tickets, each at
  most once. So the names of the alerts stand in a fixed order; no alert has an empty
  expression, and with tickets there is one for each signal and severity that the service
  alerts on.
-/
import ErrorBudget.Proofs.Alerting.Raised
import ErrorBudget.Proofs.Duration.RoundTrip

namespace ErrorBudget

/-! ## Names -/

namespace Burn

/-- The names that alerts of a service can have, in the order of the alerts. -/
def alertNames (service : String) : List String :=
  [".errors.page", ".errors.ticket", ".latency.page", ".latency.ticket"].map fun ending =>
    "slo:" ++ service ++ ending

theorem alertNames_eq (service : String) :
    alertNames service = Signal.all.flatMap fun signal =>
      Severity.all.map (alertName service signal) := by
  have split_off (signal : Signal) (severity : Severity) : alertName service signal severity =
      "slo:" ++ service ++ ("." ++ signal.fragment ++ "." ++ severity.text) := by
    simp only [alertName, String.append_assoc]
  simp only [Signal.all, Severity.all, List.flatMap_cons, List.flatMap_nil, List.map_cons,
    List.map_nil, split_off]
  rfl

theorem nodup_alertNames (service : String) : (alertNames service).Nodup := by
  have endings : [".errors.page", ".errors.ticket", ".latency.page", ".latency.ticket"].Nodup := by
    decide
  exact endings.map fun _ _ same => (String.append_right_inj _).1 same

/-- The name of an alert tells its severity. -/
theorem severity_eq_of_alertName {service : String} {signal : Signal} {u v : Severity}
    (h : alertName service signal u = alertName service signal v) : u = v := by
  have texts : u.text = v.text := (String.append_right_inj _).1 h
  have told (s : Severity) : Severity.ofTag? s.text = some s := Severity.ofTag?_eq_some_iff.2 rfl
  exact Option.some.inj ((told u).symm.trans (texts ▸ told v))

end Burn

/-! ## Alerts of a service -/

/-- Whether a service alerts on a signal with a severity; on latency, only with targets. -/
def Slo.AlertsOn (slo : Slo) (o : Objectives) (signal : Signal) (severity : Severity) : Prop :=
  (signal = .latency → o.latency ≠ []) ∧ (slo.indicator signal).AlertsOn severity

namespace Slo

/-- The alerts of a service on a signal: one for each severity that it alerts with. -/
def Raises (slo : Slo) (o : Objectives) (signal : Signal) (alerts : List AlertRule) : Prop :=
  Burn.RaisesFor slo.name signal (slo.AlertsOn o signal) (slo.indicator signal).Waits alerts

variable {slo : Slo} {o : Objectives} {signal : Signal} {alerts : List AlertRule}

theorem raises_of_indicator (targets : signal = .latency → o.latency ≠ [])
    (h : Burn.RaisesFor slo.name signal (slo.indicator signal).AlertsOn
      (slo.indicator signal).Waits alerts) : slo.Raises o signal alerts := by
  obtain ⟨severities, ordered, mem_iff, raises⟩ := h
  refine ⟨severities, ordered, fun severity => ?_, raises⟩
  rw [mem_iff, AlertsOn, and_iff_right targets]

theorem raises_of_no_targets (no_targets : o.latency = []) : slo.Raises o .latency [] := by
  refine ⟨[], List.nil_sublist _, fun severity => ?_, .nil⟩
  have no_alert : ¬ slo.AlertsOn o .latency severity := fun asked => asked.1 rfl no_targets
  simp [no_alert]

theorem Raises.names_sublist (h : slo.Raises o signal alerts) :
    (alerts.map AlertRule.alert).Sublist
      (Severity.all.map (Burn.alertName slo.name signal)) := by
  obtain ⟨severities, ordered, -, raises⟩ := h
  rw [raises.names]
  exact ordered.map _

/-- Every alert says something, has the name of a severity that the service alerts with, and
    waits as the indicator says. -/
theorem Raises.of_mem (h : slo.Raises o signal alerts) {a : AlertRule} (ha : a ∈ alerts) :
    a.expr ≠ "" ∧ ∃ severity, a.alert = Burn.alertName slo.name signal severity ∧
      slo.AlertsOn o signal severity ∧ (slo.indicator signal).Waits a.wait := by
  obtain ⟨severities, -, mem_iff, raises⟩ := h
  obtain ⟨severity, listed, conditions, wait, some_condition, waits, rfl⟩ :=
    raises.exists_of_mem ha
  exact ⟨Burn.Condition.text_ne_empty some_condition, severity, rfl, (mem_iff severity).1 listed,
    waits⟩

/-- Whether there is an alert is told by the names. -/
theorem Raises.mem_names_iff (h : slo.Raises o signal alerts) (other : Signal)
    (severity : Severity) :
    Burn.alertName slo.name other severity ∈ alerts.map AlertRule.alert ↔
      other = signal ∧ slo.AlertsOn o signal severity := by
  obtain ⟨severities, -, mem_iff, raises⟩ := h
  rw [raises.names, ← mem_iff, List.mem_map]
  constructor
  · rintro ⟨found, listed, same⟩
    obtain rfl := Burn.signal_eq_of_alertName same
    obtain rfl := Burn.severity_eq_of_alertName same
    exact ⟨rfl, listed⟩
  · rintro ⟨rfl, listed⟩
    exact ⟨severity, listed, rfl⟩

end Slo

namespace Alerting

/-- The names of the final alerts are some of those that were made, in their order. -/
theorem names_finished_sublist (slo : Slo) (disableTicket : Bool) (as : List AlertRule) :
    ((finished slo disableTicket as).map AlertRule.alert).Sublist (as.map AlertRule.alert) := by
  have renamed : (as.map (withMetadata slo)).map AlertRule.alert = as.map AlertRule.alert := by
    rw [List.map_map]
    rfl
  rw [← renamed]
  exact List.filter_sublist.map _

theorem names_finished_false (slo : Slo) (as : List AlertRule) :
    (finished slo false as).map AlertRule.alert = as.map AlertRule.alert := by
  rw [finished_false, List.map_map]
  rfl

end Alerting

namespace Generator

/-- The alerts of a service are those on errors and then those on latency, with its labels
    and annotations, and without tickets if they are off. -/
theorem exists_raises {disableTicket : Bool} {slo : Slo} {classes : ClassTable}
    {rules : SloRules} (h : generate ⟨.builtin, disableTicket⟩ slo classes = .ok rules) :
    ∃ o errors latency, slo.applicable? classes = some o ∧
      slo.Raises o .error errors ∧ slo.Raises o .latency latency ∧
      rules.alerts = Alerting.finished slo disableTicket (errors ++ latency) := by
  obtain ⟨o, applies, -⟩ := exists_acceptable h
  obtain ⟨methods, errors, latency, errors_named, latency_named, errors_made, latency_made, -,
    alerts⟩ := exists_batches applies h
  have on_errors : slo.Raises o .error (Alerting.alertsOf errors) :=
    Slo.raises_of_indicator (fun e => nomatch e)
      (Alerting.raises_errorBatch errors_named errors_made)
  have on_latency : slo.Raises o .latency (Alerting.alertsOf latency) := by
    by_cases no_targets : o.latency = []
    · rw [Alerting.alertsOf_latencyBatch_of_no_targets no_targets latency_made]
      exact Slo.raises_of_no_targets no_targets
    · exact Slo.raises_of_indicator (fun _ => no_targets)
        (Alerting.raises_latencyBatch latency_named no_targets latency_made)
  exact ⟨o, _, _, applies, on_errors, on_latency, alerts⟩

/-- The alerts of a service have some of its four names, in their order. -/
theorem alert_names_sublist {disableTicket : Bool} {slo : Slo} {classes : ClassTable}
    {rules : SloRules} (h : generate ⟨.builtin, disableTicket⟩ slo classes = .ok rules) :
    (rules.alerts.map AlertRule.alert).Sublist (Burn.alertNames slo.name) := by
  obtain ⟨o, errors, latency, -, on_errors, on_latency, alerts⟩ := exists_raises h
  have all_names := on_errors.names_sublist.append on_latency.names_sublist
  rw [← List.map_append] at all_names
  rw [alerts, Burn.alertNames_eq]
  exact (Alerting.names_finished_sublist slo disableTicket _).trans all_names

/-- With the built-in methods, the names of a service's alerts are some of four names in a
    fixed order, each at most once; no alert has an empty expression, and each belongs to a
    signal and a severity that the service alerts on, and waits as their indicator says.
    With tickets there is an alert for every such signal and severity. -/
theorem alerts_shape {disableTicket : Bool} {slo : Slo} {classes : ClassTable}
    {rules : SloRules} (h : generate ⟨.builtin, disableTicket⟩ slo classes = .ok rules) :
    ∃ o, slo.applicable? classes = some o ∧
      (rules.alerts.map AlertRule.alert).Sublist
        ["slo:" ++ slo.name ++ ".errors.page", "slo:" ++ slo.name ++ ".errors.ticket",
          "slo:" ++ slo.name ++ ".latency.page", "slo:" ++ slo.name ++ ".latency.ticket"] ∧
      (rules.alerts.map AlertRule.alert).Nodup ∧
      (∀ a ∈ rules.alerts, a.expr ≠ "" ∧ ∃ signal severity,
        a.alert = Burn.alertName slo.name signal severity ∧ slo.AlertsOn o signal severity ∧
        (slo.indicator signal).Waits a.wait) ∧
      (disableTicket = false → ∀ signal severity,
        (∃ a ∈ rules.alerts, a.alert = Burn.alertName slo.name signal severity) ↔
          slo.AlertsOn o signal severity) := by
  obtain ⟨o, errors, latency, applies, on_errors, on_latency, alerts⟩ := exists_raises h
  have named := alert_names_sublist h
  refine ⟨o, applies, named, named.nodup (Burn.nodup_alertNames slo.name), fun a ha => ?_,
    fun tickets signal severity => ?_⟩
  · rw [alerts] at ha
    obtain ⟨b, hb, rfl⟩ := List.mem_map.1 (List.mem_filter.1 ha).1
    -- labels and annotations leave the name, the expression and the wait alone
    rcases List.mem_append.1 hb with hb | hb
    · obtain ⟨some_text, of_severity⟩ := on_errors.of_mem hb
      exact ⟨some_text, .error, of_severity⟩
    · obtain ⟨some_text, of_severity⟩ := on_latency.of_mem hb
      exact ⟨some_text, .latency, of_severity⟩
  · rw [alerts, tickets, ← List.mem_map, Alerting.names_finished_false, List.map_append,
      List.mem_append, on_errors.mem_names_iff, on_latency.mem_names_iff]
    cases signal with
    | error => simp
    | latency => simp

/-- Errors over one window with a wait, and latency over custom windows of which one has a
    tag that no severity has: there is a ticket on latency, and no page. -/
theorem alerts_shape_custom_ticket :
    let slo : Slo :=
      { name := "checkout"
        objectives := { availability := 99.9, latency := [⟨"0.1", 95.0⟩], window := .of 30 .day }
        errors := { alertMethod := "simple", alertWindow := "1h", alertWait := "5m" }
        latency :=
          { alertMethod := "multi-window"
            windows := [⟨.of 1 .hour, 2.0, "ticket"⟩, ⟨.of 6 .hour, 5.0, "Page"⟩] } }
    ∃ rules, generate ⟨.builtin, false⟩ slo KeyMap.empty = .ok rules ∧
      (∃ a ∈ rules.alerts, a.alert = Burn.alertName "checkout" .latency .ticket) ∧
      ¬ ∃ a ∈ rules.alerts, a.alert = Burn.alertName "checkout" .latency .page := by
  intro slo
  have applies : slo.applicable? KeyMap.empty = some slo.objectives := rfl
  have waits : Duration.read "5m" = .ok (.of 5 .minute) := Duration.read_text (.of 5 .minute)
  have acceptable : slo.Acceptable slo.objectives :=
    { availability := (by decide : IsShare 99.9)
      targets := List.forall_mem_singleton.2 ⟨⟨'0', by simp, rfl⟩, by decide⟩
      windows := List.forall_mem_cons.2 ⟨List.forall_mem_nil _, List.forall_mem_singleton.2
        (List.forall_mem_cons.2 ⟨⟨by decide, by decide⟩,
          List.forall_mem_singleton.2 ⟨by decide, by decide⟩⟩)⟩
      methods := by simp [slo]
      errors := ⟨fun _ => ⟨by decide, .inr ⟨_, waits⟩⟩, fun multi => by simp [slo] at multi⟩
      latency := fun _ => ⟨fun simple => by simp [slo] at simple, fun _ => .inr (by decide)⟩ }
  obtain ⟨rules, made⟩ := exists_rules applies acceptable false
  obtain ⟨o, found, -, -, -, present⟩ := alerts_shape made
  obtain rfl : slo.objectives = o := Option.some.inj (applies.symm.trans found)
  refine ⟨rules, made, (present rfl .latency .ticket).2 ⟨fun _ => List.cons_ne_nil _ _, ?_⟩,
    fun page => ?_⟩
  · exact .inr ⟨rfl, .inr ⟨_, List.mem_cons_self, rfl⟩⟩
  · -- neither tag is that of a page
    have alerts_on := ((present rfl .latency .page).1 page).2
    simp [Indicator.AlertsOn, Slo.indicator, slo, Severity.text] at alerts_on

end Generator

end ErrorBudget
