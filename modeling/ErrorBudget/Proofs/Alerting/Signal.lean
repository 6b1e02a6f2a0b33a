/-
  ErrorBudget.Proofs.Alerting.Signal

  Which signal an alert is on, by its name. Labels of a service may hide the labels of
  an alert, but not its name; so the alerts on a signal can be told in the final list,
  and they are the ones that were made for the signal.
-/
import ErrorBudget.Proofs.Alerting

namespace ErrorBudget

theorem Severity.mem_all (severity : Severity) : severity ∈ all := by
  cases severity <;> decide

/-- An alert is on a signal of a service if it has one of the names for it. -/
def AlertRule.IsOn (service : String) (signal : Signal) (a : AlertRule) : Prop :=
  a.alert ∈ Severity.all.map (Burn.alertName service signal)

instance (service : String) (signal : Signal) : DecidablePred (AlertRule.IsOn service signal) :=
  fun _ => inferInstanceAs (Decidable (_ ∈ _))

namespace Burn

/-- The name of an alert tells its signal. -/
theorem signal_eq_of_alertName {service : String} {s t : Signal} {u v : Severity}
    (h : alertName service s u = alertName service t v) : s = t := by
  rw [← String.toList_inj] at h
  -- what stands before the signal is the same in both names
  simp only [alertName, String.toList_append, List.append_assoc, List.append_cancel_left_eq] at h
  have letter := congrArg List.head? h
  cases s with
  | error =>
    cases t with
    | error => rfl
    | latency => simp [Signal.fragment] at letter
  | latency =>
    cases t with
    | error => simp [Signal.fragment] at letter
    | latency => rfl

theorem isOn_alertRule (service : String) (signal : Signal) (severity : Severity)
    (conditions : List Condition) (wait : Duration) :
    (alertRule service signal severity conditions wait).IsOn service signal :=
  List.mem_map_of_mem severity.mem_all

end Burn

/-- No alert is on two signals. -/
theorem AlertRule.signal_eq_of_isOn {service : String} {s t : Signal} {a : AlertRule}
    (hs : a.IsOn service s) (ht : a.IsOn service t) : s = t := by
  obtain ⟨u, -, hu⟩ := List.mem_map.1 hs
  obtain ⟨v, -, hv⟩ := List.mem_map.1 ht
  exact Burn.signal_eq_of_alertName (hu.trans hv.symm)

/-! ## Alerts of the built-in methods -/

namespace Burn.Method

theorem isOn_errorAlerts {name : String} {m : Method} (builtin : ofName? name = some m)
    {r : Request} {availability : Float} {alerts : List AlertRule}
    (h : m.errorAlerts r availability = .ok alerts) : ∀ a ∈ alerts, a.IsOn r.service .error := by
  rcases ofName?_eq_some builtin with ⟨-, rfl⟩ | ⟨-, rfl⟩
  · obtain ⟨-, d, -, rfl⟩ := FixedWindow.errorAlerts_eq_ok h
    exact List.forall_mem_singleton.2 (isOn_alertRule _ _ _ _ _)
  · obtain ⟨table, -, made⟩ := exists_of_bind_eq_ok h
    obtain rfl := Except.ok.inj made
    exact List.forall_mem_map.2 fun e _ => isOn_alertRule _ _ _ _ _

theorem isOn_latencyAlerts {name : String} {m : Method} (builtin : ofName? name = some m)
    {r : Request} {targets : List LatencyTarget} {alerts : List AlertRule}
    (h : m.latencyAlerts r targets = .ok alerts) : ∀ a ∈ alerts, a.IsOn r.service .latency := by
  rcases ofName?_eq_some builtin with ⟨-, rfl⟩ | ⟨-, rfl⟩
  · obtain ⟨-, d, -, rfl⟩ := FixedWindow.latencyAlerts_eq_ok h
    exact List.forall_mem_singleton.2 (isOn_alertRule _ _ _ _ _)
  · obtain ⟨table, -, made⟩ := exists_of_bind_eq_ok h
    obtain rfl := Except.ok.inj made
    exact List.forall_mem_map.2 fun e _ => isOn_alertRule _ _ _ _ _

end Burn.Method

namespace Alerting

theorem isOn_errorBatch {slo : Slo} {o : Objectives} {methods : AlertMethods} {b : Option Batch}
    (named : methods.errors = Burn.Method.ofName? slo.errors.alertMethod)
    (h : errorBatch slo o methods = .ok b) : ∀ a ∈ alertsOf b, a.IsOn slo.name .error := by
  cases found : Burn.Method.ofName? slo.errors.alertMethod with
  | none =>
    rw [alertsOf_errorBatch_of_none (named.trans found) h]
    exact List.forall_mem_nil _
  | some m =>
    have on := Burn.Method.isOn_errorAlerts found (errorBatch_eq_ok (named.trans found) h)
    exact on

theorem isOn_latencyBatch {slo : Slo} {o : Objectives} {methods : AlertMethods}
    {b : Option Batch} (named : methods.latency = Burn.Method.ofName? slo.latency.alertMethod)
    (h : latencyBatch slo o methods = .ok b) : ∀ a ∈ alertsOf b, a.IsOn slo.name .latency := by
  by_cases no_targets : o.latency = []
  · rw [alertsOf_latencyBatch_of_no_targets no_targets h]
    exact List.forall_mem_nil _
  · cases found : Burn.Method.ofName? slo.latency.alertMethod with
    | none =>
      rw [alertsOf_latencyBatch_of_none (named.trans found) h]
      exact List.forall_mem_nil _
    | some m =>
      have on := Burn.Method.isOn_latencyAlerts found
        (latencyBatch_eq_ok (named.trans found) no_targets h)
      exact on

/-! ## The final list -/

/-- Alerts as a service has them in the end: with its labels, and without tickets if they
    are off. -/
def finished (slo : Slo) (disableTicket : Bool) (as : List AlertRule) : List AlertRule :=
  (as.map (withMetadata slo)).filter (isKept disableTicket)

theorem finished_false (slo : Slo) (as : List AlertRule) :
    finished slo false as = as.map (withMetadata slo) :=
  List.filter_eq_self.2 fun _ _ => rfl

/-- Alerts on one signal are all found by their names, and no others are. -/
theorem filter_isOn_of_forall {service : String} {as : List AlertRule} {s : Signal}
    (h : ∀ a ∈ as, a.IsOn service s) (t : Signal) :
    as.filter (fun a => a.IsOn service t) = if s = t then as else [] := by
  by_cases same : s = t
  · rw [if_pos same, List.filter_eq_self]
    exact fun a ha => decide_eq_true (same ▸ h a ha)
  · rw [if_neg same, List.filter_eq_nil_iff]
    exact fun a ha other =>
      same (AlertRule.signal_eq_of_isOn (h a ha) (of_decide_eq_true other))

/-- Labels and the filter for tickets leave the names alone. -/
theorem filter_isOn_finished (slo : Slo) (disableTicket : Bool) (as : List AlertRule)
    (signal : Signal) :
    (finished slo disableTicket as).filter (fun a => a.IsOn slo.name signal) =
      finished slo disableTicket (as.filter fun a => a.IsOn slo.name signal) := by
  rw [finished, finished, List.filter_comm, List.filter_map]
  rfl

/-- In the final list, the alerts on a signal are those that were made for it. -/
theorem filter_isOn_finished_append {slo : Slo} {errors latency : List AlertRule}
    (on_errors : ∀ a ∈ errors, a.IsOn slo.name .error)
    (on_latency : ∀ a ∈ latency, a.IsOn slo.name .latency) (disableTicket : Bool)
    (signal : Signal) :
    (finished slo disableTicket (errors ++ latency)).filter (fun a => a.IsOn slo.name signal) =
      finished slo disableTicket (match signal with | .error => errors | .latency => latency) := by
  rw [filter_isOn_finished, List.filter_append, filter_isOn_of_forall on_errors,
    filter_isOn_of_forall on_latency]
  cases signal with
  | error => rw [if_pos rfl, if_neg (by decide), List.append_nil]
  | latency => rw [if_neg (by decide), if_pos rfl, List.nil_append]

end Alerting

end ErrorBudget
