/-
  ErrorBudget.Proofs.Generation.Metadata

  How the labels and annotations of a service get into its rules. In a recording rule its
  labels stand over the name of the service, and a boundary stands over both; in an alert
  they stand over severity and signal. Nothing else is added, so the layers say what the
  labels of every rule are.
-/
import ErrorBudget.Proofs.Alerting.Raised
import ErrorBudget.Proofs.Generation.Isolation
import ErrorBudget.Proofs.Labels
import ErrorBudget.Proofs.Recording.Distinct

namespace ErrorBudget

open Labels (Layer only)

/-! ## Recording rules -/

/-- The layer below the labels of a service: its name, unless its metrics bring their own. -/
def Slo.serviceLayers (slo : Slo) : List Layer :=
  if slo.honorLabels then [] else [only "service" slo.name]

/-- The only label of this layer is the name of the service. -/
theorem Slo.of_mem_serviceLayers {slo : Slo} {layer : Layer} (h : layer ∈ slo.serviceLayers)
    {key value : String} (found : layer key = some value) :
    key = "service" ∧ value = slo.name ∧ slo.honorLabels = false := by
  rw [serviceLayers] at h
  split at h
  · cases h
  · rename_i own
    obtain rfl := List.mem_singleton.1 h
    obtain ⟨named, told⟩ := Labels.only_eq_some_iff.1 found
    exact ⟨named, told, Bool.eq_false_iff.2 own⟩

namespace Recording

theorem layered_baseLabels (slo : Slo) :
    (baseLabels slo).Layered (slo.labels.get? :: slo.serviceLayers) := by
  rw [baseLabels, Slo.serviceLayers]
  cases slo.honorLabels with
  | true => exact Labels.layered_empty.union slo.labels
  | false => exact (Labels.layered_empty.insert "service" slo.name).union slo.labels

theorem layered_boundaryRule (slo : Slo) (b le : String) :
    (boundaryRule slo b le).labels.Layered
      (only "le" le :: slo.labels.get? :: slo.serviceLayers) :=
  (layered_baseLabels slo).insert "le" le

/-- A recording rule is a plain one or that of a boundary. -/
theorem cases_of_mem_groups {slo : Slo} {o : Objectives} {disableTicket : Bool}
    {r : RecordingRule} (h : r ∈ (groups slo o disableTicket).flatMap RecordingGroup.rules) :
    ∃ b ∈ keptWindows disableTicket, r ∈ plainRules slo b ∨
      ∃ le ∈ boundaries slo o, r = boundaryRule slo b le := by
  rw [flatMap_groups] at h
  obtain ⟨b, kept, hr⟩ := List.mem_flatMap.1 h
  rw [bucketRules_eq] at hr
  refine ⟨b, kept, (List.mem_append.1 hr).imp_right fun hr => ?_⟩
  split at hr
  · obtain ⟨le, hle, rfl⟩ := List.mem_map.1 hr
    exact ⟨le, hle, rfl⟩
  · cases hr

end Recording

/-! ## Alerts -/

/-- All methods of a registry are built in. -/
def Burn.Registry.OnlyBuiltin (registry : Burn.Registry) : Prop :=
  ∀ name m, registry.get? name = some m → m ∈ Burn.Method.builtin

theorem Burn.Registry.onlyBuiltin_builtin : OnlyBuiltin builtin := by
  intro name m found
  rw [get?_builtin] at found
  exact List.mem_of_find?_eq_some found

theorem Burn.layered_alertLabels (severity : Severity) (signal : Signal) :
    (alertLabels severity signal).Layered
      [only "signal" signal.text, only "severity" severity.text] :=
  (Labels.layered_empty.insert "severity" severity.text).insert "signal" signal.text

namespace Burn.Method

/-- The alerts of a built-in method on errors are alert rules on errors. -/
theorem exists_alertRule_errors {m : Method} (hm : m ∈ builtin) {r : Request}
    {availability : Float} {alerts : List AlertRule}
    (h : m.errorAlerts r availability = .ok alerts) {a : AlertRule} (ha : a ∈ alerts) :
    ∃ severity conditions wait, a = alertRule r.service .error severity conditions wait := by
  rcases List.mem_cons.1 hm with rfl | hm
  · obtain ⟨severity, -, conditions, wait, -, -, made⟩ :=
      (FixedWindow.raises_errorAlerts h).exists_of_mem ha
    exact ⟨severity, conditions, wait, made⟩
  · obtain rfl := List.mem_singleton.1 hm
    obtain ⟨table, -, raises⟩ := MultiWindow.raises_errorAlerts h
    obtain ⟨severity, -, conditions, wait, -, -, made⟩ := raises.exists_of_mem ha
    exact ⟨severity, conditions, wait, made⟩

/-- The alerts of a built-in method on latency are alert rules on latency. -/
theorem exists_alertRule_latency {m : Method} (hm : m ∈ builtin) {r : Request}
    {targets : List LatencyTarget} (ne_nil : targets ≠ []) {alerts : List AlertRule}
    (h : m.latencyAlerts r targets = .ok alerts) {a : AlertRule} (ha : a ∈ alerts) :
    ∃ severity conditions wait, a = alertRule r.service .latency severity conditions wait := by
  rcases List.mem_cons.1 hm with rfl | hm
  · obtain ⟨severity, -, conditions, wait, -, -, made⟩ :=
      (FixedWindow.raises_latencyAlerts ne_nil h).exists_of_mem ha
    exact ⟨severity, conditions, wait, made⟩
  · obtain rfl := List.mem_singleton.1 hm
    obtain ⟨table, -, raises⟩ := MultiWindow.raises_latencyAlerts ne_nil h
    obtain ⟨severity, -, conditions, wait, -, -, made⟩ := raises.exists_of_mem ha
    exact ⟨severity, conditions, wait, made⟩

end Burn.Method

namespace AlertMethods

theorem get?_of_resolveOne {slo : Slo} {i : Indicator} {registry : Burn.Registry}
    {field : String} {m : Burn.Method} (h : resolveOne slo i registry field = .ok (some m)) :
    registry.get? i.alertMethod = some m := by
  rw [resolveOne, Burn.Registry.resolve] at h
  split at h
  · cases h
  · cases found : registry.get? i.alertMethod with
    | none =>
      rw [found] at h
      cases h
    | some n =>
      rw [found] at h
      exact congrArg some (Option.some.inj (Except.ok.inj h))

/-- The methods of a service are methods of the registry. -/
theorem get?_of_resolve {slo : Slo} {registry : Burn.Registry} {methods : AlertMethods}
    (h : resolve slo registry = .ok methods) :
    (∀ m, methods.errors = some m → registry.get? slo.errors.alertMethod = some m) ∧
      ∀ m, methods.latency = some m → registry.get? slo.latency.alertMethod = some m := by
  obtain ⟨errors, errors_found, h⟩ := exists_of_bind_eq_ok h
  obtain ⟨latency, latency_found, h⟩ := exists_of_bind_eq_ok h
  obtain rfl := Except.ok.inj h
  refine ⟨fun m named => ?_, fun m named => ?_⟩
  · obtain rfl : errors = some m := named
    exact get?_of_resolveOne errors_found
  · obtain rfl : latency = some m := named
    exact get?_of_resolveOne latency_found

end AlertMethods

namespace Generator

/-- Every alert is made of one that a method made, with the labels and annotations of the
    service. -/
theorem Builds.exists_withMetadata {g : Generator} {slo : Slo} {classes : ClassTable}
    {rules : SloRules} {o : Objectives} {methods : AlertMethods}
    {errors latency : Option Alerting.Batch}
    (built : Builds g slo classes rules o methods errors latency) {a : AlertRule}
    (ha : a ∈ rules.alerts) :
    ∃ b, (b ∈ Alerting.alertsOf errors ∨ b ∈ Alerting.alertsOf latency) ∧
      a = Alerting.withMetadata slo b := by
  rw [built.alerts] at ha
  obtain ⟨b, hb, rfl⟩ := List.mem_map.1 (List.mem_filter.1 ha).1
  exact ⟨b, List.mem_append.1 hb, rfl⟩

/-- With built-in methods, every alert is an alert rule on a signal with a severity. -/
theorem exists_alertRule {g : Generator} {slo : Slo} {classes : ClassTable} {rules : SloRules}
    (builtin : g.registry.OnlyBuiltin) (h : g.generate slo classes = .ok rules) {a : AlertRule}
    (ha : a ∈ rules.alerts) :
    ∃ signal severity conditions wait, a = Alerting.withMetadata slo
      (Burn.alertRule slo.name signal severity conditions wait) := by
  obtain ⟨o, methods, errors, latency, built⟩ := exists_builds h
  obtain ⟨b, hb, rfl⟩ := built.exists_withMetadata ha
  obtain ⟨errors_found, latency_found⟩ := AlertMethods.get?_of_resolve built.resolved
  rcases hb with hb | hb
  · cases named : methods.errors with
    | none =>
      rw [Alerting.alertsOf_errorBatch_of_none named built.errors_made] at hb
      cases hb
    | some m =>
      have made := Alerting.errorBatch_eq_ok named built.errors_made
      obtain ⟨severity, conditions, wait, rfl⟩ :=
        Burn.Method.exists_alertRule_errors (builtin _ m (errors_found m named)) made hb
      exact ⟨.error, severity, conditions, wait, rfl⟩
  · have targets : o.latency ≠ [] := by
      intro no_targets
      rw [Alerting.alertsOf_latencyBatch_of_no_targets no_targets built.latency_made] at hb
      cases hb
    cases named : methods.latency with
    | none =>
      rw [Alerting.alertsOf_latencyBatch_of_none named built.latency_made] at hb
      cases hb
    | some m =>
      have made := Alerting.latencyBatch_eq_ok named targets built.latency_made
      obtain ⟨severity, conditions, wait, rfl⟩ := Burn.Method.exists_alertRule_latency
        (builtin _ m (latency_found m named)) targets made hb
      exact ⟨.latency, severity, conditions, wait, rfl⟩

/-- The alerts of a service do not depend on whether its metrics bring their own labels. -/
theorem alerts_honorLabels (g : Generator) (slo : Slo) (classes : ClassTable) (honor : Bool) :
    (g.generate { slo with honorLabels := honor } classes).map SloRules.alerts =
      (g.generate slo classes).map SloRules.alerts := by
  have same : Slo.applicable? { slo with honorLabels := honor } classes =
      slo.applicable? classes := rfl
  cases found : slo.applicable? classes with
  | none =>
    rw [generate, generate, prepare, prepare, resolveObjectives_eq, resolveObjectives_eq, same,
      found]
    rfl
  | some o =>
    rw [generate_eq_of_applicable g found, generate_eq_of_applicable g (same.trans found)]
    change SloRules.alerts <$> (_ : Except Fault SloRules) = SloRules.alerts <$> _
    simp only [build, map_bind]
    -- the checks and the alerts look at other fields
    rfl

end Generator

/-! ## What the labels are -/

/-- The labels of the recording rules of a service. -/
structure SloRules.RecordsLabelled (rules : SloRules) (slo : Slo) (o : Objectives) : Prop where
  /-- A plain rule has the labels of the service over its name, and the rule of a boundary
      has the boundary over both. -/
  layers : ∀ r ∈ rules.recordingRules, ∃ b ∈ Schedule.buckets,
    ((∃ stem ∈ Recording.plainStems, r.record = stem ++ b) ∧
      r.labels.Layered (slo.labels.get? :: slo.serviceLayers)) ∨
    ∃ le ∈ Recording.boundaries slo o, r = Recording.boundaryRule slo b le ∧
      r.labels.Layered (only "le" le :: slo.labels.get? :: slo.serviceLayers)
  /-- Only a boundary hides a label of the service. -/
  kept : ∀ r ∈ rules.recordingRules, ∀ key value, slo.labels.get? key = some value →
    r.labels.get? key = some value ∨
      (key = "le" ∧ ∃ b le, r = Recording.boundaryRule slo b le)
  /-- Only the name of the service and the boundary are added. -/
  no_others : ∀ r ∈ rules.recordingRules, ∀ key value, r.labels.get? key = some value →
    slo.labels.get? key = some value ∨
      (key = "service" ∧ value = slo.name ∧ slo.honorLabels = false) ∨
      (key = "le" ∧ ∃ b, r = Recording.boundaryRule slo b value)

/-- The labels and annotations of the alerts of a service. -/
structure SloRules.AlertsLabelled (rules : SloRules) (slo : Slo) : Prop where
  /-- An alert has the labels of the service over its signal and severity, which its name
      tells, and the annotations of the service. -/
  layers : ∀ a ∈ rules.alerts, ∃ signal severity,
    a.alert = Burn.alertName slo.name signal severity ∧
    a.labels.Layered
      [slo.labels.get?, only "signal" signal.text, only "severity" severity.text] ∧
    a.annotations = slo.annotations
  /-- Only signal and severity are added. -/
  no_others : ∀ a ∈ rules.alerts, ∀ key value, a.labels.get? key = some value →
    slo.labels.get? key = some value ∨ key = "signal" ∨ key = "severity"

namespace Recording

theorem recordsLabelled {slo : Slo} {o : Objectives} {disableTicket : Bool} {rules : SloRules}
    (made : rules.groups = groups slo o disableTicket) : rules.RecordsLabelled slo o := by
  have cases_of_mem {r : RecordingRule} (h : r ∈ rules.recordingRules) :
      ∃ b ∈ keptWindows disableTicket, r ∈ plainRules slo b ∨
        ∃ le ∈ boundaries slo o, r = boundaryRule slo b le := by
    rw [SloRules.recordingRules, made] at h
    exact cases_of_mem_groups h
  have layered_plain {r : RecordingRule} {b : String} (h : r ∈ plainRules slo b) :
      r.labels.Layered (slo.labels.get? :: slo.serviceLayers) := by
    rw [labels_of_mem_plainRules h]
    exact layered_baseLabels slo
  refine ⟨fun r hr => ?_, fun r hr key value own => ?_, fun r hr key value found => ?_⟩
  · obtain ⟨b, kept, plain | ⟨le, hle, rfl⟩⟩ := cases_of_mem hr
    · exact ⟨b, (List.mem_filter.1 kept).1, .inl ⟨record_of_mem_plainRules plain,
        layered_plain plain⟩⟩
    · exact ⟨b, (List.mem_filter.1 kept).1, .inr ⟨le, hle, rfl, layered_boundaryRule slo b le⟩⟩
  · obtain ⟨b, -, plain | ⟨le, -, rfl⟩⟩ := cases_of_mem hr
    · exact .inl ((layered_plain plain).get?_of_upper own)
    · by_cases boundary : key = "le"
      · exact .inr ⟨boundary, b, le, rfl⟩
      · -- the layer of the boundary has nothing else, so the next one decides
        rw [(layered_boundaryRule slo b le).get?_of_below (if_neg boundary),
          ← layered_baseLabels slo key]
        exact .inl ((layered_baseLabels slo).get?_of_upper own)
  · obtain ⟨b, -, plain | ⟨le, -, rfl⟩⟩ := cases_of_mem hr
    · obtain ⟨layer, listed, found⟩ := (layered_plain plain).exists_layer found
      rcases List.mem_cons.1 listed with rfl | listed
      · exact .inl found
      · exact .inr (.inl (Slo.of_mem_serviceLayers listed found))
    · obtain ⟨layer, listed, found⟩ := (layered_boundaryRule slo b le).exists_layer found
      rcases List.mem_cons.1 listed with rfl | listed
      · obtain ⟨boundary, rfl⟩ := Labels.only_eq_some_iff.1 found
        exact .inr (.inr ⟨boundary, b, rfl⟩)
      · rcases List.mem_cons.1 listed with rfl | listed
        · exact .inl found
        · exact .inr (.inl (Slo.of_mem_serviceLayers listed found))

end Recording

namespace Generator

theorem alertsLabelled {g : Generator} {slo : Slo} {classes : ClassTable} {rules : SloRules}
    (builtin : g.registry.OnlyBuiltin) (h : g.generate slo classes = .ok rules) :
    rules.AlertsLabelled slo := by
  have layered {a : AlertRule} (ha : a ∈ rules.alerts) : ∃ signal severity,
      a.alert = Burn.alertName slo.name signal severity ∧
      a.labels.Layered
        [slo.labels.get?, only "signal" signal.text, only "severity" severity.text] ∧
      a.annotations = slo.annotations := by
    obtain ⟨signal, severity, conditions, wait, rfl⟩ := exists_alertRule builtin h ha
    exact ⟨signal, severity, rfl, (Burn.layered_alertLabels severity signal).union slo.labels,
      KeyMap.empty_union slo.annotations⟩
  refine ⟨fun a ha => layered ha, fun a ha key value found => ?_⟩
  obtain ⟨signal, severity, -, labels, -⟩ := layered ha
  obtain ⟨layer, listed, found⟩ := labels.exists_layer found
  simp only [List.mem_cons, List.not_mem_nil, or_false] at listed
  rcases listed with rfl | rfl | rfl
  · exact .inl found
  · exact .inr (.inl (Labels.only_eq_some_iff.1 found).1)
  · exact .inr (.inr (Labels.only_eq_some_iff.1 found).1)

/-- The labels and annotations of all rules of a service. Its recording rules are labelled
    as they should be with any methods, and its alerts with the built-in ones; with others,
    too, they have all labels and annotations of the service. Whether its metrics bring
    their own labels makes no difference to the alerts. -/
theorem metadata_merged {g : Generator} {slo : Slo} {classes : ClassTable} {rules : SloRules}
    (h : g.generate slo classes = .ok rules) :
    (∃ o, slo.applicable? classes = some o ∧ rules.RecordsLabelled slo o) ∧
    (g.registry.OnlyBuiltin → rules.AlertsLabelled slo) ∧
    (∀ a ∈ rules.alerts, ∀ key value,
      (slo.labels.get? key = some value → a.labels.get? key = some value) ∧
      (slo.annotations.get? key = some value → a.annotations.get? key = some value)) ∧
    ∀ honor, (g.generate { slo with honorLabels := honor } classes).map SloRules.alerts =
      .ok rules.alerts := by
  obtain ⟨o, methods, errors, latency, built⟩ := exists_builds h
  refine ⟨⟨o, built.applies, Recording.recordsLabelled built.groups⟩,
    fun builtin => alertsLabelled builtin h, fun a ha key value => ?_, fun honor => ?_⟩
  · obtain ⟨b, -, rfl⟩ := built.exists_withMetadata ha
    -- the metadata of the service is the upper part of both unions
    refine ⟨fun own => ?_, fun own => ?_⟩
    · rw [Alerting.withMetadata, KeyMap.get?_union, own, Option.some_or]
    · rw [Alerting.withMetadata, KeyMap.get?_union, own, Option.some_or]
  · rw [alerts_honorLabels, h]
    rfl

/-- Labels of a service that collide with those of its rules. -/
theorem metadata_merged_collisions :
    let slo : Slo :=
      { name := "checkout"
        objectives := { availability := 99.9, latency := [⟨"0.1", 95.0⟩] }
        errors := { expr := "job:errors:ratio", alertMethod := "multi-window" }
        latency := { expr := "job:latency:ratio" }
        labels := KeyMap.ofList [("le", "own"), ("severity", "ticket")]
        annotations := KeyMap.ofList [("runbook", "restart")] }
    ∃ rules, generate ⟨.builtin, false⟩ slo KeyMap.empty = .ok rules ∧
      rules.RecordsLabelled slo slo.objectives ∧
      ∃ a ∈ rules.alerts, a.labels.get? "severity" = some "ticket" ∧
        a.annotations = slo.annotations := by
  intro slo
  have applies : slo.applicable? KeyMap.empty = some slo.objectives := rfl
  have acceptable : slo.Acceptable slo.objectives :=
    { availability := (by decide : IsShare 99.9)
      targets := List.forall_mem_singleton.2 ⟨⟨'0', by simp, rfl⟩, by decide⟩
      windows := by simp [slo]
      methods := by simp [slo]
      errors := ⟨fun simple => by simp [slo] at simple, fun _ => .inl rfl⟩
      latency := fun _ => ⟨fun simple => by simp [slo] at simple,
        fun multi => by simp [slo] at multi⟩ }
  obtain ⟨rules, made⟩ := exists_rules applies acceptable false
  obtain ⟨⟨o, found, records⟩, alerts, kept, -⟩ := metadata_merged made
  obtain rfl : slo.objectives = o := Option.some.inj (applies.symm.trans found)
  -- the default table makes a page first
  have watched : slo.errors.watched slo.objectives =
      [(.page, ["1h", "5m", "6h", "30m"]), (.ticket, ["1d", "2h", "3d", "6h"])] := rfl
  have reads := alerts_read applies made .error fun e => nomatch e
  rw [show slo.indicator .error = slo.errors from rfl, watched] at reads
  obtain ⟨a, others, -, -, listed⟩ := List.forall₂_cons_right_iff.1 reads
  have first : a ∈ rules.alerts.filter fun a => a.IsOn slo.name .error := by
    rw [listed]
    exact List.mem_cons_self
  have ha := (List.mem_filter.1 first).1
  obtain ⟨signal, severity, -, -, annotations⟩ :=
    (alerts Burn.Registry.onlyBuiltin_builtin).layers a ha
  exact ⟨rules, made, records, a, ha, (kept a ha "severity" "ticket").1 rfl, annotations⟩

end Generator

end ErrorBudget
