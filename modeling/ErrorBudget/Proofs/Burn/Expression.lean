/-
  ErrorBudget.Proofs.Burn.Expression

  What the expressions of alerts say. Every expression of the two alerting
  methods can be read, for every service name and every boundary, and says that
  any of its conditions holds: one for each burn window, or one for each target
  and each burn window, in the order of the targets first.
-/
import Mathlib.Data.List.Forall2
import ErrorBudget.Burn.Method
import ErrorBudget.Proofs.Burn.Condition

namespace ErrorBudget.Burn

open Query (Meaning)

/-! ## Conditions that are meant -/

/-- A double, as an expression writes it. -/
def numeral (x : Float) (precision : Option Nat) : Meaning :=
  .number (Decimal.general x precision).toList

/-- A recorded ratio is beyond a threshold, over the long window and, if there is a
    short one, over that too. -/
def beyond (r : Relation) (metric : String) (matchers : List (String × String))
    (threshold : Meaning) (long : String) (short : Option String) : Meaning :=
  let crosses (window : String) : Meaning :=
    .compare r (.series ⟨metric ++ ":ratio_rate_" ++ window, matchers⟩) threshold
  match short with
  | none => crosses long
  | some window => .both (crosses long) (crosses window)

/-- The ratio of failed requests of a service exceeds a threshold. -/
def errorsAbove (service : String) (threshold : Meaning) (long : String)
    (short : Option String) : Meaning :=
  beyond .above "slo:service_errors_total" [("service", service)] threshold long short

/-- The ratio of requests of a service that finish within a boundary falls short of a
    threshold. -/
def latencyBelow (service le : String) (threshold : Meaning) (long : String)
    (short : Option String) : Meaning :=
  beyond .below "slo:service_latency" [("le", le), ("service", service)] threshold long short

/-- With one window: the errors exceed the burn rate times the budget. -/
def fixedErrors (r : Request) (availability : Float) : Meaning :=
  errorsAbove r.service
    (.product (numeral (r.burnRate.getD 1.0) (some 3))
      (numeral (1.0 - availability / 100.0) (some 3)))
    r.alertWindow none

/-- With one window: the fast requests fall short of the burn rate times the target. -/
def fixedLatency (r : Request) (t : LatencyTarget) : Meaning :=
  latencyBelow r.service t.le
    (.product (numeral (r.burnRate.getD 1.0) (some 3))
      (numeral (1.0 - (100.0 - t.target) * 0.01) (some 3)))
    r.alertWindow none

/-- With a burn window: the errors exceed its rate times the budget. -/
def windowErrors (r : Request) (availability : Float) (w : BurnWindow) : Meaning :=
  errorsAbove r.service
    (.product (numeral w.multiplier none) (numeral (1.0 - availability / 100.0) (some 3)))
    w.long w.short

/-- With a burn window: the fast requests fall short of what its rate leaves. -/
def windowLatency (r : Request) (t : LatencyTarget) (w : BurnWindow) : Meaning :=
  latencyBelow r.service t.le
    (numeral (1.0 - (100.0 - t.target) * w.multiplier * 0.01) (some 3)) w.long w.short

/-! ## Conditions that are written -/

theorem serviceLabels_entries (service : String) :
    (serviceLabels service).entries = [("service", service)] :=
  rfl

theorem latencyLabels_entries (service le : String) :
    (latencyLabels service le).entries = [("le", le), ("service", service)] := by
  -- labels are kept in the order of their names, whichever was set first
  have after : ¬ "service" < "le" := by decide
  simp [latencyLabels, KeyMap.ofList, KeyMap.insertMany, KeyMap.insert, KeyMap.empty,
    KeyMap.insertEntry, after]

/-- A condition says what is meant by it. -/
theorem Condition.meaning_query (c : Condition) :
    c.query.meaning = beyond c.relation c.ratio.metric c.labels.entries c.threshold.query.meaning
      c.long c.short := by
  have crosses (window : String) : (c.exceeds window).meaning =
      .compare c.relation (.series ⟨c.ratio.metric ++ ":ratio_rate_" ++ window, c.labels.entries⟩)
        c.threshold.query.meaning := by
    simp only [exceeds, Query.meaning, Ratio.record, String.ofList_toList]
  rw [query]
  cases c.short with
  | none => exact crosses c.long
  | some window =>
    rw [Query.meaning, Query.meaning, crosses, crosses]
    rfl

theorem isWindowName_of_isSampled {window : String} (h : Schedule.isSampled window = true) :
    IsWindowName window := by
  have buckets : ∀ b ∈ Schedule.buckets, IsWindowName b := by decide
  exact buckets window (List.contains_iff_mem.1 h)

theorem serviceKeys_readable (service : String) :
    ∀ e ∈ (serviceLabels service).entries,
      Query.isWordOf Query.isLabelChar e.1.toList = true := by
  rw [serviceLabels_entries]
  simp only [List.forall_mem_cons]
  exact ⟨by decide, by simp⟩

theorem latencyKeys_readable (service le : String) :
    ∀ e ∈ (latencyLabels service le).entries,
      Query.isWordOf Query.isLabelChar e.1.toList = true := by
  rw [latencyLabels_entries]
  simp only [List.forall_mem_cons]
  exact ⟨by decide, by decide, by simp⟩

namespace FixedWindow

theorem readable_errorCondition {r : Request} (h : IsWindowName r.alertWindow)
    (availability : Float) : (errorCondition r availability).Readable :=
  ⟨h, fun _ e => (nomatch e), serviceKeys_readable r.service⟩

theorem readable_latencyCondition {r : Request} (h : IsWindowName r.alertWindow)
    (t : LatencyTarget) : (latencyCondition r t).Readable :=
  ⟨h, fun _ e => (nomatch e), latencyKeys_readable r.service t.le⟩

theorem meaning_errorCondition (r : Request) (availability : Float) :
    (errorCondition r availability).query.meaning = fixedErrors r availability := by
  rw [Condition.meaning_query]
  rfl

theorem meaning_latencyCondition (r : Request) (t : LatencyTarget) :
    (latencyCondition r t).query.meaning = fixedLatency r t := by
  rw [Condition.meaning_query]
  simp only [latencyCondition, latencyLabels_entries]
  rfl

/-- A method with one window makes one alert, if the window is recorded and the wait is
    a span. -/
theorem errorAlerts_eq_ok {r : Request} {availability : Float} {alerts : List AlertRule}
    (h : errorAlerts r availability = .ok alerts) :
    Schedule.isSampled r.alertWindow = true ∧ ∃ d, wait r.alertWait = .ok d ∧
      alerts = [alertRule r.service .error .page [errorCondition r availability] d] := by
  rw [errorAlerts, checkWindow] at h
  split at h
  · rename_i sampled
    cases waited : wait r.alertWait with
    | error fault =>
      rw [waited] at h
      cases h
    | ok d =>
      rw [waited] at h
      exact ⟨sampled, d, rfl, (Except.ok.inj h).symm⟩
  · cases h

theorem latencyAlerts_eq_ok {r : Request} {targets : List LatencyTarget}
    {alerts : List AlertRule} (h : latencyAlerts r targets = .ok alerts) :
    Schedule.isSampled r.alertWindow = true ∧ ∃ d, wait r.alertWait = .ok d ∧
      alerts = [alertRule r.service .latency .page (targets.map (latencyCondition r)) d] := by
  rw [latencyAlerts, checkWindow] at h
  split at h
  · rename_i sampled
    cases waited : wait r.alertWait with
    | error fault =>
      rw [waited] at h
      cases h
    | ok d =>
      rw [waited] at h
      exact ⟨sampled, d, rfl, (Except.ok.inj h).symm⟩
  · cases h

end FixedWindow

namespace MultiWindow

theorem readable_errorCondition (r : Request) (availability : Float) {w : BurnWindow}
    (h : w.Named) : (errorCondition r availability w).Readable :=
  ⟨h.long, h.short, serviceKeys_readable r.service⟩

theorem readable_latencyCondition (r : Request) (t : LatencyTarget) {w : BurnWindow}
    (h : w.Named) : (latencyCondition r t w).Readable :=
  ⟨h.long, h.short, latencyKeys_readable r.service t.le⟩

theorem meaning_errorCondition (r : Request) (availability : Float) (w : BurnWindow) :
    (errorCondition r availability w).query.meaning = windowErrors r availability w := by
  rw [Condition.meaning_query]
  rfl

theorem meaning_latencyCondition (r : Request) (t : LatencyTarget) (w : BurnWindow) :
    (latencyCondition r t w).query.meaning = windowLatency r t w := by
  rw [Condition.meaning_query]
  simp only [latencyCondition, latencyLabels_entries]
  rfl

end MultiWindow

/-! ## Alerts -/

/-- An alert says that any of the conditions holds: its expression can be read, and as
    these conditions in this order. -/
def Means (a : AlertRule) (conditions : List Meaning) : Prop :=
  ∃ m, Query.read? a.expr = some m ∧ Meaning.anyOf? conditions = some m

/-- An alert on readable conditions says what they say. -/
theorem means_alertRule (service : String) (signal : Signal) (severity : Severity)
    {conditions : List Condition} (ne_nil : conditions ≠ [])
    (readable : ∀ c ∈ conditions, c.Readable) (wait : Duration) :
    Means (alertRule service signal severity conditions wait)
      (conditions.map fun c => c.query.meaning) := by
  have read := Condition.read?_text readable
  cases conditions with
  | nil => exact absurd rfl ne_nil
  | cons c cs => exact ⟨_, read, rfl⟩

theorem severity?_of_labels {a : AlertRule} {severity : Severity} {signal : Signal}
    (h : a.labels = alertLabels severity signal) : a.severity? = some severity := by
  rw [AlertRule.severity?, h]
  cases severity <;> cases signal <;> rfl

/-! ### The method with one window -/

theorem FixedWindow.means_errorAlerts {r : Request} {availability : Float}
    {alerts : List AlertRule} (h : errorAlerts r availability = .ok alerts) :
    ∃ a, alerts = [a] ∧ a.labels = alertLabels .page .error ∧
      Means a [fixedErrors r availability] := by
  obtain ⟨sampled, d, -, rfl⟩ := errorAlerts_eq_ok h
  have readable := readable_errorCondition (isWindowName_of_isSampled sampled) availability
  have means := means_alertRule r.service .error .page (List.cons_ne_nil _ [])
    (List.forall_mem_singleton.2 readable) d
  rw [List.map_singleton, meaning_errorCondition] at means
  exact ⟨_, rfl, rfl, means⟩

theorem FixedWindow.means_latencyAlerts {r : Request} {targets : List LatencyTarget}
    {alerts : List AlertRule} (ne_nil : targets ≠ [])
    (h : latencyAlerts r targets = .ok alerts) :
    ∃ a, alerts = [a] ∧ a.labels = alertLabels .page .latency ∧
      Means a (targets.map (fixedLatency r)) := by
  obtain ⟨sampled, d, -, rfl⟩ := latencyAlerts_eq_ok h
  have readable : ∀ c ∈ targets.map (latencyCondition r), c.Readable :=
    List.forall_mem_map.2 fun t _ =>
      readable_latencyCondition (isWindowName_of_isSampled sampled) t
  have means := means_alertRule r.service .latency .page (by simpa using ne_nil) readable d
  simp only [List.map_map, Function.comp_def, meaning_latencyCondition] at means
  exact ⟨_, rfl, rfl, means⟩

/-! ### The method with several windows -/

theorem MultiWindow.means_errorAlerts {r : Request} {table : List (Severity × List BurnWindow)}
    (h : burnWindows r.objectiveWindow r.windows r.shortWindow = .ok table)
    (availability : Float) :
    ∃ alerts, errorAlerts r availability = .ok alerts ∧
      List.Forall₂ (fun a e => a.labels = alertLabels e.1 .error ∧
        Means a (e.2.map (windowErrors r availability))) alerts table := by
  refine ⟨table.map fun e => alertRule r.service .error e.1
    (e.2.map (errorCondition r availability)) Duration.zero, ?_, ?_⟩
  · rw [errorAlerts, h]
    rfl
  · rw [List.forall₂_map_left_iff]
    refine List.forall₂_same.2 fun e he => ⟨rfl, ?_⟩
    obtain ⟨some_window, named⟩ := burnWindows_named h e he
    have readable : ∀ c ∈ e.2.map (errorCondition r availability), c.Readable :=
      List.forall_mem_map.2 fun w hw => readable_errorCondition r availability (named w hw)
    have means := means_alertRule r.service .error e.1 (by simpa using some_window) readable
      Duration.zero
    simp only [List.map_map, Function.comp_def, meaning_errorCondition] at means
    exact means

theorem MultiWindow.means_latencyAlerts {r : Request}
    {table : List (Severity × List BurnWindow)}
    (h : burnWindows r.objectiveWindow r.windows r.shortWindow = .ok table)
    {targets : List LatencyTarget} (ne_nil : targets ≠ []) :
    ∃ alerts, latencyAlerts r targets = .ok alerts ∧
      List.Forall₂ (fun a e => a.labels = alertLabels e.1 .latency ∧
        Means a (targets.flatMap fun t => e.2.map (windowLatency r t))) alerts table := by
  refine ⟨table.map fun e => alertRule r.service .latency e.1
    (targets.flatMap fun t => e.2.map (latencyCondition r t)) Duration.zero, ?_, ?_⟩
  · rw [latencyAlerts, h]
    rfl
  · rw [List.forall₂_map_left_iff]
    refine List.forall₂_same.2 fun e he => ⟨rfl, ?_⟩
    obtain ⟨some_window, named⟩ := burnWindows_named h e he
    have readable : ∀ c ∈ targets.flatMap fun t => e.2.map (latencyCondition r t),
        c.Readable := by
      intro c hc
      obtain ⟨t, -, hc⟩ := List.mem_flatMap.1 hc
      obtain ⟨w, hw, rfl⟩ := List.mem_map.1 hc
      exact readable_latencyCondition r t (named w hw)
    -- a first target and a first window make a first condition
    have some_condition : (targets.flatMap fun t => e.2.map (latencyCondition r t)) ≠ [] := by
      obtain ⟨t, ts, rfl⟩ := List.exists_cons_of_ne_nil ne_nil
      simp [some_window]
    have means := means_alertRule r.service .latency e.1 some_condition readable Duration.zero
    simp only [List.map_flatMap, List.map_map, Function.comp_def, meaning_latencyCondition]
      at means
    exact means

/-! ### Both methods -/

/-- The expressions of both methods can be read, and say what is meant. -/
theorem builtin_alerts_mean (r : Request) :
    (∀ availability alerts, Method.simple.errorAlerts r availability = .ok alerts →
      ∃ a, alerts = [a] ∧ Means a [fixedErrors r availability]) ∧
    (∀ targets alerts, targets ≠ [] → Method.simple.latencyAlerts r targets = .ok alerts →
      ∃ a, alerts = [a] ∧ Means a (targets.map (fixedLatency r))) ∧
    (∀ table, burnWindows r.objectiveWindow r.windows r.shortWindow = .ok table →
      (∀ availability, ∃ alerts, Method.multiWindow.errorAlerts r availability = .ok alerts ∧
        List.Forall₂ (fun a e => a.severity? = some e.1 ∧
          Means a (e.2.map (windowErrors r availability))) alerts table) ∧
      (∀ targets, targets ≠ [] → ∃ alerts,
        Method.multiWindow.latencyAlerts r targets = .ok alerts ∧
        List.Forall₂ (fun a e => a.severity? = some e.1 ∧
          Means a (targets.flatMap fun t => e.2.map (windowLatency r t))) alerts table)) := by
  refine ⟨fun availability alerts h => ?_, fun targets alerts ne_nil h => ?_,
    fun table ht => ⟨fun availability => ?_, fun targets ne_nil => ?_⟩⟩
  · obtain ⟨a, single, -, means⟩ := FixedWindow.means_errorAlerts h
    exact ⟨a, single, means⟩
  · obtain ⟨a, single, -, means⟩ := FixedWindow.means_latencyAlerts ne_nil h
    exact ⟨a, single, means⟩
  · obtain ⟨alerts, made, means⟩ := MultiWindow.means_errorAlerts ht availability
    exact ⟨alerts, made, means.imp fun a e h => ⟨severity?_of_labels h.1, h.2⟩⟩
  · obtain ⟨alerts, made, means⟩ := MultiWindow.means_latencyAlerts ht ne_nil
    exact ⟨alerts, made, means.imp fun a e h => ⟨severity?_of_labels h.1, h.2⟩⟩

/-- A name that tries to leave its quotes stays in them. -/
theorem builtin_alerts_mean_quoted :
    let r : Request := { service := "a\"\x7d or b\\", alertWindow := "1h" }
    let targets : List LatencyTarget := [⟨"0.1", 95.0⟩, ⟨"+Inf", 99.0⟩]
    (∃ a, Method.simple.errorAlerts r 99.9 = .ok [a] ∧ Means a [fixedErrors r 99.9]) ∧
    (∃ a, Method.simple.latencyAlerts r targets = .ok [a] ∧
      Means a (targets.map (fixedLatency r))) ∧
    (∃ page ticket, Method.multiWindow.errorAlerts r 99.9 = .ok [page, ticket] ∧
      page.severity? = some .page ∧
      Means page [windowErrors r 99.9 ⟨14.4, "1h", some "5m"⟩,
        windowErrors r 99.9 ⟨6.0, "6h", some "30m"⟩]) := by
  intro r targets
  obtain ⟨fixed_errors, fixed_latency, windows⟩ := builtin_alerts_mean r
  obtain ⟨a, ha, means_a⟩ := fixed_errors 99.9 _ rfl
  obtain ⟨b, hb, means_b⟩ := fixed_latency targets _ (List.cons_ne_nil _ _) rfl
  obtain ⟨alerts, made, means⟩ := (windows defaultWindows rfl).1 99.9
  -- the default table has a row for pages and one for tickets
  rcases means with _ | ⟨⟨severity, means_page⟩, _ | ⟨-, _ | _⟩⟩
  exact ⟨⟨a, ha ▸ rfl, means_a⟩, ⟨b, hb ▸ rfl, means_b⟩, _, _, made, severity, means_page⟩

end ErrorBudget.Burn
