/-
  ErrorBudget.Proofs.Metrics.AlertRules

  What the number of alert rules is a number of. Alerts are counted when a method has made
  them. Of a service that gets its rules, tickets that are left out have been counted
  before; and a service that fails over its latency alerts has had its alerts on errors
  counted. Everything else that is counted is an alert of a service that has rules.
-/
import Mathlib.Data.List.Basic
import ErrorBudget.Proofs.Generation.Isolation
import ErrorBudget.Proofs.Generation.Parts
import ErrorBudget.Proofs.Metrics.Recorder
import ErrorBudget.Proofs.Tickets.Projection

namespace ErrorBudget

open Metrics (Event Recorder)

/-! ## Alerts by what becomes of them -/

/-- The service with nothing that alerts on latency. -/
def Slo.withoutLatencyAlerts (slo : Slo) : Slo :=
  { slo with latency := { slo.latency with alertMethod := "" } }

/-- An alert of a service is on a signal that is alerted on by a method. -/
def Slo.BuiltBy (slo : Slo) (method : String) (signal : Signal) (a : AlertRule) : Prop :=
  a.IsOn slo.name signal ∧ (slo.indicator signal).alertMethod = method

instance (slo : Slo) (method : String) (signal : Signal) :
    DecidablePred (slo.BuiltBy method signal) :=
  fun _ => inferInstanceAs (Decidable (_ ∧ _))

namespace Generator

/-- The alerts of a service that has rules. -/
def keptAlerts (g : Generator) (classes : ClassTable) (slo : Slo) : List AlertRule :=
  match g.generate slo classes with
  | .ok rules => rules.alerts
  | .error _ => []

/-- The tickets of a service that are left out because tickets are off. -/
def droppedAlerts (g : Generator) (classes : ClassTable) (slo : Slo) : List AlertRule :=
  if g.disableTicket then
    (keptAlerts ⟨g.registry, false⟩ classes slo).filter fun a =>
      a.labels.get? "severity" = some "ticket"
  else []

/-- The alerts of a service that was prepared and has no rules: those that it would have
    if nothing alerted on latency. -/
def abandonedAlerts (g : Generator) (classes : ClassTable) (slo : Slo) : List AlertRule :=
  match g.prepare slo classes, g.generate slo classes with
  | .ok _, .error _ => keptAlerts ⟨g.registry, false⟩ classes slo.withoutLatencyAlerts
  | _, _ => []

end Generator

/-- Alerts of all services of a document, each with its service. -/
def Document.alertsBy (d : Document) (alerts : ClassTable → Slo → List AlertRule) :
    List (Slo × AlertRule) :=
  d.slos.flatMap fun slo => (alerts (.ofClasses d.classes) slo).map fun a => (slo, a)

/-! ## Batches -/

namespace Alerting

/-- A batch on errors bears the name of the method that was asked for. -/
theorem errorBatch_made {slo : Slo} {o : Objectives} {methods : AlertMethods}
    {b : Option Batch} (named : methods.errors = Burn.Method.ofName? slo.errors.alertMethod)
    (h : errorBatch slo o methods = .ok b) :
    ∀ batch ∈ b, batch.method = slo.errors.alertMethod ∧ batch.signal = .error := by
  rw [errorBatch, named] at h
  split at h
  · obtain rfl := Except.ok.inj h
    rintro batch ⟨⟩
  · rename_i m found
    have name : m.name = slo.errors.alertMethod := by simpa using List.find?_some found
    split at h
    · obtain rfl := Except.ok.inj h
      rintro batch ⟨⟩
      exact ⟨name, rfl⟩
    · cases h

theorem latencyBatch_made {slo : Slo} {o : Objectives} {methods : AlertMethods}
    {b : Option Batch} (named : methods.latency = Burn.Method.ofName? slo.latency.alertMethod)
    (h : latencyBatch slo o methods = .ok b) :
    ∀ batch ∈ b, batch.method = slo.latency.alertMethod ∧ batch.signal = .latency := by
  rw [latencyBatch, named] at h
  split at h
  · obtain rfl := Except.ok.inj h
    rintro batch ⟨⟩
  · rename_i m found
    have name : m.name = slo.latency.alertMethod := by simpa using List.find?_some found
    split at h
    · obtain rfl := Except.ok.inj h
      rintro batch ⟨⟩
    · split at h
      · obtain rfl := Except.ok.inj h
        rintro batch ⟨⟩
        exact ⟨name, rfl⟩
      · cases h

end Alerting

namespace Metrics

/-- What is counted for a batch are its alerts. -/
theorem sum_batchEvents {b : Option Alerting.Batch} {method : String} {signal : Signal}
    (made : ∀ batch ∈ b, batch.method = method ∧ batch.signal = signal)
    (p : String → Signal → Bool) :
    ((batchEvents b).map (Event.alertRulesOf p)).sum =
      if p method signal then (Alerting.alertsOf b).length else 0 := by
  cases b with
  | none => exact (ite_self 0).symm
  | some batch =>
    obtain ⟨rfl, rfl⟩ := made batch rfl
    exact Nat.add_zero _

end Metrics

/-! ## One service -/

namespace Generator

variable {disableTicket : Bool} {slo : Slo} {classes : ClassTable} {o : Objectives}
  {methods : AlertMethods}

/-- What was prepared has the methods that are named. -/
theorem exists_of_prepared {p : PreparedSlo}
    (prepared : prepare ⟨.builtin, disableTicket⟩ slo classes = .ok p) :
    ∃ o methods, p = ⟨slo, o, methods⟩ ∧
      methods.errors = Burn.Method.ofName? slo.errors.alertMethod ∧
      methods.latency = Burn.Method.ofName? slo.latency.alertMethod := by
  cases applies : slo.applicable? classes with
  | none =>
    rw [prepare, resolveObjectives_eq, applies] at prepared
    cases prepared
  | some o => exact ⟨o, _, prepare_eq_ok applies prepared, rfl, rfl⟩

/-- A service that was prepared has rules if the alerts on both signals can be made. -/
theorem generate_of_prepared
    (prepared : prepare ⟨.builtin, disableTicket⟩ slo classes = .ok ⟨slo, o, methods⟩) :
    generate ⟨.builtin, disableTicket⟩ slo classes =
      match Alerting.errorBatch slo o methods, Alerting.latencyBatch slo o methods with
      | .ok errors, .ok latency => .ok ⟨slo.name, Recording.groups slo o disableTicket,
          Alerting.finished slo disableTicket
            (Alerting.alertsOf errors ++ Alerting.alertsOf latency)⟩
      | .ok _, .error f => .error f
      | .error f, _ => .error f := by
  rw [generate, prepared]
  change build ⟨.builtin, disableTicket⟩ ⟨slo, o, methods⟩ = _
  rw [build, Alerting.alerts]
  cases Alerting.errorBatch slo o methods with
  | error f => rfl
  | ok errors =>
    cases Alerting.latencyBatch slo o methods with
    | error f => rfl
    | ok latency => rfl

theorem keptAlerts_of_prepared
    (prepared : prepare ⟨.builtin, disableTicket⟩ slo classes = .ok ⟨slo, o, methods⟩) :
    keptAlerts ⟨.builtin, disableTicket⟩ classes slo =
      match Alerting.errorBatch slo o methods, Alerting.latencyBatch slo o methods with
      | .ok errors, .ok latency => Alerting.finished slo disableTicket
          (Alerting.alertsOf errors ++ Alerting.alertsOf latency)
      | _, _ => [] := by
  rw [keptAlerts, generate_of_prepared prepared]
  cases Alerting.errorBatch slo o methods with
  | error f => rfl
  | ok errors =>
    cases Alerting.latencyBatch slo o methods with
    | error f => rfl
    | ok latency => rfl

/-- A service that was prepared is also prepared if nothing alerts on its latency. -/
theorem prepare_withoutLatencyAlerts
    (prepared : prepare ⟨.builtin, disableTicket⟩ slo classes = .ok ⟨slo, o, methods⟩) :
    prepare ⟨.builtin, false⟩ slo.withoutLatencyAlerts classes =
      .ok ⟨slo.withoutLatencyAlerts, o, ⟨methods.errors, none⟩⟩ := by
  rw [prepare] at prepared
  obtain ⟨o', found, prepared⟩ := exists_of_bind_eq_ok prepared
  obtain ⟨_, objectives, prepared⟩ := exists_of_bind_eq_ok prepared
  obtain ⟨_, errors, prepared⟩ := exists_of_bind_eq_ok prepared
  obtain ⟨_, latency, prepared⟩ := exists_of_bind_eq_ok prepared
  obtain ⟨methods', resolved, prepared⟩ := exists_of_bind_eq_ok prepared
  obtain ⟨-, rfl, rfl⟩ := PreparedSlo.mk.inj (Except.ok.inj prepared)
  obtain ⟨m, named, resolved⟩ := exists_of_bind_eq_ok resolved
  obtain ⟨n, -, resolved⟩ := exists_of_bind_eq_ok resolved
  obtain rfl := Except.ok.inj resolved
  have found_again : AlertMethods.resolve slo.withoutLatencyAlerts .builtin = .ok ⟨m, none⟩ := by
    change (AlertMethods.resolveOne slo slo.errors .builtin "errorRateRecord" >>= fun errors =>
      pure (AlertMethods.mk errors none)) = _
    rw [named]
    rfl
  -- the checks look at the objectives and the custom windows, which are the same
  change (do
    let o ← locate slo "class" (slo.resolveObjectives classes)
    locate slo "objectives" o.check
    locate slo "errorRateRecord" slo.errors.checkWindows
    locate slo "latencyRecord" slo.latency.checkWindows
    let methods ← AlertMethods.resolve slo.withoutLatencyAlerts .builtin
    return PreparedSlo.mk slo.withoutLatencyAlerts o methods) = _
  rw [found, errors, latency, found_again]
  change (locate slo "objectives" o'.check >>= fun _ => _) = _
  rw [objectives]
  rfl

/-- What is abandoned are the alerts on errors, if those on latency cannot be made. -/
theorem abandonedAlerts_of_prepared
    (prepared : prepare ⟨.builtin, disableTicket⟩ slo classes = .ok ⟨slo, o, methods⟩) :
    abandonedAlerts ⟨.builtin, disableTicket⟩ classes slo =
      match Alerting.errorBatch slo o methods, Alerting.latencyBatch slo o methods with
      | .ok errors, .error _ => (Alerting.alertsOf errors).map (Alerting.withMetadata slo)
      | _, _ => [] := by
  have alone := keptAlerts_of_prepared (prepare_withoutLatencyAlerts prepared)
  -- the alerts on errors are the same whatever alerts on latency
  change _ = (match Alerting.errorBatch slo o methods, (.ok none : Except Fault _) with
    | .ok errors, .ok latency => Alerting.finished slo false
        (Alerting.alertsOf errors ++ Alerting.alertsOf latency)
    | _, _ => []) at alone
  rw [abandonedAlerts, prepared, generate_of_prepared prepared]
  simp only
  rw [alone]
  cases Alerting.errorBatch slo o methods with
  | error f => rfl
  | ok errors =>
    cases Alerting.latencyBatch slo o methods with
    | error f =>
      simp only [Alerting.finished_false]
      rw [show Alerting.alertsOf none = [] from rfl, List.append_nil]
    | ok latency => rfl

/-- The alerts that are made for a service: with its labels and annotations they are the ones
    that are kept, dropped and abandoned, and they are what is counted. -/
structure Makes (g : Generator) (classes : ClassTable) (slo : Slo)
    (errors latency : List AlertRule) : Prop where
  on_errors : ∀ a ∈ errors, a.IsOn slo.name .error
  on_latency : ∀ a ∈ latency, a.IsOn slo.name .latency
  listed : (g.keptAlerts classes slo ++ g.droppedAlerts classes slo
    ++ g.abandonedAlerts classes slo).Perm ((errors ++ latency).map (Alerting.withMetadata slo))
  counted : ∀ p, ((Metrics.sloEvents g slo classes).map (Event.alertRulesOf p)).sum =
    (if p slo.errors.alertMethod .error then errors.length else 0)
      + if p slo.latency.alertMethod .latency then latency.length else 0

/-- Of the alert rules, only batches that were made are counted. -/
theorem sum_sloEvents_of_prepared
    (prepared : prepare ⟨.builtin, disableTicket⟩ slo classes = .ok ⟨slo, o, methods⟩)
    (q : String → Signal → Bool) :
    ((Metrics.sloEvents ⟨.builtin, disableTicket⟩ slo classes).map (Event.alertRulesOf q)).sum =
      match Alerting.errorBatch slo o methods, Alerting.latencyBatch slo o methods with
      | .ok errors, .ok latency =>
        ((Metrics.batchEvents errors).map (Event.alertRulesOf q)).sum
          + ((Metrics.batchEvents latency).map (Event.alertRulesOf q)).sum
      | .ok errors, .error _ => ((Metrics.batchEvents errors).map (Event.alertRulesOf q)).sum
      | .error _, _ => 0 := by
  have alerts_alone : ((Metrics.sloEvents ⟨.builtin, disableTicket⟩ slo classes).map
      (Event.alertRulesOf q)).sum =
      ((Metrics.alertEvents ⟨slo, o, methods⟩).map (Event.alertRulesOf q)).sum := by
    rw [Metrics.sloEvents, prepared]
    simp only [List.map_append, List.sum_append]
    cases build ⟨.builtin, disableTicket⟩ ⟨slo, o, methods⟩ with
    | error f => rfl
    | ok rules => rfl
  rw [alerts_alone, Metrics.alertEvents]
  cases Alerting.errorBatch slo o methods with
  | error f => rfl
  | ok errors =>
    cases Alerting.latencyBatch slo o methods with
    | error f => simp only [List.append_nil]
    | ok latency => simp only [List.map_append, List.sum_append]

/-- Tickets that are left out are those that are missing. -/
theorem finished_append_dropped_perm (slo : Slo) (as : List AlertRule) :
    (Alerting.finished slo true as ++ (Alerting.finished slo false as).filter fun a =>
      a.labels.get? "severity" = some "ticket").Perm (as.map (Alerting.withMetadata slo)) := by
  rw [Alerting.finished_false, Alerting.finished, funext Alerting.isKept_true]
  have parted := List.filter_append_perm
    (fun a : AlertRule => decide (a.labels.get? "severity" ≠ some "ticket"))
    (as.map (Alerting.withMetadata slo))
  simpa using parted

/-- For a service that is not prepared, nothing is made. -/
theorem makes_of_unprepared {f : Fault}
    (failed : prepare ⟨.builtin, disableTicket⟩ slo classes = .error f) :
    Makes ⟨.builtin, disableTicket⟩ classes slo [] [] := by
  have kept (off : Bool) : keptAlerts ⟨.builtin, off⟩ classes slo = [] := by
    have failed : prepare ⟨.builtin, off⟩ slo classes = .error f := failed
    rw [keptAlerts, generate, failed]
    rfl
  refine ⟨List.forall_mem_nil _, List.forall_mem_nil _, ?_, fun q => ?_⟩
  · rw [kept, droppedAlerts, kept, abandonedAlerts, failed]
    simp
  · rw [Metrics.sloEvents, failed]
    simp

/-- For a service that was prepared, the alerts on errors are made first. If they can be
    made, they are counted whether those on latency can be made or not. -/
theorem exists_makes_of_prepared
    (prepared : prepare ⟨.builtin, disableTicket⟩ slo classes = .ok ⟨slo, o, methods⟩)
    (errors_named : methods.errors = Burn.Method.ofName? slo.errors.alertMethod)
    (latency_named : methods.latency = Burn.Method.ofName? slo.latency.alertMethod) :
    ∃ errors latency, Makes ⟨.builtin, disableTicket⟩ classes slo errors latency := by
  have kept (off : Bool) : keptAlerts ⟨.builtin, off⟩ classes slo = _ :=
    keptAlerts_of_prepared prepared
  have abandoned := abandonedAlerts_of_prepared prepared
  have counted (q) := sum_sloEvents_of_prepared prepared q
  cases errors_made : Alerting.errorBatch slo o methods with
  | error f =>
    simp only [errors_made] at kept abandoned counted
    refine ⟨[], [], List.forall_mem_nil _, List.forall_mem_nil _, ?_, fun q => ?_⟩
    · rw [kept, droppedAlerts, kept, abandoned]
      simp
    · rw [counted]
      simp
  | ok errors =>
    have on_errors := Alerting.isOn_errorBatch errors_named errors_made
    have count_errors :=
      Metrics.sum_batchEvents (Alerting.errorBatch_made errors_named errors_made)
    cases latency_made : Alerting.latencyBatch slo o methods with
    | error f =>
      simp only [errors_made, latency_made] at kept abandoned counted
      refine ⟨Alerting.alertsOf errors, [], on_errors, List.forall_mem_nil _, ?_, fun q => ?_⟩
      · rw [kept, droppedAlerts, kept, abandoned]
        simp
      · rw [counted, count_errors]
        simp
    | ok latency =>
      have on_latency := Alerting.isOn_latencyBatch latency_named latency_made
      have count_latency :=
        Metrics.sum_batchEvents (Alerting.latencyBatch_made latency_named latency_made)
      simp only [errors_made, latency_made] at kept abandoned counted
      refine ⟨Alerting.alertsOf errors, Alerting.alertsOf latency, on_errors, on_latency, ?_,
        fun q => ?_⟩
      · rw [kept, droppedAlerts, kept, abandoned, List.append_nil]
        -- only with tickets off is anything missing from the list
        cases disableTicket with
        | false =>
          rw [Alerting.finished_false]
          simp
        | true => exact finished_append_dropped_perm slo _
      · rw [counted, count_errors, count_latency]

/-- Whatever becomes of a service, its alerts that were counted are kept, dropped or
    abandoned. -/
theorem exists_makes (disableTicket : Bool) (classes : ClassTable) (slo : Slo) :
    ∃ errors latency, Makes ⟨.builtin, disableTicket⟩ classes slo errors latency := by
  cases prepared : prepare ⟨.builtin, disableTicket⟩ slo classes with
  | error f => exact ⟨[], [], makes_of_unprepared prepared⟩
  | ok p =>
    obtain ⟨o, methods, rfl, errors_named, latency_named⟩ := exists_of_prepared prepared
    exact exists_makes_of_prepared prepared errors_named latency_named

/-- Alerts on one signal are built by one method. -/
theorem countP_builtBy {as : List AlertRule} {signal : Signal}
    (on : ∀ a ∈ as, a.IsOn slo.name signal) (method : String) (s : Signal) :
    as.countP (fun a => slo.BuiltBy method s a) =
      if (slo.indicator signal).alertMethod = method ∧ signal = s then as.length else 0 := by
  split
  · rename_i built
    obtain ⟨named, rfl⟩ := built
    exact List.countP_eq_length.2 fun a ha => decide_eq_true ⟨on a ha, named⟩
  · rename_i other
    refine List.countP_eq_zero.2 fun a ha built => other ?_
    obtain ⟨is_on, named⟩ := of_decide_eq_true built
    obtain rfl := AlertRule.signal_eq_of_isOn (on a ha) is_on
    exact ⟨named, rfl⟩

/-- All alerts of a service that are kept, dropped or abandoned are counted. -/
theorem sum_sloEvents_all (disableTicket : Bool) (classes : ClassTable) (slo : Slo) :
    let g : Generator := ⟨.builtin, disableTicket⟩
    ((Metrics.sloEvents g slo classes).map (Event.alertRulesOf fun _ _ => true)).sum =
      (g.keptAlerts classes slo).length + (g.droppedAlerts classes slo).length
        + (g.abandonedAlerts classes slo).length := by
  intro g
  obtain ⟨errors, latency, makes⟩ := exists_makes disableTicket classes slo
  have listed := makes.listed.length_eq
  rw [List.length_append, List.length_append, List.length_map, List.length_append] at listed
  rw [makes.counted, if_pos rfl, if_pos rfl]
  exact listed.symm

/-- Each alert of a service is counted under its method and signal. -/
theorem sum_sloEvents_builtBy (disableTicket : Bool) (classes : ClassTable) (slo : Slo)
    (method : String) (signal : Signal) :
    let g : Generator := ⟨.builtin, disableTicket⟩
    ((Metrics.sloEvents g slo classes).map
        (Event.alertRulesOf fun n t => n = method ∧ t = signal)).sum =
      (g.keptAlerts classes slo).countP (fun a => slo.BuiltBy method signal a)
        + (g.droppedAlerts classes slo).countP (fun a => slo.BuiltBy method signal a)
        + (g.abandonedAlerts classes slo).countP (fun a => slo.BuiltBy method signal a) := by
  intro g
  obtain ⟨errors, latency, makes⟩ := exists_makes disableTicket classes slo
  have listed := makes.listed.countP_eq fun a => slo.BuiltBy method signal a
  rw [List.countP_append, List.countP_append, List.countP_map] at listed
  rw [listed, makes.counted]
  -- labels and annotations leave the name of an alert alone
  change _ = (errors ++ latency).countP fun a => slo.BuiltBy method signal a
  rw [List.countP_append, countP_builtBy makes.on_errors, countP_builtBy makes.on_latency]
  simp only [decide_eq_true_eq]
  rfl

/-! ## Documents -/

theorem map_snd_keptAlerts (g : Generator) (d : Document) :
    (d.alertsBy g.keptAlerts).map Prod.snd =
      (g.generateAll d).succeeded.flatMap SloRules.alerts := by
  rw [Document.alertsBy, generateAll, results]
  induction d.slos with
  | nil => rfl
  | cons slo slos ih =>
    simp only [List.flatMap_cons, List.map_append, List.map_cons, List.filterMap_cons] at ih ⊢
    rw [ih, List.map_map, keptAlerts]
    cases g.generate slo (.ofClasses d.classes) with
    | ok rules => simp [Except.toOption, Function.comp_def]
    | error f => simp [Except.toOption]

/-- Over a document, the alert rules that are counted are those of all its services. -/
theorem sum_documentEvents (g : Generator) (d : Document) (q : String → Signal → Bool) :
    ((Metrics.documentEvents g d).map (Event.alertRulesOf q)).sum =
      (d.slos.map fun slo => ((Metrics.sloEvents g slo (.ofClasses d.classes)).map
        (Event.alertRulesOf q)).sum).sum := by
  rw [Metrics.documentEvents]
  induction d.slos with
  | nil => rfl
  | cons slo slos ih =>
    simp only [List.flatMap_cons, List.map_append, List.sum_append, List.map_cons, List.sum_cons]
      at ih ⊢
    rw [ih]
    -- whether a service has rules is counted elsewhere
    cases g.generate slo (.ofClasses d.classes) with
    | ok rules => rfl
    | error f => rfl

theorem countP_alertsBy (d : Document) (alerts : ClassTable → Slo → List AlertRule)
    (p : Slo × AlertRule → Bool) :
    (d.alertsBy alerts).countP p = (d.slos.map fun slo =>
      (alerts (.ofClasses d.classes) slo).countP fun a => p (slo, a)).sum := by
  rw [Document.alertsBy, List.countP_flatMap]
  simp only [Function.comp_def, List.countP_map]

theorem length_alertsBy (d : Document) (alerts : ClassTable → Slo → List AlertRule) :
    (d.alertsBy alerts).length =
      (d.slos.map fun slo => (alerts (.ofClasses d.classes) slo).length).sum := by
  rw [Document.alertsBy, List.length_flatMap]
  simp only [List.length_map]

/-- A fresh recorder counts, over a document, the alerts of the services that have rules,
    and besides them the tickets that were left out and the alerts of services that failed
    over their latency alerts; together, and for each method and signal. -/
theorem alertRules_accounted (disableTicket : Bool) (d : Document) :
    let g : Generator := ⟨.builtin, disableTicket⟩
    let r := Recorder.recordAll {} (Metrics.documentEvents g d)
    let kept := d.alertsBy g.keptAlerts
    let dropped := d.alertsBy g.droppedAlerts
    let abandoned := d.alertsBy g.abandonedAlerts
    kept.map Prod.snd = (g.generateAll d).succeeded.flatMap SloRules.alerts ∧
    r.alertTotal = kept.length + dropped.length + abandoned.length ∧
    ∀ method signal, r.alertCount method signal =
      (kept ++ dropped ++ abandoned).countP fun e => e.1.BuiltBy method signal e.2 := by
  intro g r kept dropped abandoned
  obtain ⟨total, each⟩ :=
    Recorder.alerts_recordAll Recorder.inOrder_empty (Metrics.documentEvents g d)
  refine ⟨map_snd_keptAlerts g d, ?_, fun method signal => ?_⟩
  · rw [total, sum_documentEvents, length_alertsBy, length_alertsBy, length_alertsBy,
      ← List.sum_map_add, ← List.sum_map_add]
    have services := List.map_congr_left fun slo (_ : slo ∈ d.slos) =>
      sum_sloEvents_all disableTicket (.ofClasses d.classes) slo
    exact (Nat.zero_add _).trans (congrArg List.sum services)
  · rw [each, sum_documentEvents, List.countP_append, List.countP_append, countP_alertsBy,
      countP_alertsBy, countP_alertsBy, ← List.sum_map_add, ← List.sum_map_add]
    have services := List.map_congr_left fun slo (_ : slo ∈ d.slos) =>
      sum_sloEvents_builtBy disableTicket (.ofClasses d.classes) slo method signal
    exact (Nat.zero_add _).trans (congrArg List.sum services)

/-- With tickets off, a page and a ticket count as two alert rules, and one is left. A service
    that fails over its latency alerts counts two and has none. -/
theorem alertRules_overcounted :
    let tickets : Slo :=
      { name := "checkout"
        objectives := { availability := 99.9 }
        errors := { expr := "job:errors:ratio", alertMethod := "multi-window" } }
    let failing : Slo :=
      { tickets with
        objectives := { availability := 99.9, latency := [⟨"0.1", 95.0⟩] }
        latency := { alertMethod := "simple", alertWindow := "45m" } }
    let counted (g : Generator) (slo : Slo) :=
      (Recorder.recordAll {} (Metrics.documentEvents g ⟨[slo], []⟩)).alertTotal
    let had (g : Generator) (slo : Slo) :=
      ((g.generateAll ⟨[slo], []⟩).succeeded.flatMap SloRules.alerts).length
    (counted ⟨.builtin, true⟩ tickets = 2 ∧ had ⟨.builtin, true⟩ tickets = 1) ∧
      counted ⟨.builtin, false⟩ failing = 2 ∧ had ⟨.builtin, false⟩ failing = 0 := by
  intro tickets failing counted had
  refine ⟨?_, ?_⟩
  · obtain ⟨kept, total, -⟩ := alertRules_accounted true ⟨[tickets], []⟩
    simp only [counted, had]
    rw [total, ← kept]
    exact ⟨by decide +kernel, by decide +kernel⟩
  · obtain ⟨kept, total, -⟩ := alertRules_accounted false ⟨[failing], []⟩
    simp only [counted, had]
    rw [total, ← kept]
    exact ⟨by decide +kernel, by decide +kernel⟩

end Generator

end ErrorBudget
