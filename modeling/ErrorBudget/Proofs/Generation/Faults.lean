/-
  ErrorBudget.Proofs.Generation.Faults

  All that can be wrong with a service, in the order in which it is looked for.
  Making its rules fails with the first of these faults, and with nothing else.
-/
import ErrorBudget.Generate
import ErrorBudget.Proofs.Generation.Report

namespace ErrorBudget

/-! ## Alerting methods -/

/-- Faults of the name of an alerting method. -/
def Indicator.methodFaults (i : Indicator) : List Fault :=
  require (i.alertMethod ∈ ["", "simple", "multi-window"]) (.unknownMethod i.alertMethod)

/-- Faults of a text that says how long to wait. -/
def waitFaults (text : String) : List Fault :=
  if text = "" then []
  else match Duration.read text with
    | .ok _ => []
    | .error defect => [.duration text defect]

/-- The windows that can be alerted on alone. -/
def sampleWindows : List String :=
  ["5m", "30m", "1h", "2h", "6h", "1d", "3d"]

/-- Faults that a built-in method finds in an indicator. -/
def Indicator.alertFaults (slo : Slo) (block : String) (o : Objectives) (i : Indicator) :
    List Fault :=
  if i.alertMethod = "simple" then
    located slo (block ++ ".alertWindow")
        (require (i.alertWindow ∈ sampleWindows) (.unsampledWindow i.alertWindow))
      ++ located slo (block ++ ".alertWait") (waitFaults i.alertWait)
  else if i.alertMethod = "multi-window" then
    located slo (block ++ ".windows")
      (require (i.windows = [] ∨ o.window ≠ Duration.zero) .missingObjectiveWindow)
  else []

/-- The built-in methods have these names and no others. -/
theorem Burn.Method.ofName?_eq_some {name : String} {m : Method} (h : ofName? name = some m) :
    (name = "simple" ∧ m = simple) ∨ (name = "multi-window" ∧ m = multiWindow) := by
  have named : m.name = name := by simpa using List.find?_some h
  rcases List.mem_cons.1 (List.mem_of_find?_eq_some h) with rfl | listed
  · exact .inl ⟨named.symm, rfl⟩
  · obtain rfl := List.mem_singleton.1 listed
    exact .inr ⟨named.symm, rfl⟩

theorem Burn.Method.ofName?_eq_none {name : String} (h : ofName? name = none) :
    name ≠ "simple" ∧ name ≠ "multi-window" := by
  -- either name would have been found
  refine ⟨?_, ?_⟩
  · rintro rfl
    cases h
  · rintro rfl
    cases h

theorem Burn.Registry.get?_builtin (name : String) :
    builtin.get? name = Method.ofName? name := by
  -- the entries stand in the order of the names, not in the order of the methods
  have entries : builtin.entries =
      [("multi-window", .multiWindow), ("simple", .simple)] := rfl
  rw [KeyMap.get?, entries]
  cases found : Method.ofName? name with
  | some m =>
    rcases Method.ofName?_eq_some found with ⟨rfl, rfl⟩ | ⟨rfl, rfl⟩
    · rfl
    · rfl
  | none =>
    obtain ⟨not_simple, not_multi⟩ := Method.ofName?_eq_none found
    have no_simple : (name == "simple") = false := beq_false_of_ne not_simple
    have no_multi : (name == "multi-window") = false := beq_false_of_ne not_multi
    simp only [List.lookup, no_simple, no_multi]

namespace AlertMethods

/-- What a name is resolved to: nothing for no name, a built-in method, or a fault. -/
theorem resolveOne_builtin (slo : Slo) (i : Indicator) (field : String) :
    resolveOne slo i .builtin field =
      if i.alertMethod ∈ ["", "simple", "multi-window"] then
        .ok (Burn.Method.ofName? i.alertMethod)
      else .error (.ofSlo slo.name (field ++ ".alertMethod") (.unknownMethod i.alertMethod)) := by
  rw [resolveOne, Burn.Registry.resolve, Burn.Registry.get?_builtin, Indicator.hasAlertMethod]
  by_cases unnamed : i.alertMethod = ""
  · rw [unnamed]
    rfl
  · have named : (!!i.alertMethod.isEmpty) = false := by simpa using unnamed
    rw [named, if_neg Bool.false_ne_true]
    cases found : Burn.Method.ofName? i.alertMethod with
    | some m =>
      rcases Burn.Method.ofName?_eq_some found with ⟨simple, rfl⟩ | ⟨multi, rfl⟩
      · rw [simple]
        rfl
      · rw [multi]
        rfl
    | none =>
      obtain ⟨not_simple, not_multi⟩ := Burn.Method.ofName?_eq_none found
      rw [if_neg (by simp [unnamed, not_simple, not_multi])]

/-- Only an unknown name is a fault. -/
theorem reports_resolveOne (slo : Slo) (i : Indicator) (field : String) :
    Reports (resolveOne slo i .builtin field)
      (located slo (field ++ ".alertMethod") i.methodFaults) := by
  rw [resolveOne_builtin, Indicator.methodFaults, require]
  split
  · exact .pass _
  · exact .fail _ []

/-- The methods of both signals are looked up, and found if no name is unknown. -/
theorem reports_resolve (slo : Slo) :
    Reports (resolve slo .builtin)
      (located slo "errorRateRecord.alertMethod" slo.errors.methodFaults
        ++ located slo "latencyRecord.alertMethod" slo.latency.methodFaults) :=
  (reports_resolveOne slo slo.errors "errorRateRecord").bind fun _ _ =>
    (reports_resolveOne slo slo.latency "latencyRecord").map _

theorem resolve_eq_ok {slo : Slo} {methods : AlertMethods} (h : resolve slo .builtin = .ok methods) :
    methods = ⟨Burn.Method.ofName? slo.errors.alertMethod,
      Burn.Method.ofName? slo.latency.alertMethod⟩ := by
  rw [resolve, resolveOne_builtin, resolveOne_builtin] at h
  split at h
  · split at h
    · exact (Except.ok.inj h).symm
    · cases h
  · cases h

end AlertMethods

namespace Burn

theorem FixedWindow.reports_wait (text : String) :
    Reports (FixedWindow.wait text) (waitFaults text) := by
  rw [FixedWindow.wait, waitFaults]
  by_cases none_set : text = ""
  · rw [none_set]
    exact .pass _
  · rw [if_neg none_set, if_neg (by simpa using none_set)]
    cases Duration.read text with
    | ok d => exact .pass d
    | error defect => exact .fail _ []

theorem FixedWindow.reports_checkWindow (window : String) :
    Reports (FixedWindow.checkWindow window)
      (require (window ∈ sampleWindows) (.unsampledWindow window)) := by
  have sampled : Schedule.isSampled window = true ↔ window ∈ sampleWindows :=
    List.contains_iff_mem
  rw [FixedWindow.checkWindow, require]
  by_cases recorded : window ∈ sampleWindows
  · rw [if_pos recorded, if_pos (sampled.2 recorded)]
    exact .pass ()
  · rw [if_neg recorded, if_neg (mt sampled.1 recorded)]
    exact .fail _ []

/-- Faults that the method with one window finds. -/
def FixedWindow.faults (r : Request) : List Fault :=
  require (r.alertWindow ∈ sampleWindows) (.unsampledWindow r.alertWindow)
    ++ waitFaults r.alertWait

theorem FixedWindow.reports_errorAlerts (r : Request) (availability : Float) :
    Reports (errorAlerts r availability) (faults r) :=
  (reports_checkWindow r.alertWindow).bind fun _ _ => (reports_wait r.alertWait).map _

theorem FixedWindow.reports_latencyAlerts (r : Request) (targets : List LatencyTarget) :
    Reports (latencyAlerts r targets) (faults r) :=
  (reports_checkWindow r.alertWindow).bind fun _ _ => (reports_wait r.alertWait).map _

/-- Faults that the method with several windows finds. -/
def MultiWindow.faults (r : Request) : List Fault :=
  require (r.windows = [] ∨ r.objectiveWindow ≠ Duration.zero) .missingObjectiveWindow

theorem MultiWindow.reports_burnWindows (r : Request) :
    Reports (burnWindows r.objectiveWindow r.windows r.shortWindow) (faults r) := by
  rw [burnWindows, faults, require]
  by_cases default : r.windows = []
  · rw [if_pos (List.isEmpty_iff.2 default), if_pos (.inl default)]
    exact .pass _
  · rw [if_neg (mt List.isEmpty_iff.1 default)]
    by_cases covered : r.objectiveWindow = Duration.zero
    · rw [if_pos (r.objectiveWindow.isZero_iff.2 (not_not.2 covered)),
        if_neg (not_or.2 ⟨default, not_not.2 covered⟩)]
      exact .fail _ []
    · rw [if_neg (mt r.objectiveWindow.isZero_iff.1 (not_not.2 covered)), if_pos (.inr covered)]
      exact .pass _

theorem MultiWindow.reports_errorAlerts (r : Request) (availability : Float) :
    Reports (errorAlerts r availability) (faults r) :=
  (reports_burnWindows r).map _

theorem MultiWindow.reports_latencyAlerts (r : Request) (targets : List LatencyTarget) :
    Reports (latencyAlerts r targets) (faults r) :=
  (reports_burnWindows r).map _

end Burn

/-! ## Alerts -/

namespace Alerting

theorem locate_eq_mapError {α : Type} (slo : Slo) (block : String) (c : Except Fault α) :
    locate slo block c =
      c.mapError fun f => .ofSlo slo.name (block ++ "." ++ faultField f) f := by
  cases c with
  | ok x => rfl
  | error fault => rfl

/-- The path of a field of an indicator. -/
theorem path (block field : String) : block ++ "." ++ field = block ++ ("." ++ field) :=
  String.append_assoc

/-- The faults of the method with one window are told by the field that they are in. -/
theorem map_fixedWindow_faults (slo : Slo) (block : String) (r : Burn.Request) :
    (Burn.FixedWindow.faults r).map
        (fun f => .ofSlo slo.name (block ++ "." ++ faultField f) f) =
      located slo (block ++ ".alertWindow")
          (require (r.alertWindow ∈ sampleWindows) (.unsampledWindow r.alertWindow))
        ++ located slo (block ++ ".alertWait") (waitFaults r.alertWait) := by
  rw [Burn.FixedWindow.faults, List.map_append, located, located]
  congr 1
  · rw [require]
    split
    · rfl
    · exact congrArg (fun field => [Fault.ofSlo slo.name field _]) (path block "alertWindow")
  · rw [waitFaults]
    split
    · rfl
    · split
      · rfl
      · exact congrArg (fun field => [Fault.ofSlo slo.name field _]) (path block "alertWait")

/-- The fault of the method with several windows is told by the field that it is in. -/
theorem map_multiWindow_faults (slo : Slo) (block : String) (r : Burn.Request) :
    (Burn.MultiWindow.faults r).map
        (fun f => .ofSlo slo.name (block ++ "." ++ faultField f) f) =
      located slo (block ++ ".windows")
        (require (r.windows = [] ∨ r.objectiveWindow ≠ Duration.zero)
          .missingObjectiveWindow) := by
  rw [Burn.MultiWindow.faults, located, require]
  split
  · rfl
  · exact congrArg (fun field => [Fault.ofSlo slo.name field _]) (path block "windows")

/-- What a built-in method answers, with faults told by the field that they are in. -/
theorem reports_answer (slo : Slo) {i : Indicator} {m : Burn.Method}
    (named : Burn.Method.ofName? i.alertMethod = some m) (block : String) (o : Objectives)
    (burnRate : Option Float) :
    (∀ availability, Reports
        (locate slo block (m.errorAlerts (request slo o i burnRate) availability))
        (i.alertFaults slo block o)) ∧
      ∀ targets, Reports
        (locate slo block (m.latencyAlerts (request slo o i burnRate) targets))
        (i.alertFaults slo block o) := by
  simp only [locate_eq_mapError]
  -- a request hands on the window, the wait and the windows of the indicator as they are
  rcases Burn.Method.ofName?_eq_some named with ⟨simple, rfl⟩ | ⟨multi, rfl⟩
  · rw [Indicator.alertFaults, if_pos simple]
    have faults := map_fixedWindow_faults slo block (request slo o i burnRate)
    exact ⟨fun a => faults ▸ (Burn.FixedWindow.reports_errorAlerts _ a).mapError _,
      fun ts => faults ▸ (Burn.FixedWindow.reports_latencyAlerts _ ts).mapError _⟩
  · have not_simple : i.alertMethod ≠ "simple" := by
      rw [multi]
      decide
    rw [Indicator.alertFaults, if_neg not_simple, if_pos multi]
    have faults := map_multiWindow_faults slo block (request slo o i burnRate)
    exact ⟨fun a => faults ▸ (Burn.MultiWindow.reports_errorAlerts _ a).mapError _,
      fun ts => faults ▸ (Burn.MultiWindow.reports_latencyAlerts _ ts).mapError _⟩

theorem alertFaults_eq_nil {slo : Slo} {i : Indicator}
    (unnamed : Burn.Method.ofName? i.alertMethod = none) (block : String) (o : Objectives) :
    i.alertFaults slo block o = [] := by
  obtain ⟨not_simple, not_multi⟩ := Burn.Method.ofName?_eq_none unnamed
  rw [Indicator.alertFaults, if_neg not_simple, if_neg not_multi]

theorem reports_errorBatch {slo : Slo} {methods : AlertMethods}
    (h : methods.errors = Burn.Method.ofName? slo.errors.alertMethod) (o : Objectives) :
    Reports (errorBatch slo o methods) (slo.errors.alertFaults slo "errorRateRecord" o) := by
  rw [errorBatch, h]
  cases named : Burn.Method.ofName? slo.errors.alertMethod with
  | none =>
    rw [alertFaults_eq_nil named]
    exact .pass none
  | some m =>
    have answer := (reports_answer slo named "errorRateRecord" o slo.errors.burnRateOverride).1
      o.availability
    rw [errorRequest]
    simp only
    -- only the value differs from what the method answers, the fault does not
    split
    · rename_i alerts made
      rw [made] at answer
      exact answer.map fun alerts => some (Batch.mk m.name .error alerts)
    · rename_i fault failed
      rw [failed] at answer
      exact answer.map fun _ => none

/-- Latency is alerted on only if there are targets, so only then is anything wrong
    with how. -/
theorem reports_latencyBatch {slo : Slo} {methods : AlertMethods}
    (h : methods.latency = Burn.Method.ofName? slo.latency.alertMethod) (o : Objectives) :
    Reports (latencyBatch slo o methods)
      (if o.latency = [] then [] else slo.latency.alertFaults slo "latencyRecord" o) := by
  rw [latencyBatch, h]
  cases named : Burn.Method.ofName? slo.latency.alertMethod with
  | none =>
    rw [alertFaults_eq_nil named, ite_self]
    exact .pass none
  | some m =>
    simp only [List.isEmpty_iff]
    by_cases no_targets : o.latency = []
    · rw [if_pos no_targets, if_pos no_targets]
      exact .pass none
    · rw [if_neg no_targets, if_neg no_targets]
      have answer := (reports_answer slo named "latencyRecord" o
        (slo.latency.burnRateOverride.or slo.errors.burnRateOverride)).2 o.latency
      rw [latencyRequest]
      split
      · rename_i alerts made
        rw [made] at answer
        exact answer.map fun alerts => some (Batch.mk m.name .latency alerts)
      · rename_i fault failed
        rw [failed] at answer
        exact answer.map fun _ => none

theorem reports_alerts {slo : Slo} {methods : AlertMethods}
    (h : methods = ⟨Burn.Method.ofName? slo.errors.alertMethod,
      Burn.Method.ofName? slo.latency.alertMethod⟩) (o : Objectives) (disableTicket : Bool) :
    Reports (alerts slo o methods disableTicket)
      (slo.errors.alertFaults slo "errorRateRecord" o
        ++ if o.latency = [] then [] else slo.latency.alertFaults slo "latencyRecord" o) := by
  subst h
  exact (reports_errorBatch rfl o).bind fun _ _ => (reports_latencyBatch rfl o).map _

end Alerting

/-! ## Services -/

/-- The objectives that apply to a service: its own if it names no class, and else
    those of the class. -/
def Slo.applicable? (slo : Slo) (classes : ClassTable) : Option Objectives :=
  if slo.className = "" then some slo.objectives
  else (classes.get? slo.className).map ServiceClass.objectives

/-- All that is wrong with a service, in the order in which it is looked for. -/
def Slo.faults (slo : Slo) (classes : ClassTable) : List Fault :=
  match slo.applicable? classes with
  | none => located slo "class" [.unknownClass slo.className]
  | some o =>
    located slo "objectives" o.faults
      ++ located slo "errorRateRecord" slo.errors.windowFaults
      ++ located slo "latencyRecord" slo.latency.windowFaults
      ++ located slo "errorRateRecord.alertMethod" slo.errors.methodFaults
      ++ located slo "latencyRecord.alertMethod" slo.latency.methodFaults
      ++ slo.errors.alertFaults slo "errorRateRecord" o
      ++ if o.latency = [] then [] else slo.latency.alertFaults slo "latencyRecord" o

namespace Generator

theorem reports_locate {α : Type} {slo : Slo} {field : String} {c : Except Fault α}
    {fs : List Fault} (h : Reports c fs) : Reports (locate slo field c) (located slo field fs) := by
  have renamed : locate slo field c = c.mapError (.ofSlo slo.name field) := by
    cases c with
    | ok x => rfl
    | error fault => rfl
  rw [renamed]
  exact h.mapError _

/-- The objectives that apply are found, or the class that is named is not there. -/
theorem resolveObjectives_eq (slo : Slo) (classes : ClassTable) :
    slo.resolveObjectives classes =
      match slo.applicable? classes with
      | some o => .ok o
      | none => .error (.unknownClass slo.className) := by
  rw [Slo.resolveObjectives, ClassTable.find, Slo.applicable?]
  by_cases unnamed : slo.className = ""
  · rw [unnamed]
    rfl
  · rw [if_neg unnamed, if_neg (by simpa using unnamed)]
    cases classes.get? slo.className with
    | none => rfl
    | some c => rfl

/-- A service whose objectives are known is prepared, or what is wrong with it is
    reported. -/
theorem reports_prepare {slo : Slo} {classes : ClassTable} {o : Objectives}
    (h : slo.applicable? classes = some o) (disableTicket : Bool) :
    Reports (prepare ⟨.builtin, disableTicket⟩ slo classes)
      (located slo "objectives" o.faults
        ++ (located slo "errorRateRecord" slo.errors.windowFaults
        ++ (located slo "latencyRecord" slo.latency.windowFaults
        ++ (located slo "errorRateRecord.alertMethod" slo.errors.methodFaults
        ++ located slo "latencyRecord.alertMethod" slo.latency.methodFaults)))) := by
  rw [prepare, resolveObjectives_eq, h]
  exact (reports_locate o.reports_check).bind fun _ _ =>
    (reports_locate slo.errors.reports_checkWindows).bind fun _ _ =>
    (reports_locate slo.latency.reports_checkWindows).bind fun _ _ =>
    (AlertMethods.reports_resolve slo).map _

theorem prepare_eq_ok {slo : Slo} {classes : ClassTable} {o : Objectives}
    (h : slo.applicable? classes = some o) {disableTicket : Bool} {p : PreparedSlo}
    (prepared : prepare ⟨.builtin, disableTicket⟩ slo classes = .ok p) :
    p = ⟨slo, o, ⟨Burn.Method.ofName? slo.errors.alertMethod,
      Burn.Method.ofName? slo.latency.alertMethod⟩⟩ := by
  rw [prepare, resolveObjectives_eq, h] at prepared
  obtain ⟨found, same, prepared⟩ := exists_of_bind_eq_ok prepared
  obtain rfl : o = found := Except.ok.inj same
  -- the three checks of ranges leave nothing behind
  obtain ⟨_, -, prepared⟩ := exists_of_bind_eq_ok prepared
  obtain ⟨_, -, prepared⟩ := exists_of_bind_eq_ok prepared
  obtain ⟨_, -, prepared⟩ := exists_of_bind_eq_ok prepared
  obtain ⟨methods, resolved, prepared⟩ := exists_of_bind_eq_ok prepared
  rw [← AlertMethods.resolve_eq_ok resolved]
  exact (Except.ok.inj prepared).symm

/-- Making the rules of a service reports all that is wrong with it. -/
theorem reports_generate (disableTicket : Bool) (slo : Slo) (classes : ClassTable) :
    Reports (generate ⟨.builtin, disableTicket⟩ slo classes) (slo.faults classes) := by
  rw [generate, Slo.faults]
  cases h : slo.applicable? classes with
  | none =>
    rw [prepare, resolveObjectives_eq, h]
    exact .fail _ []
  | some o =>
    -- what is built from is known: there is only one way in which preparing succeeds
    have built (p : PreparedSlo) (prepared : prepare ⟨.builtin, disableTicket⟩ slo classes = .ok p) :
        Reports (build ⟨.builtin, disableTicket⟩ p)
          (slo.errors.alertFaults slo "errorRateRecord" o
            ++ if o.latency = [] then [] else slo.latency.alertFaults slo "latencyRecord" o) := by
      rw [prepare_eq_ok h prepared]
      exact (Alerting.reports_alerts rfl o disableTicket).map _
    have all := (reports_prepare h disableTicket).bind built
    simpa only [List.append_assoc] using all

end Generator

end ErrorBudget
