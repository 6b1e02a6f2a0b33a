/-
  ErrorBudget.Proofs.Report

  What is said about a document next to what is made of it. A validation has an entry for
  every service, and behind it stand the rules of this service or its fault. So the entries
  without an error are the summary of all rules, those with one are the report on all
  failures, and as many services are called invalid as have no rules.
-/
import ErrorBudget.Report
import ErrorBudget.Proofs.Generation.Parts

namespace ErrorBudget.Report

/-- The line of a summary that an entry is, if it has no error. -/
def SloResult.summary? (e : SloResult) : Option SloSummary :=
  match e.error with
  | none => some ⟨e.name, e.recordingRules, e.alerts⟩
  | some _ => none

/-- The failure that an entry tells, if it has an error. -/
def SloResult.failure? (e : SloResult) : Option SloFailure :=
  e.error.map fun error => ⟨e.name, error⟩

/-- Entries agree with an outcome, service by service: a service with rules has them among
    those that were made and their numbers in its entry, and one without has its fault among
    the failures and the words for it in its entry. -/
inductive Agree (g : Generator) (classes : ClassTable) :
    List Slo → List SloResult → Outcome → Prop where
  | nil : Agree g classes [] [] ⟨[], []⟩
  | made {slo : Slo} {r : SloRules} {e : SloResult} {slos : List Slo} {rs : List SloRules}
      {fs : List Failure} {es : List SloResult} (generated : g.generate slo classes = .ok r)
      (name : e.name = slo.name) (error : e.error = none)
      (rules : e.recordingRules = r.recordingRuleCount) (alerts : e.alerts = r.alerts.length)
      (others : Agree g classes slos es ⟨rs, fs⟩) :
      Agree g classes (slo :: slos) (e :: es) ⟨r :: rs, fs⟩
  | failed {slo : Slo} {f : Fault} {e : SloResult} {slos : List Slo} {rs : List SloRules}
      {fs : List Failure} {es : List SloResult} (generated : g.generate slo classes = .error f)
      (name : e.name = slo.name) (error : e.error = some f.message)
      (rules : e.recordingRules = 0) (alerts : e.alerts = 0)
      (others : Agree g classes slos es ⟨rs, fs⟩) :
      Agree g classes (slo :: slos) (e :: es) ⟨rs, ⟨slo.name, f⟩ :: fs⟩

/-- The entries of a document agree with its outcome. -/
theorem agree_sloResults (g : Generator) (d : Document) :
    Agree g (.ofClasses d.classes) d.slos (sloResults g d) (g.generateAll d) := by
  rw [sloResults, Generator.generateAll, Generator.results]
  -- both go through the services in the same order
  induction d.slos with
  | nil => exact .nil
  | cons slo slos ih =>
    rw [List.map_cons, List.map_cons]
    cases generated : g.generate slo (.ofClasses d.classes) with
    | ok r => exact .made generated rfl rfl rfl rfl ih
    | error f => exact .failed generated rfl rfl rfl rfl ih

namespace Agree

variable {g : Generator} {classes : ClassTable} {slos : List Slo} {es : List SloResult}
  {o : Outcome}

/-- There is one entry for each service, in the order of the services. -/
theorem names (h : Agree g classes slos es o) : es.map SloResult.name = slos.map Slo.name := by
  induction h with
  | nil => rfl
  | made _ name _ _ _ _ ih => rw [List.map_cons, List.map_cons, name, ih]
  | failed _ name _ _ _ _ ih => rw [List.map_cons, List.map_cons, name, ih]

/-- The entries without an error are the summary of the rules. -/
theorem summaries (h : Agree g classes slos es o) :
    es.filterMap SloResult.summary? = o.succeeded.map SloSummary.of := by
  induction h with
  | nil => rfl
  | @made slo r e _ _ _ _ generated name error rules alerts _ ih =>
    have told : e.summary? = some (.of r) := by
      rw [SloResult.summary?, error, SloSummary.of, Generator.slo_eq_of_generate generated]
      simp only [name, rules, alerts]
    rw [List.filterMap_cons, told, ih, List.map_cons]
  | @failed _ _ e _ _ _ _ _ _ error _ _ _ ih =>
    have none_told : e.summary? = none := by rw [SloResult.summary?, error]
    rw [List.filterMap_cons, none_told, ih]

/-- The entries with an error are the report on the failures. -/
theorem failures (h : Agree g classes slos es o) :
    es.filterMap SloResult.failure? = o.failed.map SloFailure.of := by
  induction h with
  | nil => rfl
  | @made _ _ e _ _ _ _ _ _ error _ _ _ ih =>
    have none_told : e.failure? = none := by rw [SloResult.failure?, error, Option.map_none]
    rw [List.filterMap_cons, none_told, ih]
  | @failed slo f e _ _ _ _ _ name error _ _ _ ih =>
    have told : e.failure? = some (.of ⟨slo.name, f⟩) := by
      rw [SloResult.failure?, error, name, Option.map_some, SloFailure.of]
    rw [List.filterMap_cons, told, ih, List.map_cons]

/-- As many services are called invalid as have failed. -/
theorem invalidCount_eq (h : Agree g classes slos es o) : invalidCount es = o.failed.length := by
  induction h with
  | nil => rfl
  | made _ _ error _ _ _ ih =>
    rw [invalidCount, List.countP_cons, error, Option.isSome_none, if_neg Bool.false_ne_true]
    exact ih
  | failed _ _ error _ _ _ ih =>
    rw [invalidCount, List.countP_cons, error, Option.isSome_some, if_pos rfl]
    exact congrArg Nat.succ ih

theorem failed_eq_nil_iff (h : Agree g classes slos es o) :
    o.failed = [] ↔ ∀ slo ∈ slos, ∃ r, g.generate slo classes = .ok r := by
  induction h with
  | nil => exact ⟨fun _ => List.forall_mem_nil _, fun _ => rfl⟩
  | made generated _ _ _ _ _ ih =>
    rw [List.forall_mem_cons]
    exact ih.trans (and_iff_right ⟨_, generated⟩).symm
  | failed generated =>
    rw [List.forall_mem_cons, generated]
    exact ⟨fun h => (nomatch h), fun ⟨⟨_, h⟩, _⟩ => (nomatch h)⟩

end Agree

end ErrorBudget.Report
