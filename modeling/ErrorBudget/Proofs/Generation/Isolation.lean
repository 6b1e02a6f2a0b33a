/-
  ErrorBudget.Proofs.Generation.Isolation

  The services of a document do not disturb each other. An outcome lists the result of
  every service once and in order; and this result is told by the service and by the first
  class that has the name it asks for, whatever else the document holds.
-/
import ErrorBudget.Proofs.ClassTable
import ErrorBudget.Proofs.Generation.Faults

namespace ErrorBudget

/-- The first class of a document with a name. -/
def Document.firstClass? (d : Document) (name : String) : Option ServiceClass :=
  d.classes.find? fun c => name = c.name

/-! ## Outcomes -/

/-- An outcome lists results: in their order, each either with its rules among those that
    were made or with its fault, under the name of its service, among the failures. -/
inductive Outcome.Lists : Outcome → List (Slo × Except Fault SloRules) → Prop where
  | nil : Lists ⟨[], []⟩ []
  | made (slo : Slo) (r : SloRules) {rs : List SloRules} {fs : List Failure}
      {results : List (Slo × Except Fault SloRules)} (others : Lists ⟨rs, fs⟩ results) :
      Lists ⟨r :: rs, fs⟩ ((slo, .ok r) :: results)
  | failed (slo : Slo) (f : Fault) {rs : List SloRules} {fs : List Failure}
      {results : List (Slo × Except Fault SloRules)} (others : Lists ⟨rs, fs⟩ results) :
      Lists ⟨rs, ⟨slo.name, f⟩ :: fs⟩ ((slo, .error f) :: results)

/-- Nothing is lost or listed twice. -/
theorem Outcome.Lists.length_add {o : Outcome} {results : List (Slo × Except Fault SloRules)}
    (h : o.Lists results) : o.succeeded.length + o.failed.length = results.length := by
  induction h with
  | nil => rfl
  | made slo r _ ih =>
    simp only [List.length_cons] at ih ⊢
    omega
  | failed slo f _ ih =>
    simp only [List.length_cons] at ih ⊢
    omega

namespace Generator

theorem lists_results (g : Generator) (d : Document) :
    (g.generateAll d).Lists (g.results d) := by
  rw [generateAll]
  -- rules and failures are picked from the same results
  induction g.results d with
  | nil => exact .nil
  | cons result results ih =>
    obtain ⟨slo, result⟩ := result
    cases result with
    | ok r => exact .made slo r ih
    | error f => exact .failed slo f ih

/-! ## What a result depends on -/

/-- Of the classes, only the objectives that they give to the service matter. -/
theorem generate_congr (g : Generator) {slo : Slo} {t u : ClassTable}
    (h : slo.applicable? t = slo.applicable? u) : g.generate slo t = g.generate slo u := by
  rw [generate, generate, prepare, prepare, resolveObjectives_eq, resolveObjectives_eq, h]

/-- Objectives that are found in a document: those of the first class of the name. -/
theorem applicable?_ofClasses (slo : Slo) (cs : List ServiceClass) :
    slo.applicable? (.ofClasses cs) =
      if slo.className = "" then some slo.objectives
      else (cs.find? fun c => slo.className = c.name).map ServiceClass.objectives := by
  rw [Slo.applicable?, ClassTable.get?_ofClasses]

theorem applicable?_of_firstClass {d e : Document} {slo : Slo}
    (h : slo.className ≠ "" → d.firstClass? slo.className = e.firstClass? slo.className) :
    slo.applicable? (.ofClasses d.classes) = slo.applicable? (.ofClasses e.classes) := by
  rw [applicable?_ofClasses, applicable?_ofClasses]
  by_cases own : slo.className = ""
  · rw [if_pos own, if_pos own]
  · have same : (d.classes.find? fun c => slo.className = c.name) =
        e.classes.find? fun c => slo.className = c.name := h own
    rw [if_neg own, if_neg own, same]

/-- With known objectives, rules are made in one go: three checks, the methods, and then
    all is there that is built from. -/
theorem generate_eq_of_applicable (g : Generator) {slo : Slo} {t : ClassTable} {o : Objectives}
    (h : slo.applicable? t = some o) :
    g.generate slo t = (do
      locate slo "objectives" o.check
      locate slo "errorRateRecord" slo.errors.checkWindows
      locate slo "latencyRecord" slo.latency.checkWindows
      let methods ← AlertMethods.resolve slo g.registry
      g.build ⟨slo, o, methods⟩) := by
  have found : locate slo "class" (slo.resolveObjectives t) = pure o := by
    rw [resolveObjectives_eq, h]
    rfl
  rw [generate, prepare, found]
  simp only [bind_assoc, pure_bind]

/-- A service that names a class is not asked for objectives of its own. -/
theorem generate_withObjectives (g : Generator) {slo : Slo} (h : slo.className ≠ "")
    (o : Objectives) (t : ClassTable) :
    g.generate { slo with objectives := o } t = g.generate slo t := by
  have same : Slo.applicable? { slo with objectives := o } t = slo.applicable? t := by
    rw [Slo.applicable?, Slo.applicable?, if_neg h, if_neg h]
  cases found : slo.applicable? t with
  | none =>
    rw [generate, generate, prepare, prepare, resolveObjectives_eq, resolveObjectives_eq, same,
      found]
    rfl
  | some applied =>
    rw [generate_eq_of_applicable g found, generate_eq_of_applicable g (same.trans found)]
    -- neither the checks nor the rules look at what else the service promises
    rfl

/-! ## Documents -/

theorem getElem?_results (g : Generator) {d : Document} {i : Nat} {slo : Slo}
    (h : d.slos[i]? = some slo) :
    (g.results d)[i]? = some (slo, g.generate slo (.ofClasses d.classes)) := by
  rw [results, List.getElem?_map, h]
  rfl

theorem generateAll_withObjectives (g : Generator) (before after : List Slo) {slo : Slo}
    (h : slo.className ≠ "") (classes : List ServiceClass) (o : Objectives) :
    g.generateAll ⟨before ++ { slo with objectives := o } :: after, classes⟩ =
      g.generateAll ⟨before ++ slo :: after, classes⟩ := by
  rw [generateAll, generateAll, results, results]
  -- an outcome tells a service by its name, which is the same
  simp only [List.map_append, List.map_cons, List.filterMap_append, List.filterMap_cons,
    generate_withObjectives g h]

/-- The outcome of a document lists the result of each of its services. The result of a
    service is the same in any two documents, wherever it stands in them, in which the
    first class of the name that it asks for is the same; and a service that asks for a
    class may promise anything itself. -/
theorem generateAll_isolates (g : Generator) :
    (∀ d : Document,
      g.results d = d.slos.map (fun slo => (slo, g.generate slo (.ofClasses d.classes))) ∧
      (g.generateAll d).Lists (g.results d) ∧
      (g.generateAll d).succeeded.length + (g.generateAll d).failed.length = d.slos.length) ∧
    (∀ (d e : Document) (i j : Nat) (slo : Slo),
      d.slos[i]? = some slo → e.slos[j]? = some slo →
      (slo.className ≠ "" → d.firstClass? slo.className = e.firstClass? slo.className) →
      ∃ result, (g.results d)[i]? = some (slo, result) ∧ (g.results e)[j]? = some (slo, result)) ∧
    ∀ (before after : List Slo) (slo : Slo) (classes : List ServiceClass) (o : Objectives),
      slo.className ≠ "" →
      g.generateAll ⟨before ++ { slo with objectives := o } :: after, classes⟩ =
        g.generateAll ⟨before ++ slo :: after, classes⟩ := by
  refine ⟨fun d => ⟨rfl, lists_results g d, ?_⟩, fun d e i j slo hi hj same => ?_,
    fun before after slo classes o named => ?_⟩
  · rw [(lists_results g d).length_add, results, List.length_map]
  · refine ⟨_, getElem?_results g hi, ?_⟩
    rw [getElem?_results g hj, generate_congr g (applicable?_of_firstClass same)]
  · exact generateAll_withObjectives g before after named classes o

/-- A service keeps its result when the service before it, which fails, and the classes
    around its own come and go, and when it promises more than there is. -/
theorem generateAll_isolates_checkout :
    let g : Generator := {}
    let gold : ServiceClass := ⟨"gold", { availability := 99.9 }⟩
    let checkout : Slo := { name := "checkout", className := "gold" }
    let search : Slo := { name := "search", className := "silver" }
    let d : Document := ⟨[search, checkout], [gold]⟩
    let e : Document := ⟨[checkout], [⟨"bronze", {}⟩, gold, ⟨"gold", { availability := 400.0 }⟩]⟩
    (∃ result, (g.results d)[1]? = some (checkout, result) ∧
      (g.results e)[0]? = some (checkout, result)) ∧
    g.generateAll ⟨[search, { checkout with objectives := { availability := 400.0 } }], [gold]⟩ =
      g.generateAll d := by
  intro g gold checkout search d e
  have named : checkout.className ≠ "" := by decide
  obtain ⟨-, same_entry, own_objectives⟩ := generateAll_isolates g
  exact ⟨same_entry d e 1 0 checkout rfl rfl fun _ => rfl,
    own_objectives [search] [] checkout [gold] { availability := 400.0 } named⟩

end Generator

end ErrorBudget
