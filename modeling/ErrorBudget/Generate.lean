/-
  ErrorBudget.Generate

  From objectives to rules. A service is prepared first: its objectives are
  found, its numbers checked and its alerting methods looked up. Then its rules
  are built. A fault of one service leaves the others alone.
-/
import ErrorBudget.Alerting
import ErrorBudget.ClassTable
import ErrorBudget.Document
import ErrorBudget.Recording
import ErrorBudget.Slo.Check

namespace ErrorBudget

/-- A service with everything found that its rules are built from. -/
structure PreparedSlo where
  slo : Slo
  objectives : Objectives
  methods : AlertMethods

/-- Makes rules with the methods of a registry, with tickets or without. -/
structure Generator where
  registry : Burn.Registry := Burn.Registry.builtin
  disableTicket : Bool := false

namespace Generator

/-- A step of the preparation, a fault with the field that it is about. -/
def locate {α : Type} (slo : Slo) (field : String) : Except Fault α → Except Fault α
  | .ok x => .ok x
  | .error fault => .error (.ofSlo slo.name field fault)

/-- Finds the objectives, checks them and the custom windows, and looks up the
    alerting methods, in this order. -/
def prepare (g : Generator) (slo : Slo) (classes : ClassTable) : Except Fault PreparedSlo := do
  let objectives ← locate slo "class" (slo.resolveObjectives classes)
  locate slo "objectives" objectives.check
  locate slo "errorRateRecord" slo.errors.checkWindows
  locate slo "latencyRecord" slo.latency.checkWindows
  let methods ← AlertMethods.resolve slo g.registry
  return ⟨slo, objectives, methods⟩

/-- The rules of a prepared service. -/
def build (g : Generator) (p : PreparedSlo) : Except Fault SloRules := do
  let alerts ← Alerting.alerts p.slo p.objectives p.methods g.disableTicket
  return ⟨p.slo.name, Recording.groups p.slo p.objectives g.disableTicket, alerts⟩

/-- The rules of a service. -/
def generate (g : Generator) (slo : Slo) (classes : ClassTable) : Except Fault SloRules := do
  let p ← g.prepare slo classes
  g.build p

end Generator

/-! ## Whole documents -/

/-- A service that has no rules, and why. -/
structure Failure where
  slo : String
  fault : Fault

/-- The rules of a document's services, and the services that have none. -/
structure Outcome where
  succeeded : List SloRules
  failed : List Failure

namespace Outcome

/-- Whether every service has rules. -/
def isSuccess (o : Outcome) : Bool := o.failed.isEmpty

/-- All rules, or all failures if there are any. -/
def result (o : Outcome) : Except (List Failure) (List SloRules) :=
  if o.failed.isEmpty then .ok o.succeeded else .error o.failed

end Outcome

namespace Generator

/-- Each service of a document with its rules or its fault, in order. -/
def results (g : Generator) (d : Document) : List (Slo × Except Fault SloRules) :=
  let classes := ClassTable.ofClasses d.classes
  d.slos.map fun slo => (slo, g.generate slo classes)

/-- The rules of all services of a document. -/
def generateAll (g : Generator) (d : Document) : Outcome :=
  let results := g.results d
  { succeeded := results.filterMap fun (_, r) => r.toOption
    failed := results.filterMap fun (slo, r) => match r with
      | .ok _ => none
      | .error fault => some ⟨slo.name, fault⟩ }

end Generator

end ErrorBudget
