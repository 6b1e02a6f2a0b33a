/-
  ErrorBudget.ClassTable

  Classes by their names, and the objectives that apply to a service.
-/
import ErrorBudget.Fault
import ErrorBudget.Slo

namespace ErrorBudget

/-- Classes by their names. -/
abbrev ClassTable := KeyMap ServiceClass

namespace ClassTable

/-- The table of a list of classes; of several with one name the first counts. -/
def ofClasses (classes : List ServiceClass) : ClassTable :=
  classes.foldl (fun t c => t.insertNew c.name c) KeyMap.empty

/-- The class of a name: none for the empty name, and any other has to be there. -/
def find (t : ClassTable) (name : String) : Except Fault (Option ServiceClass) :=
  if name.isEmpty then .ok none
  else match t.get? name with
    | some c => .ok (some c)
    | none => .error (.unknownClass name)

end ClassTable

/-- The objectives that apply to a service: those of its class, or its own. -/
def Slo.resolveObjectives (slo : Slo) (t : ClassTable) : Except Fault Objectives :=
  match t.find slo.className with
  | .error fault => .error fault
  | .ok (some c) => .ok c.objectives
  | .ok none => .ok slo.objectives

end ErrorBudget
