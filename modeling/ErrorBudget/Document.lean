/-
  ErrorBudget.Document

  A document defines the objectives of several services and, optionally, the
  classes that they refer to.
-/
import ErrorBudget.Fault
import ErrorBudget.Slo
import ErrorBudget.Text.Blank

namespace ErrorBudget

/-- Services and the classes that they refer to. -/
structure Document where
  slos : List Slo := []
  classes : List ServiceClass := []
deriving Inhabited

/-- Classes in a file of their own. -/
structure ClassFile where
  classes : List ServiceClass := []
deriving Inhabited

/-- Checks names in order: each has to hold more than white space and may not be
    among those in `seen` or before it. -/
def checkNames (blank : NameFault) (repeated : String → NameFault) (seen : KeyMap Unit) :
    List String → Except NameFault Unit
  | [] => .ok ()
  | name :: names =>
    if Text.isBlank name then .error blank
    else if seen.contains name then .error (repeated name)
    else checkNames blank repeated (seen.insert name ()) names

namespace Document

/-- Checks the names of services, then those of classes. -/
def check (d : Document) : Except Fault Unit :=
  match checkNames .blankSlo .repeatedSlo KeyMap.empty (d.slos.map (·.name)) with
  | .error fault => .error (.names fault)
  | .ok () =>
    match checkNames .blankClass .repeatedClass KeyMap.empty (d.classes.map (·.name)) with
    | .error fault => .error (.names fault)
    | .ok () => .ok ()

/-- The document with the classes of a file. Only one of the two may define
    classes. -/
def mergeClasses (d : Document) (file : ClassFile) : Except Fault Document :=
  if file.classes.isEmpty then .ok d
  else if !d.classes.isEmpty then .error .conflictingClasses
  else .ok { d with classes := file.classes }

end Document

/-- Checks that no class name of a file is blank. -/
def ClassFile.check (f : ClassFile) : Except Fault Unit :=
  if f.classes.any fun c => Text.isBlank c.name then .error (.names .blankClass)
  else .ok ()

end ErrorBudget
