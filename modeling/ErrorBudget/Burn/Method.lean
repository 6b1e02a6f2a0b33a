/-
  ErrorBudget.Burn.Method

  Alerting methods and the registry in which services look them up by name.
-/
import ErrorBudget.Burn.FixedWindow
import ErrorBudget.Burn.MultiWindow

namespace ErrorBudget.Burn

/-- An alerting method: how it is called, and how it makes alerts on errors, given
    an availability, and on latency, given targets. -/
structure Method where
  name : String
  errorAlerts : Request → Float → Except Fault (List AlertRule)
  latencyAlerts : Request → List LatencyTarget → Except Fault (List AlertRule)

namespace Method

/-- One window, one threshold. -/
def simple : Method :=
  ⟨"simple", FixedWindow.errorAlerts, FixedWindow.latencyAlerts⟩

/-- Several windows for each severity. -/
def multiWindow : Method :=
  ⟨"multi-window", MultiWindow.errorAlerts, MultiWindow.latencyAlerts⟩

/-- The methods that every registry can be given. -/
def builtin : List Method := [simple, multiWindow]

/-- The built-in method of a name. -/
def ofName? (name : String) : Option Method :=
  builtin.find? fun m => m.name == name

end Method

/-- Methods by their names. -/
abbrev Registry := KeyMap Method

namespace Registry

/-- The registry with a method added, over one of the same name. -/
def register (r : Registry) (m : Method) : Registry :=
  r.insert m.name m

/-- The registry without methods. -/
def none : Registry := KeyMap.empty

/-- The registry of the built-in methods. -/
def builtin : Registry :=
  Method.builtin.foldl register none

/-- The method of a name, which has to be there. -/
def resolve (r : Registry) (name : String) : Except Fault Method :=
  match r.get? name with
  | some m => .ok m
  | .none => .error (.unknownMethod name)

/-- The names of all methods, in ascending order. -/
def names (r : Registry) : List String := r.keys

end Registry

end ErrorBudget.Burn
