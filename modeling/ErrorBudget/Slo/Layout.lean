/-
  ErrorBudget.Slo.Layout

  Services, classes and documents as records with named fields: how they are
  read from any format, and the tree that holds all their fields.
-/
import ErrorBudget.Document
import ErrorBudget.Duration.Printer
import ErrorBudget.Tree

namespace ErrorBudget

open Source (field need record)

variable {σ : Type} [Source σ]

/-- A label set as a map of texts. -/
def Labels.toTree (l : Labels) : Tree :=
  .map (l.entries.map fun (k, v) => (k, .text v))

/-- A span in its written form. -/
def Duration.toTree (d : Duration) : Tree := .text d.text

/-- Texts as a list. -/
def Tree.texts (ts : List String) : Tree := .list (ts.map .text)

/-! ## Objectives -/

/-- A latency target needs both its fields. -/
def LatencyTarget.read : σ → Reader LatencyTarget :=
  record "struct LatencyTarget"
    [ need "le" Source.text fun t x => { t with le := x },
      need "target" Source.float fun t x => { t with target := x } ]
    ⟨"", 0.0⟩

/-- The fields of a latency target. -/
def LatencyTarget.toTree (t : LatencyTarget) : Tree :=
  .map [("le", .text t.le), ("target", .float t.target)]

/-- Objectives may leave out any field. -/
def Objectives.read : σ → Reader Objectives :=
  record "struct Objectives"
    [ field "availability" Source.float fun o x => { o with availability := x },
      field "latency" (Source.list LatencyTarget.read) fun o x => { o with latency := x },
      field "window" Source.duration fun o x => { o with window := x } ]
    {}

/-- The fields of objectives. -/
def Objectives.toTree (o : Objectives) : Tree :=
  .map
    [ ("availability", .float o.availability),
      ("latency", .list (o.latency.map LatencyTarget.toTree)),
      ("window", o.window.toTree) ]

/-! ## Indicators -/

/-- A custom window needs all its fields. -/
def Window.read : σ → Reader Window :=
  record "struct Window"
    [ need "duration" Source.duration fun w x => { w with duration := x },
      need "consumption" Source.float fun w x => { w with consumption := x },
      need "notification" Source.text fun w x => { w with notification := x } ]
    ⟨Duration.zero, 0.0, ""⟩

/-- The fields of a custom window. -/
def Window.toTree (w : Window) : Tree :=
  .map
    [ ("duration", w.duration.toTree),
      ("consumption", .float w.consumption),
      ("notification", .text w.notification) ]

/-- An indicator may leave out any field. -/
def Indicator.read : σ → Reader Indicator :=
  record "struct ExprBlock"
    [ field "expr" Source.text fun i x => { i with expr := x },
      field "alertMethod" Source.text fun i x => { i with alertMethod := x },
      field "alertWindow" Source.text fun i x => { i with alertWindow := x },
      field "alertWait" Source.text fun i x => { i with alertWait := x },
      field "burnRate" Source.float fun i x => { i with burnRate := x },
      field "windows" (Source.list Window.read) fun i x => { i with windows := x },
      field "shortWindow" (Source.optional Source.bool) fun i x => { i with shortWindow := x },
      field "buckets" (Source.list Source.text) fun i x => { i with buckets := x } ]
    {}

/-- The fields of an indicator; the choice of a short window only if it was made. -/
def Indicator.toTree (i : Indicator) : Tree :=
  .map
    ([ ("expr", .text i.expr),
       ("alertMethod", .text i.alertMethod),
       ("alertWindow", .text i.alertWindow),
       ("alertWait", .text i.alertWait),
       ("burnRate", .float i.burnRate),
       ("windows", .list (i.windows.map Window.toTree)) ]
      ++ (i.shortWindow.toList.map fun b => ("shortWindow", .bool b))
      ++ [("buckets", .texts i.buckets)])

/-! ## Services and classes -/

/-- A service needs a name. -/
def Slo.read : σ → Reader Slo :=
  record "struct Slo"
    [ need "name" Source.text fun s x => { s with name := x },
      field "class" Source.text fun s x => { s with className := x },
      field "objectives" Objectives.read fun s x => { s with objectives := x },
      field "honorLabels" Source.bool fun s x => { s with honorLabels := x },
      field "trafficRateRecord" Indicator.read fun s x => { s with traffic := x },
      field "errorRateRecord" Indicator.read fun s x => { s with errors := x },
      field "latencyRecord" Indicator.read fun s x => { s with latency := x },
      field "latencyQuantileRecord" Indicator.read fun s x => { s with quantiles := x },
      field "labels" Source.labels fun s x => { s with labels := x },
      field "annotations" Source.labels fun s x => { s with annotations := x } ]
    ⟨"", "", {}, false, {}, {}, {}, {}, KeyMap.empty, KeyMap.empty⟩

/-- The fields of a service. -/
def Slo.toTree (s : Slo) : Tree :=
  .map
    [ ("name", .text s.name),
      ("class", .text s.className),
      ("objectives", s.objectives.toTree),
      ("honorLabels", .bool s.honorLabels),
      ("trafficRateRecord", s.traffic.toTree),
      ("errorRateRecord", s.errors.toTree),
      ("latencyRecord", s.latency.toTree),
      ("latencyQuantileRecord", s.quantiles.toTree),
      ("labels", s.labels.toTree),
      ("annotations", s.annotations.toTree) ]

/-- A class needs a name. -/
def ServiceClass.read : σ → Reader ServiceClass :=
  record "struct Class"
    [ need "name" Source.text fun c x => { c with name := x },
      field "objectives" Objectives.read fun c x => { c with objectives := x } ]
    ⟨"", {}⟩

/-- The fields of a class. -/
def ServiceClass.toTree (c : ServiceClass) : Tree :=
  .map [("name", .text c.name), ("objectives", c.objectives.toTree)]

/-! ## Documents -/

/-- A document may leave out either list. -/
def Document.read : σ → Reader Document :=
  record "struct SloDocument"
    [ field "slos" (Source.list Slo.read) fun d x => { d with slos := x },
      field "classes" (Source.list ServiceClass.read) fun d x => { d with classes := x } ]
    {}

/-- The fields of a document. -/
def Document.toTree (d : Document) : Tree :=
  .map
    [ ("slos", .list (d.slos.map Slo.toTree)),
      ("classes", .list (d.classes.map ServiceClass.toTree)) ]

/-- A class file may leave out its list. -/
def ClassFile.read : σ → Reader ClassFile :=
  record "struct ClassesDefinition"
    [field "classes" (Source.list ServiceClass.read) fun f x => { f with classes := x }]
    {}

/-- The fields of a class file. -/
def ClassFile.toTree (f : ClassFile) : Tree :=
  .map [("classes", .list (f.classes.map ServiceClass.toTree))]

end ErrorBudget
