/-
  ErrorBudget.Proofs.Slo.Layout

  Whatever a document holds, the tree of its fields is read back as the document, also with
  the entries of maps in another order. For each kind of record: what was read of it once the
  entries with certain keys were read, and that each field adds its part.
-/
import ErrorBudget.Proofs.Tree

namespace ErrorBudget

open ErrorBudget.Tree

/-! ## Objectives -/

namespace LatencyTarget

/-- A target of which the entries in `seen` were read. -/
def upTo (t : LatencyTarget) (seen : List String) : LatencyTarget where
  le := if "le" ∈ seen then t.le else ""
  target := if "target" ∈ seen then t.target else 0.0

theorem reads_toTree (t : LatencyTarget) : Reads read t.toTree t := by
  refine reads_record (rfl : t.upTo [] = _) (by decide) ?holds ?whole
  case holds =>
    exact .needed (reads_text t.le) (by simp [upTo]) <|
      .needed (reads_float t.target) (by simp [upTo]) .nil
  case whole =>
    intro seen all
    simp_all [upTo]

end LatencyTarget

namespace Objectives

/-- Objectives of which the entries in `seen` were read. -/
def upTo (o : Objectives) (seen : List String) : Objectives where
  availability := if "availability" ∈ seen then o.availability else 0.0
  latency := if "latency" ∈ seen then o.latency else []
  window := if "window" ∈ seen then o.window else Duration.zero

theorem reads_toTree (o : Objectives) : Reads read o.toTree o := by
  refine reads_record (rfl : o.upTo [] = _) (by decide) ?holds ?whole
  case holds =>
    exact .given (reads_float o.availability) (by simp [upTo]) <|
      .given (reads_list fun t _ => t.reads_toTree) (by simp [upTo]) <|
      .given (reads_duration o.window) (by simp [upTo]) .nil
  case whole =>
    intro seen all
    simp_all [upTo]

end Objectives

/-! ## Indicators -/

namespace Window

/-- A custom window of which the entries in `seen` were read. -/
def upTo (w : Window) (seen : List String) : Window where
  duration := if "duration" ∈ seen then w.duration else Duration.zero
  consumption := if "consumption" ∈ seen then w.consumption else 0.0
  notification := if "notification" ∈ seen then w.notification else ""

theorem reads_toTree (w : Window) : Reads read w.toTree w := by
  refine reads_record (rfl : w.upTo [] = _) (by decide) ?holds ?whole
  case holds =>
    exact .needed (reads_duration w.duration) (by simp [upTo]) <|
      .needed (reads_float w.consumption) (by simp [upTo]) <|
      .needed (reads_text w.notification) (by simp [upTo]) .nil
  case whole =>
    intro seen all
    simp_all [upTo]

end Window

namespace Indicator

/-- An indicator of which the entries in `seen` were read. -/
def upTo (i : Indicator) (seen : List String) : Indicator where
  expr := if "expr" ∈ seen then i.expr else ""
  alertMethod := if "alertMethod" ∈ seen then i.alertMethod else ""
  alertWindow := if "alertWindow" ∈ seen then i.alertWindow else ""
  alertWait := if "alertWait" ∈ seen then i.alertWait else ""
  burnRate := if "burnRate" ∈ seen then i.burnRate else 0.0
  windows := if "windows" ∈ seen then i.windows else []
  shortWindow := if "shortWindow" ∈ seen then i.shortWindow else none
  buckets := if "buckets" ∈ seen then i.buckets else []

theorem reads_toTree (i : Indicator) : Reads read i.toTree i := by
  refine reads_record (rfl : i.upTo [] = _) (by decide) ?holds ?whole
  case holds =>
    refine .given (reads_text i.expr) (by simp [upTo]) <|
      .given (reads_text i.alertMethod) (by simp [upTo]) <|
      .given (reads_text i.alertWindow) (by simp [upTo]) <|
      .given (reads_text i.alertWait) (by simp [upTo]) <|
      .given (reads_float i.burnRate) (by simp [upTo]) <|
      .given (reads_list fun w _ => w.reads_toTree) (by simp [upTo]) ?_
    have buckets := reads_list fun (b : String) (_ : b ∈ i.buckets) => reads_text b
    -- the choice of a short window has an entry only if it was made
    cases chosen : i.shortWindow with
    | none => exact .absent rfl <| .given buckets (by simp [upTo]) .nil
    | some b =>
      exact .given (reads_optional_bool b) (by simp [upTo, chosen]) <|
        .given buckets (by simp [upTo]) .nil
  case whole =>
    -- without an entry there was no choice, and none is what the reading starts with
    intro seen all
    obtain ⟨_, _, _, _, _, _, chosen, _⟩ := i
    cases chosen with
    | none => simp_all [upTo]
    | some b => simp_all [upTo]

end Indicator

/-! ## Services and classes -/

namespace ServiceClass

/-- A class of which the entries in `seen` were read. -/
def upTo (c : ServiceClass) (seen : List String) : ServiceClass where
  name := if "name" ∈ seen then c.name else ""
  objectives := if "objectives" ∈ seen then c.objectives else {}

theorem reads_toTree (c : ServiceClass) : Reads read c.toTree c := by
  refine reads_record (rfl : c.upTo [] = _) (by decide) ?holds ?whole
  case holds =>
    exact .needed (reads_text c.name) (by simp [upTo]) <|
      .given c.objectives.reads_toTree (by simp [upTo]) .nil
  case whole =>
    intro seen all
    simp_all [upTo]

end ServiceClass

namespace Slo

/-- A service of which the entries in `seen` were read. -/
def upTo (s : Slo) (seen : List String) : Slo where
  name := if "name" ∈ seen then s.name else ""
  className := if "class" ∈ seen then s.className else ""
  objectives := if "objectives" ∈ seen then s.objectives else {}
  honorLabels := if "honorLabels" ∈ seen then s.honorLabels else false
  traffic := if "trafficRateRecord" ∈ seen then s.traffic else {}
  errors := if "errorRateRecord" ∈ seen then s.errors else {}
  latency := if "latencyRecord" ∈ seen then s.latency else {}
  quantiles := if "latencyQuantileRecord" ∈ seen then s.quantiles else {}
  labels := if "labels" ∈ seen then s.labels else KeyMap.empty
  annotations := if "annotations" ∈ seen then s.annotations else KeyMap.empty

theorem reads_toTree (s : Slo) : Reads read s.toTree s := by
  refine reads_record (rfl : s.upTo [] = _) (by decide) ?holds ?whole
  case holds =>
    exact .needed (reads_text s.name) (by simp [upTo]) <|
      .given (reads_text s.className) (by simp [upTo]) <|
      .given s.objectives.reads_toTree (by simp [upTo]) <|
      .given (reads_bool s.honorLabels) (by simp [upTo]) <|
      .given s.traffic.reads_toTree (by simp [upTo]) <|
      .given s.errors.reads_toTree (by simp [upTo]) <|
      .given s.latency.reads_toTree (by simp [upTo]) <|
      .given s.quantiles.reads_toTree (by simp [upTo]) <|
      .given (reads_labels s.labels) (by simp [upTo]) <|
      .given (reads_labels s.annotations) (by simp [upTo]) .nil
  case whole =>
    intro seen all
    simp_all [upTo]

end Slo

/-! ## Documents -/

namespace ClassFile

/-- A class file of which the entries in `seen` were read. -/
def upTo (f : ClassFile) (seen : List String) : ClassFile where
  classes := if "classes" ∈ seen then f.classes else []

theorem reads_toTree (f : ClassFile) : Reads read f.toTree f := by
  refine reads_record (rfl : f.upTo [] = _) (by decide) ?holds ?whole
  case holds => exact .given (reads_list fun c _ => c.reads_toTree) (by simp [upTo]) .nil
  case whole =>
    intro seen all
    simp_all [upTo]

end ClassFile

namespace Document

/-- A document of which the entries in `seen` were read. -/
def upTo (d : Document) (seen : List String) : Document where
  slos := if "slos" ∈ seen then d.slos else []
  classes := if "classes" ∈ seen then d.classes else []

theorem reads_toTree (d : Document) : Reads read d.toTree d := by
  refine reads_record (rfl : d.upTo [] = _) (by decide) ?holds ?whole
  case holds =>
    exact .given (reads_list fun s _ => s.reads_toTree) (by simp [upTo]) <|
      .given (reads_list fun c _ => c.reads_toTree) (by simp [upTo]) .nil
  case whole =>
    intro seen all
    simp_all [upTo]

/-- Every document is read back from the tree of its fields, and so are a class file and every
    kind of record inside, whatever their texts, spans and numbers are. The entries of maps may
    be in any other order, at any depth. -/
theorem read_back_reordered :
    (∀ (d : Document) (t : Tree), d.toTree.Reordered t → Tree.read read t = .ok d) ∧
    (∀ (f : ClassFile) (t : Tree), f.toTree.Reordered t → Tree.read ClassFile.read t = .ok f) ∧
    (∀ (s : Slo) (t : Tree), s.toTree.Reordered t → Tree.read Slo.read t = .ok s) ∧
    (∀ (i : Indicator) (t : Tree), i.toTree.Reordered t → Tree.read Indicator.read t = .ok i) ∧
    (∀ (o : Objectives) (t : Tree),
      o.toTree.Reordered t → Tree.read Objectives.read t = .ok o) ∧
    (∀ (l : LatencyTarget) (t : Tree),
      l.toTree.Reordered t → Tree.read LatencyTarget.read t = .ok l) ∧
    (∀ (c : ServiceClass) (t : Tree),
      c.toTree.Reordered t → Tree.read ServiceClass.read t = .ok c) ∧
    ∀ (w : Window) (t : Tree), w.toTree.Reordered t → Tree.read Window.read t = .ok w :=
  ⟨fun d _ h => read_of_reads d.reads_toTree h, fun f _ h => read_of_reads f.reads_toTree h,
    fun s _ h => read_of_reads s.reads_toTree h, fun i _ h => read_of_reads i.reads_toTree h,
    fun o _ h => read_of_reads o.reads_toTree h, fun l _ h => read_of_reads l.reads_toTree h,
    fun c _ h => read_of_reads c.reads_toTree h, fun w _ h => read_of_reads w.reads_toTree h⟩

/-- A service that wants no short window, and a class. In the tree the classes come first, and
    the class has its objectives before its name. -/
theorem read_back_reordered_classes_first :
    let checkout : Slo :=
      { name := "checkout"
        className := "gold"
        errors := { expr := "job:errors:ratio", shortWindow := some false } }
    let gold : ServiceClass :=
      { name := "gold"
        objectives :=
          { availability := 99.9
            latency := [⟨"0.5", 95.0⟩]
            window := ⟨2592000000⟩ } }
    Tree.read read
      (.map
        [ ("classes",
            .list [.map [("objectives", gold.objectives.toTree), ("name", .text "gold")]]),
          ("slos", .list [checkout.toTree]) ]) = .ok ⟨[checkout], [gold]⟩ := by
  intro checkout gold
  have class_swapped : gold.toTree.Reordered
      (.map [("objectives", gold.objectives.toTree), ("name", .text "gold")]) :=
    .map (List.forall₂_same.2 fun e _ => .refl e) (List.Perm.swap ..)
  have entries : List.Forall₂ SameEntry
      [("slos", Tree.list [checkout.toTree]), ("classes", Tree.list [gold.toTree])]
      [("slos", Tree.list [checkout.toTree]),
        ("classes", .list [.map [("objectives", gold.objectives.toTree), ("name", .text "gold")]])] :=
    .cons (.refl _) (.cons (.mk "classes" (.list (.cons class_swapped .nil))) .nil)
  exact read_back_reordered.1 ⟨[checkout], [gold]⟩ _ (.map entries (List.Perm.swap ..))

end Document

end ErrorBudget
