/-
  ErrorBudget.Proofs.RuleFile.Layout

  The tree of a rule file loses nothing. A reader for each kind of record takes the record back
  out of its tree: what was left out is known to be empty or zero, and the kind of a rule shows
  in its keys.
-/
import Mathlib.Logic.Function.Basic
import ErrorBudget.Proofs.Tree
import ErrorBudget.RuleFile.Layout

namespace ErrorBudget

open ErrorBudget.Tree
open Source (field need record)

theorem Duration.eq_zero_of_isZero {d : Duration} (h : d.isZero = true) : d = zero :=
  congrArg mk (eq_of_beq h)

theorem KeyMap.eq_empty_of_isEmpty {β : Type} {m : KeyMap β} (h : m.isEmpty = true) : m = empty :=
  ext (List.isEmpty_iff.1 h)

/-! ## Rules -/

namespace RecordingRule

/-- Name and expression are there, and labels may be. -/
def read : Tree → Reader RecordingRule :=
  Source.record "a recording rule"
    [ need "record" Source.text fun r x => { r with record := x },
      need "expr" Source.text fun r x => { r with expr := x },
      field "labels" Source.labels fun r x => { r with labels := x } ]
    ⟨"", "", KeyMap.empty⟩

/-- A rule of which the entries in `seen` were read. -/
def upTo (r : RecordingRule) (seen : List String) : RecordingRule where
  record := if "record" ∈ seen then r.record else ""
  expr := if "expr" ∈ seen then r.expr else ""
  labels := if "labels" ∈ seen then r.labels else KeyMap.empty

theorem reads_toTree (r : RecordingRule) : Reads read r.toTree r := by
  rw [toTree, Labels.toField]
  refine reads_record (rfl : r.upTo [] = _) (by decide) ?holds ?whole
  case holds =>
    exact .needed (reads_text r.record) (by simp [upTo]) <|
      .needed (reads_text r.expr) (by simp [upTo]) <|
      .last_unless _ (reads_labels r.labels) (by simp [upTo])
  case whole =>
    intro seen all
    rw [List.map_append, List.forall_mem_append] at all
    have labels := part_eq KeyMap.eq_empty_of_isEmpty all.2
    simp_all [upTo]

end RecordingRule

namespace AlertRule

/-- Name and expression are there; the wait, labels and annotations may be. -/
def read : Tree → Reader AlertRule :=
  Source.record "an alerting rule"
    [ need "alert" Source.text fun a x => { a with alert := x },
      need "expr" Source.text fun a x => { a with expr := x },
      field "for" Source.duration fun a x => { a with wait := x },
      field "labels" Source.labels fun a x => { a with labels := x },
      field "annotations" Source.labels fun a x => { a with annotations := x } ]
    ⟨"", "", Duration.zero, KeyMap.empty, KeyMap.empty⟩

/-- An alert of which the entries in `seen` were read. -/
def upTo (a : AlertRule) (seen : List String) : AlertRule where
  alert := if "alert" ∈ seen then a.alert else ""
  expr := if "expr" ∈ seen then a.expr else ""
  wait := if "for" ∈ seen then a.wait else Duration.zero
  labels := if "labels" ∈ seen then a.labels else KeyMap.empty
  annotations := if "annotations" ∈ seen then a.annotations else KeyMap.empty

theorem reads_toTree (a : AlertRule) : Tree.Reads read a.toTree a := by
  rw [toTree, Labels.toField, Labels.toField, List.append_assoc, List.append_assoc]
  refine reads_record (rfl : a.upTo [] = _) (by decide) ?holds ?whole
  case holds =>
    exact .needed (reads_text a.alert) (by simp [upTo]) <|
      .needed (reads_text a.expr) (by simp [upTo]) <|
      .given_unless _ (reads_duration a.wait) (by simp [upTo]) <|
      .given_unless _ (reads_labels a.labels) (by simp [upTo]) <|
      .last_unless _ (reads_labels a.annotations) (by simp [upTo])
  case whole =>
    intro seen all
    simp only [List.map_append, List.forall_mem_append] at all
    obtain ⟨all, all_wait, all_labels, all_annotations⟩ := all
    have wait := part_eq Duration.eq_zero_of_isZero all_wait
    have labels := part_eq KeyMap.eq_empty_of_isEmpty all_labels
    have annotations := part_eq KeyMap.eq_empty_of_isEmpty all_annotations
    simp_all [upTo]

/-- An alert has no entry that names a record. -/
theorem get?_record_toTree (a : AlertRule) : a.toTree.get? "record" = none := by
  have other_name (name : String) (other : "record" ≠ name) (omitted : Bool) (t : Tree) :
      (if omitted then [] else [(name, t)]).lookup "record" = none := by
    cases omitted with
    | true => rfl
    | false => exact (KeyMap.lookup_cons (name, t) [] "record").trans (if_neg other)
  have wait := other_name "for" (by decide) a.wait.isZero a.wait.toTree
  have labels := other_name "labels" (by decide) a.labels.isEmpty a.labels.toTree
  have annotations :=
    other_name "annotations" (by decide) a.annotations.isEmpty a.annotations.toTree
  rw [toTree, Labels.toField, Labels.toField, get?, List.lookup_append, List.lookup_append,
    List.lookup_append, wait, labels, annotations]
  rfl

end AlertRule

namespace GroupedRule

/-- The kind of a rule shows in whether it names a record. -/
def read (t : Tree) : Reader GroupedRule := do
  if (t.get? "record").isSome then return .recording (← RecordingRule.read t)
  else return .alert (← AlertRule.read t)

theorem reads_toTree (r : GroupedRule) : Reads read r.toTree r := by
  -- the key that tells the kinds apart is there in any order of the entries, or in none
  intro u h n
  cases r with
  | recording r =>
    have is_record : (u.get? "record").isSome = true := h.isSome_get? "record"
    rw [read, if_pos is_record]
    exact bind_of_ok (r.reads_toTree u h n)
  | alert a =>
    have no_record : ¬ (u.get? "record").isSome = true := by
      rw [h.isSome_get?, toTree, a.get?_record_toTree]
      exact Bool.false_ne_true
    rw [read, if_neg no_record]
    exact bind_of_ok (a.reads_toTree u h n)

end GroupedRule

/-! ## Groups and files -/

namespace RuleGroup

/-- Name and rules are there, and an interval may be. -/
def read : Tree → Reader RuleGroup :=
  record "a group of rules"
    [ need "name" Source.text fun g x => { g with name := x },
      field "interval" Source.duration fun g x => { g with interval := x },
      need "rules" (Source.list GroupedRule.read) fun g x => { g with rules := x } ]
    ⟨"", Duration.zero, []⟩

/-- A group of which the entries in `seen` were read. -/
def upTo (g : RuleGroup) (seen : List String) : RuleGroup where
  name := if "name" ∈ seen then g.name else ""
  interval := if "interval" ∈ seen then g.interval else Duration.zero
  rules := if "rules" ∈ seen then g.rules else []

theorem reads_toTree (g : RuleGroup) : Reads read g.toTree g := by
  refine reads_record (rfl : g.upTo [] = _) (by decide) ?holds ?whole
  case holds =>
    exact .needed (reads_text g.name) (by simp [upTo]) <|
      .given_unless _ (reads_duration g.interval) (by simp [upTo]) <|
      .needed (reads_list fun r _ => r.reads_toTree) (by simp [upTo]) .nil
  case whole =>
    intro seen all
    rw [List.map_cons, List.map_append, List.forall_mem_cons, List.forall_mem_append] at all
    have interval := part_eq Duration.eq_zero_of_isZero all.2.1
    simp_all [upTo]

end RuleGroup

namespace RuleFile

/-- The groups are there. -/
def read : Tree → Reader RuleFile :=
  record "a file of rules"
    [need "groups" (Source.list RuleGroup.read) fun f x => { f with groups := x }]
    ⟨[]⟩

/-- A file of which the entries in `seen` were read. -/
def upTo (f : RuleFile) (seen : List String) : RuleFile where
  groups := if "groups" ∈ seen then f.groups else []

theorem reads_toTree (f : RuleFile) : Reads read f.toTree f := by
  refine reads_record (rfl : f.upTo [] = _) (by decide) ?holds ?whole
  case holds => exact .needed (reads_list fun g _ => g.reads_toTree) (by simp [upTo]) .nil
  case whole =>
    intro seen all
    simp_all [upTo]

end RuleFile

/-! ## Resources -/

namespace ObjectMeta

/-- A name is there, and labels may be. -/
def read : Tree → Reader ObjectMeta :=
  record "what a resource is called"
    [ need "name" Source.text fun o x => { o with name := x },
      field "labels" Source.labels fun o x => { o with labels := x } ]
    ⟨"", KeyMap.empty⟩

/-- A name with labels of which the entries in `seen` were read. -/
def upTo (o : ObjectMeta) (seen : List String) : ObjectMeta where
  name := if "name" ∈ seen then o.name else ""
  labels := if "labels" ∈ seen then o.labels else KeyMap.empty

theorem reads_toTree (o : ObjectMeta) : Reads read o.toTree o := by
  rw [toTree, Labels.toField]
  refine reads_record (rfl : o.upTo [] = _) (by decide) ?holds ?whole
  case holds =>
    exact .needed (reads_text o.name) (by simp [upTo]) <|
      .last_unless _ (reads_labels o.labels) (by simp [upTo])
  case whole =>
    intro seen all
    rw [List.map_cons, List.forall_mem_cons] at all
    have labels := part_eq KeyMap.eq_empty_of_isEmpty all.2
    simp_all [upTo]

end ObjectMeta

namespace Resource

/-- All fields are there. -/
def read : Tree → Reader Resource :=
  record "a resource"
    [ need "apiVersion" Source.text fun r x => { r with apiVersion := x },
      need "kind" Source.text fun r x => { r with kind := x },
      need "metadata" ObjectMeta.read fun r x => { r with metadata := x },
      need "spec" RuleFile.read fun r x => { r with spec := x } ]
    ⟨"", "", ⟨"", KeyMap.empty⟩, ⟨[]⟩⟩

/-- A resource of which the entries in `seen` were read. -/
def upTo (r : Resource) (seen : List String) : Resource where
  apiVersion := if "apiVersion" ∈ seen then r.apiVersion else ""
  kind := if "kind" ∈ seen then r.kind else ""
  metadata := if "metadata" ∈ seen then r.metadata else ⟨"", KeyMap.empty⟩
  spec := if "spec" ∈ seen then r.spec else ⟨[]⟩

theorem reads_toTree (r : Resource) : Reads read r.toTree r := by
  refine reads_record (rfl : r.upTo [] = _) (by decide) ?holds ?whole
  case holds =>
    exact .needed (reads_text r.apiVersion) (by simp [upTo]) <|
      .needed (reads_text r.kind) (by simp [upTo]) <|
      .needed r.metadata.reads_toTree (by simp [upTo]) <|
      .needed r.spec.reads_toTree (by simp [upTo]) .nil
  case whole =>
    intro seen all
    simp_all [upTo]

end Resource

/-- What a manifest asks for says what the manifest is. -/
theorem Manifest.resource_injective : Function.Injective resource := by
  intro m k same
  have name : m.name = k.name := congrArg (fun r => r.metadata.name) same
  have labels : m.labels = k.labels := congrArg (fun r => r.metadata.labels) same
  have groups : m.groups = k.groups := congrArg (fun r => r.spec.groups) same
  calc m = ⟨m.name, m.labels, m.groups⟩ := rfl
    _ = ⟨k.name, k.labels, k.groups⟩ := by rw [name, labels, groups]
    _ = k := rfl

/-- Every rule file and every resource is read back from its tree, with the entries of maps in
    any order at any depth: each group with its name, its interval and its rules in order, and
    each rule with its kind and all that it holds. So different rule files have different trees,
    and so have different resources and different manifests. -/
theorem RuleFile.layout_loses_nothing :
    (∀ (f : RuleFile) (t : Tree), f.toTree.Reordered t → Tree.read RuleFile.read t = .ok f) ∧
    (∀ (r : Resource) (t : Tree), r.toTree.Reordered t → Tree.read Resource.read t = .ok r) ∧
    Function.Injective RuleFile.toTree ∧
    Function.Injective Resource.toTree ∧
    Function.Injective Manifest.toTree := by
  have resources : Function.Injective Resource.toTree := injective_of_reads Resource.reads_toTree
  refine ⟨fun f t h => ?_, fun r t h => ?_, injective_of_reads reads_toTree, resources,
    resources.comp Manifest.resource_injective⟩
  · exact read_of_reads f.reads_toTree h
  · exact read_of_reads r.reads_toTree h

/-- A group without an interval that has a rule of each kind. In the tree the rules come before
    the name, and the recording rule has its expression first. -/
theorem RuleFile.layout_loses_nothing_rules_first :
    let ratio : RecordingRule := ⟨"job:errors:ratio", "errors / requests", KeyMap.empty⟩
    let alert : AlertRule :=
      ⟨"HighErrors", "job:errors:ratio > 0.1", ⟨300000⟩, KeyMap.empty, KeyMap.empty⟩
    Tree.read RuleFile.read
      (.map
        [("groups",
          .list
            [ .map
                [ ("rules",
                    .list
                      [ .map [("expr", .text ratio.expr), ("record", .text ratio.record)],
                        alert.toTree ]),
                  ("name", .text "checkout") ] ])]) =
      .ok ⟨[{ name := "checkout", rules := [.recording ratio, .alert alert] }]⟩ := by
  intro ratio alert
  have rule_swapped : ratio.toTree.Reordered
      (.map [("expr", .text ratio.expr), ("record", .text ratio.record)]) :=
    .map (List.forall₂_same.2 fun e _ => .refl e) (List.Perm.swap ..)
  have rules : List.Forall₂ Reordered [ratio.toTree, alert.toTree]
      [.map [("expr", .text ratio.expr), ("record", .text ratio.record)], alert.toTree] :=
    .cons rule_swapped (.cons (.refl _) .nil)
  have group_swapped :
      (RuleGroup.toTree
        { name := "checkout", rules := [.recording ratio, .alert alert] }).Reordered
        (.map
          [ ("rules",
              .list
                [ .map [("expr", .text ratio.expr), ("record", .text ratio.record)],
                  alert.toTree ]),
            ("name", .text "checkout") ]) :=
    .map (.cons (.refl _) (.cons (.mk "rules" (.list rules)) .nil)) (List.Perm.swap ..)
  refine layout_loses_nothing.1 _ _ (.map (.cons (.mk "groups" ?_) .nil) (List.Perm.refl _))
  exact .list (.cons group_swapped .nil)

end ErrorBudget
