/-
  ErrorBudget.RuleFile.Layout

  Rule files and manifests as trees and as YAML text. What is empty is left
  out, and so is an interval of zero.
-/
import ErrorBudget.Rule.Layout
import ErrorBudget.RuleFile
import ErrorBudget.Yaml.Printer

namespace ErrorBudget

/-- The fields of a rule. -/
def GroupedRule.toTree : GroupedRule → Tree
  | recording r => r.toTree
  | alert a => a.toTree

/-- Name, interval if there is one, and rules. -/
def RuleGroup.toTree (g : RuleGroup) : Tree :=
  .map
    (("name", .text g.name)
      :: ((if g.interval.isZero then [] else [("interval", g.interval.toTree)])
        ++ [("rules", .list (g.rules.map GroupedRule.toTree))]))

/-- The groups under one name. -/
def RuleFile.toTree (f : RuleFile) : Tree :=
  .map [("groups", .list (f.groups.map RuleGroup.toTree))]

/-- The file as text. -/
def RuleFile.text (f : RuleFile) : String := Yaml.write f.toTree

/-- Name, and the labels if there are any. -/
def ObjectMeta.toTree (o : ObjectMeta) : Tree :=
  .map (("name", .text o.name) :: o.labels.toField "labels")

/-- The kind of the resource, its name and labels, and the groups. -/
def Resource.toTree (r : Resource) : Tree :=
  .map
    [ ("apiVersion", .text r.apiVersion),
      ("kind", .text r.kind),
      ("metadata", r.metadata.toTree),
      ("spec", r.spec.toTree) ]

namespace Manifest

/-- The fields of the resource that the manifest asks for. -/
def toTree (m : Manifest) : Tree := m.resource.toTree

/-- What stands between two manifests. -/
def separator : String := "---\n"

/-- Texts with separators between them. -/
def stream (texts : List String) : String := separator.intercalate texts

/-- The manifests as one text. -/
def text (ms : List Manifest) : String :=
  stream (ms.map fun m => Yaml.write m.toTree)

end Manifest

end ErrorBudget
