/-
  ErrorBudget.Proofs.Command.Texts

  The text of rules. A writer is asked for the documents of rules in their order: a rule file,
  or manifests. Rules have a text if all documents have one, and then it is these texts with
  separators between them. Else the first document that has none says why.
-/
import Mathlib.Data.List.Forall2
import ErrorBudget.Command

namespace ErrorBudget

namespace Command.RuleOptions

/-- The documents of rules: all of them in a rule file, or manifests. -/
def documents (o : RuleOptions) (rules : List SloRules) : List Tree :=
  if o.kubernetes then (Manifest.ofRules o.labels rules).map Manifest.toTree
  else [(RuleFile.ofRules rules).toTree]

/-- What a writer makes of rules: a text from those of all documents, or why the first document
    without a text has none. -/
inductive Renders (write : Yaml.Writer) (o : RuleOptions) (rules : List SloRules) :
    Except String String → Prop where
  | text {texts : List String}
      (written : List.Forall₂ (fun t s => write t = .ok s) (o.documents rules) texts) :
      Renders write o rules (.ok (Manifest.stream texts))
  | cause {before after : List Tree} {t : Tree} {cause : String}
      (documents : o.documents rules = before ++ t :: after)
      (written : ∀ u ∈ before, ∃ s, write u = .ok s) (unwritable : write t = .error cause) :
      Renders write o rules (.error cause)

/-! ## Rendering -/

theorem renderWith_eq (write : Yaml.Writer) (o : RuleOptions) (rules : List SloRules) :
    o.renderWith write rules = ((o.documents rules).mapM write).map Manifest.stream := by
  rw [renderWith, documents]
  split
  · rw [List.mapM_map]
    rfl
  · rw [List.mapM_cons]
    cases write (RuleFile.ofRules rules).toTree with
    | error cause => rfl
    | ok s => exact congrArg Except.ok String.intercalate_singleton.symm

/-- The texts of all trees, or why the first of them that has no text has none. -/
theorem texts_or_cause (write : Yaml.Writer) (ts : List Tree) :
    (∃ texts, ts.mapM write = .ok texts ∧ List.Forall₂ (fun t s => write t = .ok s) ts texts) ∨
      ∃ before t after cause, ts.mapM write = .error cause ∧ ts = before ++ t :: after ∧
        (∀ u ∈ before, ∃ s, write u = .ok s) ∧ write t = .error cause := by
  induction ts with
  | nil => exact .inl ⟨[], rfl, .nil⟩
  | cons t ts ih =>
    rw [List.mapM_cons]
    cases first : write t with
    | error cause =>
      exact .inr ⟨[], t, ts, cause, rfl, rfl, fun _ h => (nomatch h), first⟩
    | ok s =>
      rcases ih with ⟨texts, made, written⟩ |
        ⟨before, u, after, cause, stopped, rfl, written, unwritable⟩
      · rw [made]
        exact .inl ⟨s :: texts, rfl, .cons first written⟩
      · rw [stopped]
        refine .inr ⟨t :: before, u, after, cause, rfl, rfl, ?_, unwritable⟩
        exact List.forall_mem_cons.2 ⟨⟨s, first⟩, written⟩

theorem renders (write : Yaml.Writer) (o : RuleOptions) (rules : List SloRules) :
    o.Renders write rules (o.renderWith write rules) := by
  rw [renderWith_eq]
  rcases texts_or_cause write (o.documents rules) with ⟨texts, made, written⟩ |
    ⟨before, t, after, cause, stopped, documents, written, unwritable⟩
  · rw [made]
    exact .text written
  · rw [stopped]
    exact .cause documents written unwritable

/-- The writer of the program has a text for all rules. -/
theorem renderWith_writer (o : RuleOptions) (rules : List SloRules) :
    o.renderWith Yaml.writer rules = .ok (o.render rules) := by
  rw [renderWith, render]
  split
  · have documents : ((Manifest.ofRules o.labels rules).mapM fun m => Yaml.writer m.toTree) =
        .ok ((Manifest.ofRules o.labels rules).map fun m => Yaml.write m.toTree) :=
      List.mapM_pure
    rw [documents]
    rfl
  · rfl

end Command.RuleOptions

end ErrorBudget
