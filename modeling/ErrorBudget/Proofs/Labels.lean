/-
  ErrorBudget.Proofs.Labels

  Labels that are put together in layers: every key has the value of the first layer that
  has one for it. Setting a key puts a layer of its own on top, and a union puts the upper
  labels on top. So the layers say what the labels are, key by key.
-/
import ErrorBudget.Labels
import ErrorBudget.Proofs.KeyMap

namespace ErrorBudget.Labels

/-- A layer of labels: what it has for a key. -/
abbrev Layer := String → Option String

/-- The layer of one key. -/
def only (key value : String) : Layer :=
  fun k => if k = key then some value else none

/-- Labels are put together from layers, the upper ones first. -/
def Layered (l : Labels) (layers : List Layer) : Prop :=
  ∀ key, l.get? key = layers.findSome? fun layer => layer key

theorem only_eq_some_iff {key value k v : String} :
    only key value k = some v ↔ k = key ∧ v = value := by
  rw [only]
  split
  · rename_i same
    simp [same, eq_comm]
  · rename_i other
    simp [other]

/-! ## Putting labels together -/

theorem layered_empty : Layered KeyMap.empty [] :=
  fun _ => rfl

variable {l : Labels} {layers : List Layer}

theorem Layered.insert (h : l.Layered layers) (key value : String) :
    Layered (l.insert key value) (only key value :: layers) := by
  intro k
  rw [KeyMap.get?_insert, List.findSome?_cons, only, h k]
  split <;> rfl

theorem Layered.union (h : l.Layered layers) (upper : Labels) :
    Layered (KeyMap.union l upper) (upper.get? :: layers) := by
  intro k
  rw [KeyMap.get?_union, List.findSome?_cons, h k]
  cases upper.get? k <;> rfl

/-! ## What layers say -/

/-- What the upper layer has stays. -/
theorem Layered.get?_of_upper {layer : Layer} (h : l.Layered (layer :: layers))
    {key value : String} (upper : layer key = some value) : l.get? key = some value := by
  rw [h key, List.findSome?_cons, upper]

/-- What the upper layer does not have comes from those below. -/
theorem Layered.get?_of_below {layer : Layer} (h : l.Layered (layer :: layers))
    {key : String} (upper : layer key = none) :
    l.get? key = layers.findSome? fun layer => layer key := by
  rw [h key, List.findSome?_cons, upper]

/-- Every label comes from some layer. -/
theorem Layered.exists_layer (h : l.Layered layers) {key value : String}
    (found : l.get? key = some value) : ∃ layer ∈ layers, layer key = some value :=
  List.exists_of_findSome?_eq_some ((h key).symm.trans found)

end ErrorBudget.Labels
