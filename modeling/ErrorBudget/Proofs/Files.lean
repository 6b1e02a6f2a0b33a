/-
  ErrorBudget.Proofs.Files

  Programs on files that are a state: what one step returns and leaves behind is what the
  next step starts with. A program that only reads leaves its files as they were.
-/
import ErrorBudget.Document.Load
import ErrorBudget.Settings.Load

namespace ErrorBudget.Files

variable {σ α β : Type}

theorem bind_apply (x : StateM σ α) (f : α → StateM σ β) (t : σ) :
    (x >>= f) t = f (x t).1 (x t).2 :=
  rfl

theorem pure_apply (x : α) (t : σ) : (pure x : StateM σ α) t = (x, t) :=
  rfl

/-! ## Reading only -/

/-- A program that leaves its state as it was. -/
def ReadOnly (x : StateM σ α) : Prop := ∀ t, (x t).2 = t

namespace ReadOnly

theorem pure (a : α) : ReadOnly (Pure.pure a : StateM σ α) :=
  fun _ => rfl

theorem bind {x : StateM σ α} {f : α → StateM σ β} (first : ReadOnly x)
    (next : ∀ a, ReadOnly (f a)) : ReadOnly (x >>= f) := by
  intro t
  rw [bind_apply, next, first]

end ReadOnly

/-- Files that reading does not change. -/
structure Steady (files : Files (StateM σ)) : Prop where
  size : ∀ s, ReadOnly (files.size s)
  readText : ∀ s, ReadOnly (files.readText s)

namespace Steady

variable {files : Files (StateM σ)}

theorem readLimited (h : files.Steady) (path : String) : ReadOnly (readLimited files path) := by
  refine (h.size path).bind fun size => ?_
  cases size with
  | error fault => exact .pure _
  | ok size =>
    dsimp only
    split
    · exact .pure _
    · refine (h.readText path).bind fun text => ?_
      cases text with
      | error fault => exact .pure _
      | ok text => exact .pure _

theorem loadWith (h : files.Steady) (path : String) (classesPath : Option String) :
    ReadOnly (Document.loadWith files path classesPath) := by
  have document : ReadOnly (Document.load files path) :=
    (h.readLimited path).bind fun _ => .pure _
  refine document.bind fun d => ?_
  cases d with
  | error fault => exact .pure _
  | ok d =>
    cases classesPath with
    | none => exact .pure _
    | some classesPath =>
      have classes : ReadOnly (ClassFile.load files classesPath) :=
        (h.readLimited classesPath).bind fun _ => .pure _
      exact classes.bind fun _ => .pure _

theorem load (h : files.Steady) (env : Settings.Environment) (path : String) :
    ReadOnly (Settings.load files env path) := by
  have file : ReadOnly (Settings.ofFile files path) := by
    refine (h.readText path).bind fun text => ?_
    split
    · exact .pure _
    · exact .pure _
    · exact .pure _
  exact file.bind fun _ => .pure _

theorem loadOrDefault (h : files.Steady) (env : Settings.Environment) (path : String) :
    ReadOnly (Settings.loadOrDefault files env path) := by
  refine (h.load env path).bind fun s => ?_
  split
  · exact .pure _
  · exact .pure _

end Steady

end ErrorBudget.Files
