/-
  ErrorBudget.Files

  What the program asks of a file system. The program says what it does in
  terms of these operations; who runs it says what they act on.
-/
import ErrorBudget.Files.Path

namespace ErrorBudget

/-- Operations on files by their paths. -/
structure Files (m : Type → Type) where
  /-- The size in bytes of what is at a path. -/
  size : String → m (Except FileFault Nat)
  /-- The text of a file. -/
  readText : String → m (Except FileFault String)
  /-- Makes a file of a text, over one that is there. -/
  writeText : String → String → m (Except FileFault Unit)
  /-- Whether there is a directory at a path. -/
  isDirectory : Path → m Bool
  /-- Makes a directory in one that is there. -/
  createDirectory : Path → m (Except FileFault Unit)

namespace Files

variable {m : Type → Type} [Monad m]

/-- No fault if there is a directory at a path after all. -/
def unlessDirectory (files : Files m) (p : Path) (fault : FileFault) :
    m (Except FileFault Unit) := do
  return if ← files.isDirectory p then .ok () else .error fault

/-- Makes a directory, and those around it as far as they are missing. Those that were
    made stay if another one cannot be. -/
def createDirectories (files : Files m) (p : Path) : m (Except FileFault Unit) := do
  if _h : p.names = [] then return .ok ()
  else match ← files.createDirectory p with
    | .ok () => return .ok ()
    | .error .notFound => match ← files.createDirectories p.parent with
      | .error fault => return .error fault
      | .ok () => match ← files.createDirectory p with
        | .ok () => return .ok ()
        | .error fault => files.unlessDirectory p fault
    | .error fault => files.unlessDirectory p fault
termination_by p.names.length
decreasing_by exact Path.length_parent_lt _h

/-- Makes a file of a text, in directories that are made for it. -/
def writeDeep (files : Files m) (path text : String) : m (Except FileFault Unit) := do
  match ← files.createDirectories (Path.ofString path).parent with
  | .error fault => return .error fault
  | .ok () => files.writeText path text

end Files

end ErrorBudget
