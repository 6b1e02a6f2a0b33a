/-
  ErrorBudget.Document.Load

  Documents and class files from files of limited size.
-/
import ErrorBudget.Document.Text
import ErrorBudget.Files

namespace ErrorBudget

variable {m : Type → Type} [Monad m]

/-- The text of a file that is not too large. -/
def readLimited (files : Files m) (path : String) : m (Except Fault String) := do
  match ← files.size path with
  | .error fault => return .error (.load path (.noMetadata fault))
  | .ok size =>
    if maxDocumentSize < size then return .error (.load path (.tooLarge size))
    else match ← files.readText path with
      | .error fault => return .error (.load path (.unreadable fault))
      | .ok text => return .ok text

/-- The document in a file. -/
def Document.load (files : Files m) (path : String) : m (Except Fault Document) := do
  return (← readLimited files path) >>= Document.ofText path

/-- The class file at a path. -/
def ClassFile.load (files : Files m) (path : String) : m (Except Fault ClassFile) := do
  return (← readLimited files path) >>= ClassFile.ofText path

/-- A document with the classes of a file. -/
def Document.withClasses (d : Document) (file : ClassFile) : Except Fault Document := do
  let d ← d.mergeClasses file
  d.check
  return d

/-- The document in a file with the classes of another, if one is given. -/
def Document.loadWith (files : Files m) (path : String) (classesPath : Option String) :
    m (Except Fault Document) := do
  match ← Document.load files path, classesPath with
  | .ok d, some classesPath =>
    let file ← ClassFile.load files classesPath
    return file >>= d.withClasses
  | r, _ => return r

end ErrorBudget
