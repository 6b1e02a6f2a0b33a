/-
  ErrorBudget.Files.Tree

  A file system as a value: directories with names for files and for other
  directories, and the directory that relative paths start at.
-/
import ErrorBudget.Files

namespace ErrorBudget

/-- A file or a directory. -/
inductive FileNode where
  | file (data : ByteArray)
  | directory (entries : List (String × FileNode))
deriving Inhabited

namespace FileNode

/-- What is at a chain of names. -/
def get? : FileNode → List String → Option FileNode
  | n, [] => some n
  | .file _, _ :: _ => none
  | .directory entries, name :: names => (entries.lookup name).bind fun n => n.get? names

/-- The entries with one set. -/
def setEntry (name : String) (n : FileNode) : List (String × FileNode) → List (String × FileNode)
  | [] => [(name, n)]
  | e :: es => if e.1 = name then (name, n) :: es else e :: setEntry name n es

/-- The node with another put at a chain of names, with directories on the way. -/
def set (n : FileNode) : List String → FileNode → FileNode
  | [], new => new
  | name :: names, new =>
    match n with
    | .file _ => .directory [(name, (directory []).set names new)]
    | .directory entries =>
      .directory (setEntry name (((entries.lookup name).getD (directory [])).set names new) entries)

end FileNode

/-- A file system. `here` is the directory that relative paths start at, the innermost
    name first. -/
structure FileTree where
  root : FileNode := .directory []
  here : List String := []

namespace FileTree

/-- What is at a place, whose innermost name comes first. -/
def at? (t : FileTree) (place : List String) : Option FileNode :=
  t.root.get? place.reverse

/-- The file system with something put at a place. -/
def put (t : FileTree) (place : List String) (n : FileNode) : FileTree :=
  { t with root := t.root.set place.reverse n }

/-! ## Walks -/

/-- Whether a name is too long. -/
def isTooLong (name : String) : Bool := Path.maxName < name.utf8ByteSize

/-- The place of a name in a directory. Nothing need be there. -/
def name? (t : FileTree) (place : List String) (name : String) : Except FileFault (List String) :=
  match t.at? place with
  | some (.directory _) =>
    if name = "." then .ok place
    else if name = ".." then .ok (place.drop 1)
    else if isTooLong name then .error .nameTooLong
    else .ok (name :: place)
  | some (.file _) => .error .notDirectory
  | none => .error .notFound

/-- The place of a name in a directory, where something has to be. -/
def step? (t : FileTree) (place : List String) (name : String) : Except FileFault (List String) := do
  let place ← t.name? place name
  if (t.at? place).isSome then return place else throw .notFound

/-- Where a path starts. -/
def start (t : FileTree) (p : Path) : List String :=
  if p.absolute then [] else t.here

/-- The place of a path, where something has to be: a directory if a slash follows. -/
def walk (t : FileTree) (p : Path) : Except FileFault (List String) := do
  let place ← p.names.foldlM t.step? (t.start p)
  match p.slashed, t.at? place with
  | true, some (.file _) => throw .notDirectory
  | _, _ => return place

/-- The place of a path's directory, and its last name. -/
def walkToLast (t : FileTree) (p : Path) : Except FileFault (List String × Option String) := do
  let place ← p.names.dropLast.foldlM t.step? (t.start p)
  return (place, p.names.getLast?)

/-- What is at a path. -/
def find (t : FileTree) (s : String) : Except FileFault FileNode := do
  Path.check s
  let place ← t.walk (.ofString s)
  match t.at? place with
  | some n => return n
  | none => throw .notFound

/-! ## Operations -/

/-- The size of a directory, as long as it is below every limit. -/
def directorySize : Nat := 4096

/-- The size of what is at a path. -/
def size (t : FileTree) (s : String) : Except FileFault Nat := do
  match ← t.find s with
  | .file data => return data.size
  | .directory _ => return directorySize

/-- The text of a file. -/
def readText (t : FileTree) (s : String) : Except FileFault String := do
  match ← t.find s with
  | .directory _ => throw .isDirectory
  | .file data => match String.fromUTF8? data with
    | some text => return text
    | none => throw .notUtf8

/-- The file system with a file of a text. -/
def writeText (t : FileTree) (s text : String) : Except FileFault FileTree := do
  Path.check s
  let p := Path.ofString s
  let (place, last) ← t.walkToLast p
  let name := last.getD "."
  if name = "." || name = ".." then
    let _ ← t.name? place name
    throw .isDirectory
  else
    match t.at? place with
    | some (.directory _) => pure ()
    | _ => throw .notDirectory
    if p.slashed then throw .isDirectory
    let place ← t.name? place name
    match t.at? place with
    | some (.directory _) => throw .isDirectory
    | _ => return t.put place (.file text.toUTF8)

/-- Whether there is a directory at a path. -/
def isDirectory (t : FileTree) (p : Path) : Bool :=
  match t.find p.text with
  | .ok (.directory _) => true
  | _ => false

/-- The file system with a new directory. -/
def createDirectory (t : FileTree) (p : Path) : Except FileFault FileTree := do
  Path.check p.text
  let (place, last) ← t.walkToLast p
  let name := last.getD "."
  let place ← t.name? place name
  if name = "." || name = ".." || (t.at? place).isSome then throw .alreadyExists
  return t.put place (.directory [])

/-! ## Effects -/

/-- A change of a file system, which a fault leaves as it was. -/
def change (f : FileTree → Except FileFault FileTree) : StateM FileTree (Except FileFault Unit) :=
  fun t => match f t with
    | .ok t => (.ok (), t)
    | .error fault => (.error fault, t)

/-- The operations of a program on a file system that is a value. -/
def files : Files (StateM FileTree) where
  size s := fun t => (t.size s, t)
  readText s := fun t => (t.readText s, t)
  writeText s text := change fun t => t.writeText s text
  isDirectory p := fun t => (t.isDirectory p, t)
  createDirectory p := change fun t => t.createDirectory p

/-- A file system with the given files and directories below its current directory. -/
def ofEntries (here : List String) (entries : List (String × FileNode)) : FileTree :=
  entries.foldl (fun t e => t.put ((Path.ofString e.1).names.reverse ++ here) e.2)
    { root := (FileNode.directory []).set here.reverse (.directory []), here := here }

end FileTree

end ErrorBudget
