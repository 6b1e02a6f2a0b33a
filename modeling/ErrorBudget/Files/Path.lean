/-
  ErrorBudget.Files.Path

  Paths as names from a directory on. Slashes separate names; several of them
  count as one.
-/
import ErrorBudget.Fault
import ErrorBudget.Text.Split

namespace ErrorBudget

/-- A path in its parts. -/
structure Path where
  /-- Whether it starts at the root of all directories. -/
  absolute : Bool
  names : List String
  /-- Whether a slash follows the last name. -/
  slashed : Bool
deriving DecidableEq, Repr

namespace Path

/-- The longest path, in bytes. -/
def maxLength : Nat := 4095

/-- The longest name, in bytes. -/
def maxName : Nat := 255

/-- A path in its parts. -/
def ofString (s : String) : Path :=
  { absolute := s.toList.head? = some '/'
    names := ((Text.split '/' s.toList).filter fun name => !name.isEmpty).map String.ofList
    slashed := s.toList.getLast? = some '/' }

/-- Paths that no file can have. -/
def check (s : String) : Except FileFault Unit :=
  if s.toList.contains '\x00' then .error .nulInName
  else if s.isEmpty then .error .notFound
  else if maxLength < s.utf8ByteSize then .error .nameTooLong
  else .ok ()

/-- A name that stays in its directory says nothing, unless it comes first. -/
def normal (p : Path) : List String :=
  match p.names with
  | "." :: names => (if p.absolute then [] else ["."]) ++ names.filter (· ≠ ".")
  | names => names.filter (· ≠ ".")

/-- The directory that a path lies in. -/
def parent (p : Path) : Path :=
  ⟨p.absolute, p.normal.dropLast, false⟩

/-- The path as it is written, with one slash between names. -/
def text (p : Path) : String :=
  (if p.absolute then "/" else "") ++ "/".intercalate p.names ++ (if p.slashed then "/" else "")

theorem length_normal_le (p : Path) : p.normal.length ≤ p.names.length := by
  unfold normal
  split
  · next names h =>
    have := List.length_filter_le (fun name => !decide (name = ".")) names
    rw [h]
    cases p.absolute <;> simp
    · exact this
    · omega
  · exact List.length_filter_le ..

theorem length_parent_lt {p : Path} (h : p.names ≠ []) :
    p.parent.names.length < p.names.length := by
  have := p.length_normal_le
  have : 0 < p.names.length := List.length_pos_iff.2 h
  simp only [parent, List.length_dropLast]
  omega

end Path

end ErrorBudget
