/-
  ErrorBudget.Labels.Listing

  Label sets written as `a=x,b=y`. A strict reader takes lists in which every
  entry is well formed; a lenient one passes over blank entries and allows
  more equals signs in a value.
-/
import ErrorBudget.Labels
import ErrorBudget.Text.Blank
import ErrorBudget.Text.Split

namespace ErrorBudget.Labels

open Text (split trimChars isBlank isSpace)

/-- Key and value, both without white space at their ends. -/
def trimmedEntry (key value : List Char) : String × String :=
  (String.ofList (trimChars key), String.ofList (trimChars value))

/-! ## Strict reader -/

/-- An entry with exactly one equals sign and a key that is not blank. -/
def strictPair? (entry : List Char) : Option (String × String) :=
  match split '=' entry with
  | [key, value] => if key.all isSpace then none else some (trimmedEntry key value)
  | _ => none

/-- Adds the entries in order; stops at the first that is malformed. -/
def readEntries (l : Labels) : List (List Char) → Except String Labels
  | [] => .ok l
  | entry :: entries => match strictPair? entry with
    | none => .error (String.ofList entry)
    | some e => readEntries (l.insert e.1 e.2) entries

/-- Reads a list whose entries are all well formed; a blank text is the empty
    set. The error is the first malformed entry. -/
def readListing (s : String) : Except String Labels :=
  if isBlank s then .ok KeyMap.empty else readEntries KeyMap.empty (split ',' s.toList)

/-! ## Lenient reader -/

/-- What stands before and after the first equals sign. -/
def splitOnce (entry : List Char) : Option (List Char × List Char) :=
  match entry.dropWhile (· != '=') with
  | [] => none
  | _ :: value => some (entry.takeWhile (· != '='), value)

/-- An entry with an equals sign and a key that is not blank. -/
def lenientPair? (entry : List Char) : Option (String × String) :=
  (splitOnce entry).bind fun (key, value) =>
    if key.all isSpace then none else some (trimmedEntry key value)

/-- Adds the entries in order, unless one is malformed. -/
def readLenientEntries? (l : Labels) : List (List Char) → Option Labels
  | [] => some l
  | entry :: entries => match lenientPair? entry with
    | none => none
    | some e => readLenientEntries? (l.insert e.1 e.2) entries

/-- Reads a list and passes over its blank entries. -/
def readLenientListing? (s : String) : Option Labels :=
  readLenientEntries? KeyMap.empty
    (((split ',' s.toList).map trimChars).filter fun entry => !entry.isEmpty)

end ErrorBudget.Labels
