/-
  ErrorBudget.Yaml.Printer

  Trees as YAML text: one entry a line, maps indented by two, and lists inside
  maps not indented.
-/
import ErrorBudget.Tree
import ErrorBudget.Yaml.Written

namespace ErrorBudget.Yaml

open Written (margin scalar inLine isSimpleKey)

/-- A value that has no parts, with the end of its line. -/
def leafLine (indent : Nat) : Tree → List Char
  | .null => "null\n".toList
  | .bool b => (if b then "true\n" else "false\n").toList
  | .int n => (toString n).toList ++ ['\n']
  | .float x => (Decimal.literal x).toList ++ ['\n']
  | .text s => scalar indent s
  | .list _ => "[]\n".toList
  | .map _ => "\x7b\x7d\n".toList

/-- A key with its colon, at an indentation. -/
def keyChars (indent : Nat) (key : String) : List Char :=
  if isSimpleKey key then inLine (indent + 2) key ++ [':']
  else '?' :: ' ' :: (scalar (indent + 2) key ++ margin indent ++ [':'])

mutual

/-- A value after the colon of a key whose map is at an indentation. -/
def valueChars (indent : Nat) : Tree → List Char
  | .list (t :: ts) => '\n' :: itemsChars indent (t :: ts)
  | .map (e :: es) => '\n' :: entriesChars (indent + 2) (e :: es)
  | t => ' ' :: leafLine (indent + 2) t

/-- A value after the dash of a list at an indentation. Its first line goes on after
    the dash. -/
def itemChars (indent : Nat) : Tree → List Char
  | .list (t :: ts) => (itemsChars (indent + 2) (t :: ts)).drop (indent + 2)
  | .map (e :: es) => (entriesChars (indent + 2) (e :: es)).drop (indent + 2)
  | t => leafLine (indent + 2) t

/-- The items of a list at an indentation. -/
def itemsChars (indent : Nat) : List Tree → List Char
  | [] => []
  | t :: ts => margin indent ++ '-' :: ' ' :: (itemChars indent t ++ itemsChars indent ts)

/-- The entries of a map at an indentation. -/
def entriesChars (indent : Nat) : List (String × Tree) → List Char
  | [] => []
  | (k, t) :: es =>
    margin indent ++ keyChars indent k ++ valueChars indent t ++ entriesChars indent es

end

/-- A tree as a document. -/
def write (t : Tree) : String :=
  String.ofList (match t with
    | .list (t :: ts) => itemsChars 0 (t :: ts)
    | .map (e :: es) => entriesChars 0 (e :: es)
    | t => leafLine 2 t)

/-- What makes documents of trees: a text, or why there is none. -/
abbrev Writer := Tree → Except String String

/-- The writer of the program. It has a text for every tree. -/
def writer : Writer := fun t => .ok (write t)

end ErrorBudget.Yaml
