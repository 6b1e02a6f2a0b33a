/-
  ErrorBudget.Tree

  Structured values as data formats have them: texts, numbers, truth values,
  lists and maps. A map keeps its entries in the order in which they were put
  in.
-/
import ErrorBudget.Decimal.General
import ErrorBudget.Decimal.Reader
import ErrorBudget.Source
import ErrorBudget.Text.Quoted

namespace ErrorBudget

/-- A structured value. -/
inductive Tree where
  | null
  | bool (b : Bool)
  | int (n : Int)
  | float (x : Float)
  | text (s : String)
  | list (items : List Tree)
  | map (entries : List (String × Tree))
deriving Inhabited

namespace Tree

/-- The value of a key of a map. -/
def get? (t : Tree) (key : String) : Option Tree :=
  match t with
  | map entries => entries.lookup key
  | _ => none

/-! ## As a source of typed values -/

/-- What a value is called where another kind was wanted. -/
def found : Tree → String
  | null => "null"
  | bool b => "boolean `" ++ (if b then "true" else "false") ++ "`"
  | int n => "integer `" ++ toString n ++ "`"
  | float x => "floating point `" ++ Decimal.literal x ++ "`"
  | text s => "string " ++ Text.quoted s
  | list _ => "sequence"
  | map _ => "map"

/-- Fails because another kind of value was wanted. -/
def mismatch {α : Type} (t : Tree) (expected : String) : Reader α :=
  Reader.fail (.invalidType t.found expected)

instance : Source Tree where
  text
    | text s => pure s
    | t => t.mismatch "a string"
  bool
    | bool b => pure b
    | t => t.mismatch "a boolean"
  float
    | float x => pure x
    | int n => pure (Decimal.nearestInt n)
    | t => t.mismatch "f64"
  atom
    | text s => pure (.text s)
    | int n => pure (.integer n)
    | t => pure (.other t.found)
  option
    | null => pure none
    | t => pure (some t)
  items
    | list items => pure items
    | t => t.mismatch "a sequence"
  entries
    | map entries => pure (entries.map fun (k, v) => (text k, v))
    | t => t.mismatch "a map"
  fields expected
    | map entries => pure (.named (entries.map fun (k, v) => (text k, v)))
    | list items => pure (.listed items true)
    | t => t.mismatch expected
  key expected
    | text s => pure s
    | t => t.mismatch expected
  step
    | text s => .field s
    | _ => .unnamed
  skip _ := pure ()

/-- Reads a value of some type out of a tree. A tree has no references. -/
def read {α : Type} (reader : Tree → Reader α) (t : Tree) : Except ReadError α :=
  ((reader t).run 0).map Prod.fst

end Tree

end ErrorBudget
