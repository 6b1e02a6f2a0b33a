/-
  ErrorBudget.Toml.Value

  The values of TOML text, as a source of typed values. A date answers like a
  table with one entry.
-/
import ErrorBudget.Source

namespace ErrorBudget.Toml

/-- A value. -/
inductive Value where
  | text (s : String)
  | int (n : Int)
  | float (x : Float)
  | bool (b : Bool)
  | date (text : String)
  | list (items : List Value)
  | table (entries : List (String × Value))
deriving Inhabited

namespace Value

/-- What a value is called where another kind was wanted. -/
def found : Value → String
  | text _ => "string"
  | int _ => "integer"
  | float _ => "float"
  | bool _ => "boolean"
  | date _ => "datetime"
  | list _ => "array"
  | table _ => "table"

/-- Fails because another kind of value was wanted. -/
def mismatch {α : Type} (v : Value) (expected : String) : Reader α :=
  Reader.fail (.invalidType v.found expected)

/-- The key of the one entry of a date. -/
def dateKey : String := "$__toml_private_datetime"

/-- The entries of a table; a key is a text. -/
def entries? : Value → Option (List (Value × Value))
  | table es => some (es.map fun (k, v) => (text k, v))
  | date s => some [(text dateKey, text s)]
  | _ => none

instance : Source Value where
  text
    | text s => pure s
    | v => v.mismatch "a string"
  bool
    | bool b => pure b
    | v => v.mismatch "a boolean"
  float
    | float x => pure x
    | v => v.mismatch "a float"
  atom
    | text s => pure (.text s)
    | int n => pure (.integer n)
    | v => pure (.other v.found)
  option v := pure (some v)
  items
    | list items => pure items
    | v => v.mismatch "an array"
  entries v := match v.entries? with
    | some es => pure es
    | none => v.mismatch "a table"
  fields expected v := match v.entries? with
    | some es => pure (.named es)
    | none => match v with
      | list items => pure (.listed items false)
      | v => v.mismatch expected
  key expected
    | text s => pure s
    | v => v.mismatch expected
  step
    | text s => .field s
    | _ => .unnamed
  skip _ := pure ()

end Value

end ErrorBudget.Toml
