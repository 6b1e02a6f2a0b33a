/-
  ErrorBudget.Template

  Query templates: `$window`, `$le` and `$quantile` stand for values that are
  put in from left to right; what was put in is not looked at again.
-/
import ErrorBudget.Decimal.General

namespace ErrorBudget

namespace Template

/-- What a template can have values put in for. -/
inductive Placeholder where
  | window
  | le
  | quantile
deriving DecidableEq, Repr

namespace Placeholder

/-- All placeholders, in the order in which they are looked for. -/
def all : List Placeholder := [window, le, quantile]

/-- What stands after the dollar sign. -/
def name : Placeholder → List Char
  | window => ['w', 'i', 'n', 'd', 'o', 'w']
  | le => ['l', 'e']
  | quantile => ['q', 'u', 'a', 'n', 't', 'i', 'l', 'e']

end Placeholder

/-- Values for placeholders; one without a value stays as it is. -/
structure Values where
  window : Option String := none
  le : Option String := none
  quantile : Option Float := none

/-- The text that a placeholder stands for. -/
def Values.get? (v : Values) : Placeholder → Option (List Char)
  | .window => v.window.map String.toList
  | .le => v.le.map String.toList
  | .quantile => v.quantile.map fun q => (Decimal.general q none).toList

/-- The placeholder whose name a text starts with. -/
def head? (cs : List Char) : Option Placeholder :=
  Placeholder.all.find? fun p => p.name.isPrefixOf cs

/-- The value and the length of the placeholder that a text starts with, if it
    has a value. -/
def match? (v : Values) (cs : List Char) : Option (List Char × Nat) :=
  (head? cs).bind fun p => (v.get? p).map fun value => (value, p.name.length)

/-- The text with the values put in. The first `skip` characters belong to a
    placeholder that is done; `done` holds the text so far, last character
    first. -/
def renderChars (v : Values) (done : List Char) : Nat → List Char → List Char
  | _, [] => done.reverse
  | skip + 1, _ :: cs => renderChars v done skip cs
  | 0, c :: cs =>
    if c = '$' then
      match match? v cs with
      | some (value, length) => renderChars v (value.reverse ++ done) length cs
      | none => renderChars v (c :: done) 0 cs
    else renderChars v (c :: done) 0 cs

/-- The template with the values put in. -/
def render (template : String) (v : Values) : String :=
  String.ofList (renderChars v [] 0 template.toList)

end Template

end ErrorBudget
