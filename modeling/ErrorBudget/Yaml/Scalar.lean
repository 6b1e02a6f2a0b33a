/-
  ErrorBudget.Yaml.Scalar

  What a scalar without quotes stands for: nothing, a truth value, an integer, a
  float, or else a text.
-/
import ErrorBudget.Decimal.General
import ErrorBudget.Decimal.Reader
import ErrorBudget.Text.Hex
import ErrorBudget.Text.Quoted

namespace ErrorBudget.Yaml

/-- What a scalar stands for. -/
inductive Meaning where
  | nothing
  | bool (b : Bool)
  | int (n : Int)
  | float (x : Float)
  | text (s : String)

/-! ## The single readings -/

/-- The spellings of nothing; an empty scalar is none of them. -/
def isNull (s : String) : Bool :=
  s == "null" || s == "Null" || s == "NULL" || s == "~"

/-- The spellings of truth values. -/
def bool? (s : String) : Option Bool :=
  if s == "true" || s == "True" || s == "TRUE" then some true
  else if s == "false" || s == "False" || s == "FALSE" then some false
  else none

/-- A sign and what follows it. -/
def splitSign : List Char → Option Bool × List Char
  | '+' :: cs => (some false, cs)
  | '-' :: cs => (some true, cs)
  | cs => (none, cs)

/-- Digits with a leading zero, which make a text and no number. -/
def hasLeadingZero (cs : List Char) : Bool :=
  match (splitSign cs).2 with
  | '0' :: d :: ds => (d :: ds).all Char.isDigit
  | _ => false

/-- The number that digits of a base denote, of which there is at least one. -/
def ofBase? (base : Nat) (cs : List Char) : Option Nat :=
  if cs.isEmpty then none
  else cs.foldl
    (fun n c => n.bind fun n => ((Text.hexValue? c).filter (· < base)).map fun d => base * n + d)
    (some 0)

/-- Digits with a mark of their base in front, or decimal ones without. -/
def magnitude? (cs : List Char) : Option Nat :=
  match cs with
  | '0' :: 'x' :: ds => ofBase? 16 ds
  | '0' :: 'o' :: ds => ofBase? 8 ds
  | '0' :: 'b' :: ds => ofBase? 2 ds
  | ds => ofBase? 10 ds

/-- An integer from `-2 ^ 127` to below `2 ^ 128`, without a leading zero. -/
def int? (cs : List Char) : Option Int :=
  if hasLeadingZero cs then none
  else
    let (sign, ds) := splitSign cs
    (magnitude? ds).bind fun n =>
      if sign = some true then if n ≤ Nat.pow 2 127 then some (-(n : Int)) else none
      else if n < Nat.pow 2 128 then some n
      else none

/-- A finite decimal number, an infinity or no number. -/
def float? (s : String) : Option Float :=
  let (sign, rest) := splitSign s.toList
  let name := String.ofList rest
  if name == ".inf" || name == ".Inf" || name == ".INF" then
    some (if sign = some true then -1.0 / 0.0 else 1.0 / 0.0)
  else if sign.isNone && (name == ".nan" || name == ".NaN" || name == ".NAN") then some (0.0 / 0.0)
  else if (splitSign rest).1.isSome then none
  else (Decimal.readUnsigned? rest).bind fun x =>
    if x.isFinite then some (if sign = some true then -x else x) else none

/-! ## The reading that applies -/

/-- What a scalar without quotes stands for. -/
def Meaning.ofPlain (s : String) : Meaning :=
  if s.isEmpty || isNull s then .nothing
  else match bool? s with
    | some b => .bool b
    | none => match int? s.toList with
      | some n => .int n
      | none =>
        if hasLeadingZero s.toList then .text s
        else match float? s with
          | some x => .float x
          | none => .text s

/-- A float with a point or its word. -/
def floatText (x : Float) : String :=
  let text := Decimal.positional x
  if x.isFinite && !text.toList.contains '.' then text ++ ".0" else text

namespace Meaning

/-- What is added to the name of an integer of more than 64 bits. -/
def width (n : Int) : String :=
  if n < -(Nat.pow 2 63 : Int) then " as i128"
  else if (Nat.pow 2 64 : Int) ≤ n then " as u128"
  else ""

/-- What a value is called where another kind was wanted. Integers of more than 64
    bits are called by their width. -/
def found : Meaning → String
  | nothing => "unit value"
  | bool b => "boolean `" ++ (if b then "true" else "false") ++ "`"
  | int n =>
    "integer `" ++ toString n ++ "`" ++ width n
  | float x => "floating point `" ++ floatText x ++ "`"
  | text s => "string " ++ Text.quoted s

end Meaning

end ErrorBudget.Yaml
