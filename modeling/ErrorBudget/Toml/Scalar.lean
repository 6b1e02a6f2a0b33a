/-
  ErrorBudget.Toml.Scalar

  Values that are words: truth values, numbers and dates.
-/
import ErrorBudget.Decimal.Reader
import ErrorBudget.Text.Hex
import ErrorBudget.Text.Split
import ErrorBudget.Toml.Date
import ErrorBudget.Toml.Value

namespace ErrorBudget.Toml

/-- Digits without the low lines between them. A low line stands between two digits. -/
def groupedDigits? (isDigit : Char → Bool) (cs : List Char) : Option (List Char) :=
  let groups := Text.split '_' cs
  if groups.all fun g => !g.isEmpty && g.all isDigit then some groups.flatten else none

/-- The number that digits of a base denote. -/
def ofBase? (base : Nat) (cs : List Char) : Option Nat :=
  (groupedDigits? (fun c => (Text.hexValue? c).any (· < base)) cs).map fun ds =>
    ds.foldl (fun n c => base * n + (Text.hexValue? c).getD 0) 0

/-- A whole number without sign: zero, or digits that do not start with a zero. -/
def whole? (cs : List Char) : Option (List Char) :=
  (groupedDigits? Char.isDigit cs).filter fun ds => ds.head? ≠ some '0' || ds.length = 1

/-- An integer between `-2 ^ 127` and `2 ^ 128`. -/
def int? (cs : List Char) : Option Int :=
  match cs with
  | '0' :: 'x' :: ds => (ofBase? 16 ds).bind bounded
  | '0' :: 'o' :: ds => (ofBase? 8 ds).bind bounded
  | '0' :: 'b' :: ds => (ofBase? 2 ds).bind bounded
  | '+' :: ds => (whole? ds).bind fun ds => bounded (Decimal.ofDigits ds)
  | '-' :: ds => (whole? ds).bind fun ds =>
      let n := Decimal.ofDigits ds
      if n ≤ Nat.pow 2 127 then some (-(n : Int)) else none
  | ds => (whole? ds).bind fun ds => bounded (Decimal.ofDigits ds)
where
  /-- A number that is not too large. -/
  bounded (n : Nat) : Option Int := if n < Nat.pow 2 128 then some n else none

/-- An exponent of ten: a sign, if there is one, and digits. -/
def exponent? (cs : List Char) : Option (List Char) :=
  match cs with
  | '+' :: ds => (groupedDigits? Char.isDigit ds).map ('+' :: ·)
  | '-' :: ds => (groupedDigits? Char.isDigit ds).map ('-' :: ·)
  | ds => groupedDigits? Char.isDigit ds

/-- Whether a character starts an exponent. -/
def isPower (c : Char) : Bool := c = 'e' || c = 'E'

/-- A fraction with its point, if there is one, and what follows it. -/
def fraction? : List Char → Option (List Char × List Char)
  | '.' :: cs =>
    (groupedDigits? Char.isDigit (cs.takeWhile fun c => !isPower c)).map fun ds =>
      ('.' :: ds, cs.dropWhile fun c => !isPower c)
  | cs => some ([], cs)

/-- An exponent with its mark, if there is one. -/
def power? : List Char → Option (List Char)
  | [] => some []
  | _ :: cs => (exponent? cs).map ('e' :: ·)

/-- A float without sign: a whole number with a fraction, an exponent or both. -/
def unsignedFloat? (cs : List Char) : Option Float := do
  let ends (c : Char) : Bool := c = '.' || isPower c
  let ds ← whole? (cs.takeWhile fun c => !ends c)
  let (fraction, rest) ← fraction? (cs.dropWhile fun c => !ends c)
  let power ← power? rest
  if fraction.isEmpty && power.isEmpty then none
  else (Decimal.readUnsigned? (ds ++ fraction ++ power)).filter Float.isFinite

/-- A float, an infinity or no number. -/
def float? (cs : List Char) : Option Float :=
  let (negative, cs) := match cs with
    | '-' :: cs => (true, cs)
    | '+' :: cs => (false, cs)
    | cs => (false, cs)
  let sign (x : Float) : Float := if negative then -x else x
  if cs = "inf".toList then some (sign (1.0 / 0.0))
  else if cs = "nan".toList then some (sign (0.0 / 0.0))
  else (unsignedFloat? cs).map sign

/-- The value that a word stands for. -/
def word? (cs : List Char) : Option Value :=
  if cs = "true".toList then some (.bool true)
  else if cs = "false".toList then some (.bool false)
  else match int? cs with
    | some n => some (.int n)
    | none => match float? cs with
      | some x => some (.float x)
      | none => (Date.read? cs).map fun d => .date (String.ofList d)

end ErrorBudget.Toml
