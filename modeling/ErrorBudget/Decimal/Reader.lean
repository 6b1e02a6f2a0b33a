/-
  ErrorBudget.Decimal.Reader

  Reading a decimal number as the nearest double: digits with an optional
  point, an optional sign and an optional exponent.
-/
import ErrorBudget.Decimal.Digits

namespace ErrorBudget.Decimal

/-- Digits at the head of a text, and what follows them. -/
def spanDigits (cs : List Char) : List Char × List Char :=
  (cs.takeWhile Char.isDigit, cs.dropWhile Char.isDigit)

/-- An exponent: `e` or `E`, an optional sign and digits; nothing else is left. -/
def readExponent? : List Char → Option Int
  | [] => some 0
  | c :: cs =>
    if c = 'e' || c = 'E' then
      let (negative, ds) := match cs with
        | '-' :: ds => (true, ds)
        | '+' :: ds => (false, ds)
        | ds => (false, ds)
      if !ds.isEmpty && ds.all Char.isDigit then
        let n : Int := ofDigits ds
        some (if negative then -n else n)
      else none
    else none

/-- The nearest double to `m * 10 ^ e`. Powers outside every double's range are
    settled by the number of digits. -/
def nearest (m : Nat) (e : Int) : Float :=
  if m = 0 then 0.0
  else
    let top := (digitCount m : Int) + e
    if 400 < top then 1.0 / 0.0
    else if top < -400 then 0.0
    else Float.ofScientific m (e < 0) e.natAbs

/-- The nearest double to a whole number. -/
def nearestInt (n : Int) : Float :=
  if n < 0 then -nearest n.natAbs 0 else nearest n.natAbs 0

/-- A number without sign: whole digits, a point and more digits, an exponent.
    At least one digit stands before or after the point. -/
def readUnsigned? (cs : List Char) : Option Float :=
  let (whole, rest) := spanDigits cs
  let (fraction, rest) := match rest with
    | '.' :: tail => spanDigits tail
    | _ => ([], rest)
  if whole.isEmpty && fraction.isEmpty then none
  else
    (readExponent? rest).map fun e =>
      nearest (ofDigits (whole ++ fraction)) (e - fraction.length)

/-- A number with an optional sign. -/
def read? : List Char → Option Float
  | '-' :: cs => (readUnsigned? cs).map fun x => -x
  | '+' :: cs => readUnsigned? cs
  | cs => readUnsigned? cs

end ErrorBudget.Decimal
