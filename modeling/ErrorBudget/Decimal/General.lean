/-
  ErrorBudget.Decimal.General

  Numbers as text. The general layout writes small and large magnitudes with
  an exponent and all others without; the positional layout never uses an
  exponent.
-/
import ErrorBudget.Decimal.Rounded

namespace ErrorBudget.Decimal

namespace Scientific

/-- Digits with the point where the exponent puts it. -/
def plain (s : Scientific) : List Char :=
  if s.exponent < 0 then
    '0' :: '.' :: (List.replicate (-s.exponent - 1).toNat '0' ++ s.digits)
  else
    let whole := s.exponent.toNat + 1
    if s.digits.length ≤ whole then
      s.digits ++ List.replicate (whole - s.digits.length) '0'
    else
      s.digits.take whole ++ '.' :: s.digits.drop whole

/-- First digit, point, other digits, and an exponent with a sign and at least
    two digits. -/
def withExponent (s : Scientific) : List Char :=
  let mantissa := match s.digits with
    | [] => []
    | [d] => [d]
    | d :: ds => d :: '.' :: ds
  let power := Decimal.digits s.exponent.natAbs
  mantissa ++ 'e' :: (if s.exponent < 0 then '-' else '+')
    :: (if power.length < 2 then '0' :: power else power)

/-- With an exponent below `10 ^ -4` and from `10 ^ limit` on, plain between. -/
def general (s : Scientific) (limit : Int) : List Char :=
  if s.exponent < -4 || limit ≤ s.exponent then s.withExponent else s.plain

end Scientific

/-- From this power of ten on, a number in its shortest digits has an exponent. -/
def shortestLimit : Int := 6

/-- The digits of `n` with a point before the last `decimals` of them, and no point if there
    are none; zeros are put in front until a digit stands before the point. -/
def pointed (decimals n : Nat) : List Char :=
  let ds := List.replicate (decimals + 1 - digitCount n) '0' ++ digits n
  if decimals = 0 then ds
  else ds.take (ds.length - decimals) ++ '.' :: ds.drop (ds.length - decimals)

/-- A positive fraction with `decimals` digits after the point, a half to the even
    neighbour. -/
def fixed (decimals num den : Nat) : List Char :=
  pointed decimals (roundHalfEven (num * Nat.pow 10 decimals) den)

/-- A text without the characters `c` at its end. -/
def trimEnd (c : Char) (cs : List Char) : List Char :=
  (cs.reverse.dropWhile (· == c)).reverse

/-- A number without the zeros at the end of its fraction, and without the point if these
    are all of it. -/
def trimFraction (cs : List Char) : List Char :=
  if cs.contains '.' then trimEnd '.' (trimEnd '0' cs) else cs

/-- A finite number in `count` significant digits. Rounding to so many digits tells the power
    of ten; unless that calls for an exponent, the number is rounded once more, at the last of
    these digits. -/
def Binary.precise (b : Binary) (count : Nat) : List Char :=
  let s := rounded count b.num b.den
  if s.exponent < -4 || count ≤ s.exponent then s.withExponent
  else trimFraction (fixed ((count : Int) - 1 - s.exponent).toNat b.num b.den)

/-- A finite number in the general layout: with `precision` significant digits, of which
    there is at least one, or in its shortest digits. -/
def Binary.general (b : Binary) (precision : Option Nat) : List Char :=
  if b.significand = 0 then ['0']
  else
    let body := match precision with
      | some p => b.precise (max p 1)
      | none => b.shortest.general shortestLimit
    if b.negative then '-' :: body else body

/-- The general layout of a double, as query expressions write numbers. -/
def general (x : Float) (precision : Option Nat) : String :=
  match Reading.ofFloat x with
  | .notANumber => "NaN"
  | .infinite negative => if negative then "-Inf" else "+Inf"
  | .finite b => String.ofList (b.general precision)

/-- A number whose text shows that it is no integer: plain from `10 ^ -4` to
    below `10 ^ 16`, with a point, and with an exponent elsewhere. -/
def Scientific.literal (s : Scientific) : List Char :=
  let body := s.general 16
  if body.any fun c => c = '.' || c = 'e' then body else body ++ ['.', '0']

/-- The layout of a double in data formats that tell numbers from integers. -/
def literal (x : Float) : String :=
  match Reading.ofFloat x with
  | .notANumber => "NaN"
  | .infinite negative => if negative then "-inf" else "inf"
  | .finite b =>
    let body := if b.significand = 0 then ['0', '.', '0'] else b.shortest.literal
    String.ofList (if b.negative then '-' :: body else body)

/-- The positional layout of a double in its shortest digits, as messages write
    numbers. -/
def positional (x : Float) : String :=
  match Reading.ofFloat x with
  | .notANumber => "NaN"
  | .infinite negative => if negative then "-inf" else "inf"
  | .finite b =>
    let body := if b.significand = 0 then ['0'] else b.shortest.plain
    String.ofList (if b.negative then '-' :: body else body)

end ErrorBudget.Decimal
