/-
  ErrorBudget.Toml.Date

  Dates and times: a day, a time of day, both, or both with their distance from
  universal time. Seconds may be left out.
-/
import ErrorBudget.Decimal.Digits

namespace ErrorBudget.Toml.Date

/-- The first `n` digits of a text, and what follows them. -/
def digits? (n : Nat) (cs : List Char) : Option (Nat × List Char) :=
  let ds := cs.take n
  if ds.length = n && ds.all Char.isDigit then some (Decimal.ofDigits ds, cs.drop n) else none

/-- What follows a character. -/
def after? (c : Char) : List Char → Option (List Char)
  | d :: cs => if d = c then some cs else none
  | [] => none

/-- Whether a year has a day more than others. -/
def isLeap (year : Nat) : Bool :=
  (year % 4 = 0 && year % 100 ≠ 0) || year % 400 = 0

/-- How many days a month has. -/
def daysOf (year month : Nat) : Nat :=
  if month = 2 then (if isLeap year then 29 else 28)
  else if month = 4 || month = 6 || month = 9 || month = 11 then 30
  else 31

/-- A number in the given number of digits. -/
def padded (width n : Nat) : List Char :=
  let ds := Decimal.digits n
  List.replicate (width - ds.length) '0' ++ ds

/-- A day, in its written form. -/
def day? (cs : List Char) : Option (List Char × List Char) := do
  let (year, cs) ← digits? 4 cs
  let (month, cs) ← digits? 2 (← after? '-' cs)
  let (day, cs) ← digits? 2 (← after? '-' cs)
  if 1 ≤ month && month ≤ 12 && 1 ≤ day && day ≤ daysOf year month then
    some (padded 4 year ++ '-' :: padded 2 month ++ '-' :: padded 2 day, cs)
  else none

/-- A fraction of a second, in its written form: at most nine digits, without zeros
    at their end. -/
def fraction? (cs : List Char) : Option (List Char × List Char) :=
  match cs with
  | '.' :: cs =>
    let ds := cs.takeWhile Char.isDigit
    if ds.isEmpty then none
    else
      let kept := Decimal.trimZeros (ds.take 9)
      some (if kept.isEmpty then [] else '.' :: kept, cs.dropWhile Char.isDigit)
  | cs => some ([], cs)

/-- Seconds, in their written form, if they are there. -/
def seconds? (cs : List Char) : Option (List Char × List Char) :=
  match cs with
  | ':' :: cs => do
    let (second, cs) ← digits? 2 cs
    let (fraction, cs) ← fraction? cs
    if second ≤ 60 then some (':' :: (padded 2 second ++ fraction), cs) else none
  | cs => some ([], cs)

/-- A time of day, in its written form. -/
def time? (cs : List Char) : Option (List Char × List Char) := do
  let (hour, cs) ← digits? 2 cs
  let (minute, cs) ← digits? 2 (← after? ':' cs)
  let (seconds, cs) ← seconds? cs
  if hour ≤ 23 && minute ≤ 59 then
    some (padded 2 hour ++ ':' :: padded 2 minute ++ seconds, cs)
  else none

/-- The distance from universal time, in its written form. -/
def offset? (cs : List Char) : Option (List Char × List Char) :=
  match cs with
  | c :: cs =>
    if c = 'Z' || c = 'z' then some (['Z'], cs)
    else if c = '+' || c = '-' then do
      let (hour, cs) ← digits? 2 cs
      let (minute, cs) ← digits? 2 (← after? ':' cs)
      if hour ≤ 23 && minute ≤ 59 then
        some (c :: (padded 2 hour ++ ':' :: padded 2 minute), cs)
      else none
    else some ([], c :: cs)
  | [] => some ([], [])

/-- A date or a time, in its written form. Nothing may be left. -/
def read? (cs : List Char) : Option (List Char) :=
  match day? cs with
  | none => match time? cs with
    | some (time, []) => some time
    | _ => none
  | some (day, []) => some day
  | some (day, c :: cs) =>
    if c = 'T' || c = 't' || c = ' ' then do
      let (time, cs) ← time? cs
      match offset? cs with
      | some (offset, []) => some (day ++ 'T' :: time ++ offset)
      | _ => none
    else none

end ErrorBudget.Toml.Date
