/-
  ErrorBudget.Duration.Parser

  Reading a written span: a lone `0`, or amounts of units in the order of the
  units, each unit at most once. The sum has to stay below `2 ^ 64`
  milliseconds.
-/
import ErrorBudget.Duration.Printer

namespace ErrorBudget.Duration

/-- Why a text is no span. -/
inductive Defect where
  | empty
  | malformed
  | outOfRange
deriving DecidableEq, Repr

namespace Defect

/-- The reason in words. -/
def reason : Defect → String
  | empty => "empty duration string"
  | malformed => "not a valid duration string"
  | outOfRange => "duration out of range"

/-- The message about a text that is no span. -/
def message (d : Defect) (text : String) : String :=
  "invalid duration '" ++ text ++ "': " ++ d.reason

end Defect

/-- The digits at the head of a text. -/
def headAmount (cs : List Char) : List Char :=
  cs.takeWhile Char.isDigit

/-- The characters from the first digits up to the next digits. -/
def headWord (cs : List Char) : List Char :=
  (cs.dropWhile Char.isDigit).takeWhile fun c => !c.isDigit

/-- What follows the first digits and the word after them. -/
def afterWord (cs : List Char) : List Char :=
  (cs.dropWhile Char.isDigit).dropWhile fun c => !c.isDigit

/-- Amounts of the given units in their order, of each unit at most one. A unit
    is read if the text starts with digits and exactly its suffix; nothing may
    be left at the end. -/
def readComponents? : List Scale → List Char → Option (List Component)
  | [], cs => if cs.isEmpty then some [] else none
  | unit :: units, cs =>
    if !(headAmount cs).isEmpty && headWord cs = unit.suffix then
      (readComponents? units (afterWord cs)).map
        (⟨Decimal.ofDigits (headAmount cs), unit⟩ :: ·)
    else readComponents? units cs

/-- Length of all components together in milliseconds. -/
def total (cs : List Component) : Nat :=
  cs.foldr (fun c rest => c.millis + rest) 0

/-- Reads a written span. -/
def readChars (cs : List Char) : Except Defect Duration :=
  if cs = ['0'] then .ok zero
  else if cs.isEmpty then .error .empty
  else match readComponents? Scale.all cs with
    | none => .error .malformed
    | some components =>
      if total components < Nat.pow 2 64 then .ok (ofMillis (total components))
      else .error .outOfRange

/-- Reads a written span. -/
def read (s : String) : Except Defect Duration :=
  readChars s.toList

end ErrorBudget.Duration
