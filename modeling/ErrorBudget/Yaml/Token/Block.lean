/-
  ErrorBudget.Yaml.Token.Block

  Scalars that are a block of indented lines. A literal block keeps its lines;
  a folded one joins lines that start with a word. What line ends are left at
  the end is said in the head of the block.
-/
import ErrorBudget.Yaml.Token.Gap

namespace ErrorBudget.Yaml.Block

/-- Which line ends are left at the end of a block. -/
inductive Chomping where
  | strip
  | clip
  | keep
deriving DecidableEq, Repr

/-- What the head of a block says. An `increment` of zero is one that is not given. -/
structure Head where
  chomping : Chomping := .clip
  increment : Nat := 0

/-- The chomping that a character stands for. -/
def chomping? (c : Char) : Option Chomping :=
  if c = '+' then some .keep else if c = '-' then some .strip else none

/-- The increment that a character stands for. -/
def increment? (c : Char) : Option Nat :=
  if '1' ≤ c && c ≤ '9' then some (c.toNat - '0'.toNat) else none

/-- The indicators after `|` or `>`, in either order, and the cursor after them. No
    zero may stand where an increment can. -/
def head? (c : Cursor) : Option (Head × Cursor) :=
  match c.rest with
  | [] => some ({}, c)
  | a :: rest => match chomping? a with
    | some chomping => match rest with
      | [] => some ({ chomping }, c.skip 1)
      | b :: _ => match increment? b with
        | some increment => some ({ chomping, increment }, c.skip 2)
        | none => if b = '0' then none else some ({ chomping }, c.skip 1)
    | none => match increment? a with
      | some increment => match rest with
        | [] => some ({ increment }, c.skip 1)
        | b :: _ => match chomping? b with
          | some chomping => some ({ chomping, increment }, c.skip 2)
          | none => some ({ increment }, c.skip 1)
      | none => if a = '0' then none else some ({}, c)

/-- The lines read so far. `done` is the text, the latest character first; `last`
    is the end of the last line that is not empty, and `empty` are the line ends
    after it, the latest first. -/
structure Lines where
  done : List Char := []
  last : List Char := []
  empty : List Char := []
  /-- Whether the last line started with white space. -/
  spaced : Bool := false

namespace Lines

/-- The text before a line that starts with `c`. -/
def join (literal : Bool) (l : Lines) (c : Char) : List Char :=
  if !literal && l.last = ['\n'] && !l.spaced && !isBlank c then
    if l.empty.isEmpty then ' ' :: l.done else l.empty ++ l.done
  else l.empty ++ l.last ++ l.done

/-- The whole text, with the line ends at its end that are left. -/
def text (l : Lines) : Chomping → List Char
  | .strip => l.done.reverse
  | .clip => (l.last ++ l.done).reverse
  | .keep => (l.empty ++ l.last ++ l.done).reverse

end Lines

/-- The indentation of a block: the given one, or that of its first line that is
    not empty, but more than that of the block's surroundings. -/
def settled (outer : Int) (indent widest : Nat) : Nat :=
  if indent = 0 then max (max widest (outer + 1).toNat) 1 else indent

/-- Reads on at a cursor: before the text of a line, or in it if `inLine`. `indent`
    is zero as long as it is not known; `widest` is the widest indentation so
    far. -/
def scan? (literal : Bool) (outer : Int) (chomping : Chomping) (indent widest : Nat)
    (l : Lines) (inLine : Bool) (line column : Nat) : List Char → Option Scanned
  | [] => some ⟨l.text chomping, ⟨[], line, column⟩, false⟩
  | c :: cs =>
    if inLine then
      if isBreak c then
        scan? literal outer chomping indent widest { l with last := [c] } false (line + 1) 0 cs
      else
        scan? literal outer chomping indent widest { l with done := c :: l.done } true
          line (column + 1) cs
    else
      let inMargin := indent = 0 || column < indent
      let widest := max widest column
      if inMargin && c = ' ' then
        scan? literal outer chomping indent widest l false line (column + 1) cs
      else if inMargin && c = '\t' then none
      else if isBreak c then
        scan? literal outer chomping indent widest { l with empty := c :: l.empty } false
          (line + 1) 0 cs
      else
        let indent := settled outer indent widest
        if column = indent then
          scan? literal outer chomping indent widest
            ⟨c :: l.join literal c, [], [], isBlank c⟩ true line (column + 1) cs
        else some ⟨l.text chomping, ⟨c :: cs, line, column⟩, false⟩

/-- A block after its `|` or `>`. What is left of the line of its head is white
    space and a comment. -/
def block? (literal : Bool) (outer : Int) (c : Cursor) : Option Scanned :=
  (head? c).bind fun (head, c) =>
    let c := c.skipWhile isBlank
    let c := if c.rest.head? = some '#' then c.skipLine else c
    if !atLineEnd c.rest then none
    else
      let c := c.skipBreak
      let indent := if head.increment = 0 then 0
        else if 0 ≤ outer then outer.toNat + head.increment else head.increment
      scan? literal outer head.chomping indent 0 {} false c.line c.column c.rest

end ErrorBudget.Yaml.Block
