/-
  ErrorBudget.Proofs.Query.Reader

  Reading the text of a query expression, independently of how expressions are
  written: characters are cut into tokens, and tokens are put together by the
  precedence of the operators. Parentheses are gone afterwards, and a series is
  its name with the values that its labels have to have.
-/
import ErrorBudget.Decimal.Reader
import ErrorBudget.Query

namespace ErrorBudget.Query

/-! ## Meanings -/

/-- What a selector picks: a name, and label values in the order in which they are read. -/
structure Series where
  name : String
  matchers : List (String × String)
deriving DecidableEq

/-- What an expression says. -/
inductive Meaning where
  | number (literal : List Char)
  | series (s : Series)
  | product (a b : Meaning)
  | compare (r : Relation) (a b : Meaning)
  | both (a b : Meaning)
  | either (a b : Meaning)
deriving DecidableEq

namespace Meaning

/-- All series that an expression looks at, from left to right. -/
def allSeries : Meaning → List Series
  | number _ => []
  | series s => [s]
  | product a b | compare _ a b | both a b | either a b => a.allSeries ++ b.allSeries

/-- Expressions of which any may hold, the first two joined first; there is no
    such expression without one to begin with. -/
def anyOf? : List Meaning → Option Meaning
  | [] => none
  | m :: ms => some (ms.foldl either m)

end Meaning

/-! ## Tokens -/

/-- What the text of an expression is cut into. A word is a number, a name or a keyword. -/
inductive Token where
  | word (cs : List Char)
  | text (cs : List Char)
  | mark (c : Char)
deriving DecidableEq

def isSpace (c : Char) : Bool :=
  [' ', '\t', '\n', '\r'].contains c

/-- Operators and brackets of one character. -/
def isMark (c : Char) : Bool :=
  ['(', ')', '\x7b', '\x7d', ',', '=', '*', '<', '>'].contains c

/-- A character that a word can have; a sign counts as part of a number. -/
def isPlain (c : Char) : Bool :=
  !(isSpace c || isMark c || c = '"')

/-- The character that a backslash and `c` stand for between double quotes. -/
def unescape? (c : Char) : Option Char :=
  [('\\', '\\'), ('"', '"'), ('n', '\n'), ('t', '\t'), ('r', '\r'), ('a', '\x07'),
    ('b', '\x08'), ('f', '\x0c'), ('v', '\x0b')].lookup c

/-- Where the scanner is: outside of quotes with the word so far, or between
    quotes with the text so far; the last character comes first. -/
inductive Scan where
  | word (done : List Char)
  | quoted (done : List Char)
  | escaped (done : List Char)

/-- The tokens after a word that is complete, which is none if it is empty. -/
def endWord (done : List Char) (ts : List Token) : List Token :=
  if done.isEmpty then ts else .word done.reverse :: ts

/-- The tokens of a text. A quoted text ends on its line. -/
def scan : Scan → List Char → Option (List Token)
  | .word done, [] => some (endWord done [])
  | .quoted _, [] => none
  | .escaped _, [] => none
  | .word done, c :: cs =>
    if isPlain c then scan (.word (c :: done)) cs
    else if c = '"' then (scan (.quoted []) cs).map (endWord done)
    else if isSpace c then (scan (.word []) cs).map (endWord done)
    else (scan (.word []) cs).map fun ts => endWord done (.mark c :: ts)
  | .quoted done, c :: cs =>
    if c = '"' then (scan (.word []) cs).map (.text done.reverse :: ·)
    else if c = '\\' then scan (.escaped done) cs
    else if c = '\n' then none
    else scan (.quoted (c :: done)) cs
  | .escaped done, c :: cs =>
    (unescape? c).bind fun d => scan (.quoted (d :: done)) cs

/-! ## Words -/

/-- A number, which may be signed. -/
def isNumber (w : List Char) : Bool :=
  let body := match w with
    | '+' :: cs => cs
    | '-' :: cs => cs
    | cs => cs
  body = ['I', 'n', 'f'] || body = ['N', 'a', 'N'] || (Decimal.readUnsigned? body).isSome

/-- A character of a label's name. -/
def isLabelChar (c : Char) : Bool :=
  c.isAlphanum || c = '_'

/-- A character of a series' name. -/
def isNameChar (c : Char) : Bool :=
  isLabelChar c || c = ':'

/-- Characters of a kind, the first of which is no digit. -/
def isWordOf (kind : Char → Bool) (w : List Char) : Bool :=
  !w.isEmpty && w.all kind && !(w.head?.any Char.isDigit)

/-! ## Operators -/

inductive Operator where
  | either
  | both
  | compare (r : Relation)
  | product
deriving DecidableEq

namespace Operator

/-- How tightly an operator binds. -/
def level : Operator → Nat
  | either => 0
  | both => 1
  | compare _ => 2
  | product => 3

def apply : Operator → Meaning → Meaning → Meaning
  | either => .either
  | both => .both
  | compare r => .compare r
  | product => .product

def ofToken? : Token → Option Operator
  | .word w =>
    if w = ['o', 'r'] then some either
    else if w = ['a', 'n', 'd'] then some both
    else none
  | .mark c =>
    if c = '>' then some (compare .above)
    else if c = '<' then some (compare .below)
    else if c = '*' then some product
    else none
  | .text _ => none

end Operator

/-! ## Parsing -/

/-- What is not complete yet: an open parenthesis, or an operator with what stands to its left. -/
inductive Frame where
  | paren
  | left (a : Meaning) (o : Operator)

/-- What has to come next. -/
inductive Place where
  | operand
  | operator (a : Meaning)
  | brace (name : String)
  | key (name : String) (done : List (String × String))
  | equals (name : String) (done : List (String × String)) (key : String)
  | value (name : String) (done : List (String × String)) (key : String)
  | comma (name : String) (done : List (String × String))

/-- A parser part way through, the innermost frame first. -/
structure State where
  stack : List Frame
  place : Place

/-- Completes the operators that bind at least as tightly as `level`, up to the
    innermost parenthesis. -/
def collapse (level : Nat) : List Frame → Meaning → List Frame × Meaning
  | .left a o :: stack, b =>
    if level ≤ o.level then collapse level stack (o.apply a b) else (.left a o :: stack, b)
  | stack, b => (stack, b)

/-- An operand is a number, a name with a selector after it, or in parentheses. -/
def stepOperand (stack : List Frame) : Token → Option State
  | .word w =>
    if isNumber w then some ⟨stack, .operator (.number w)⟩
    else if isWordOf isNameChar w then some ⟨stack, .brace (String.ofList w)⟩
    else none
  | .mark c => if c = '(' then some ⟨.paren :: stack, .operand⟩ else none
  | .text _ => none

/-- After an operand comes an operator or a closing parenthesis. -/
def stepOperator (stack : List Frame) (a : Meaning) (t : Token) : Option State :=
  if t = .mark ')' then
    match collapse 0 stack a with
    | (.paren :: stack, b) => some ⟨stack, .operator b⟩
    | _ => none
  else
    (Operator.ofToken? t).map fun o =>
      ⟨.left (collapse o.level stack a).2 o :: (collapse o.level stack a).1, .operand⟩

/-- A selector that is closed. -/
def closeSelector (stack : List Frame) (name : String) (done : List (String × String)) : State :=
  ⟨stack, .operator (.series ⟨name, done⟩)⟩

/-- The parser after a token, unless no expression goes on with it. -/
def step : State → Token → Option State
  | ⟨stack, .operand⟩, t => stepOperand stack t
  | ⟨stack, .operator a⟩, t => stepOperator stack a t
  | ⟨stack, .brace name⟩, t => if t = .mark '\x7b' then some ⟨stack, .key name []⟩ else none
  | ⟨stack, .key name done⟩, .word w =>
    if isWordOf isLabelChar w then some ⟨stack, .equals name done (String.ofList w)⟩ else none
  | ⟨stack, .key name done⟩, t =>
    if t = .mark '\x7d' then some (closeSelector stack name done) else none
  | ⟨stack, .equals name done key⟩, t =>
    if t = .mark '=' then some ⟨stack, .value name done key⟩ else none
  | ⟨stack, .value name done key⟩, .text v =>
    some ⟨stack, .comma name (done ++ [(key, String.ofList v)])⟩
  | ⟨_, .value _ _ _⟩, _ => none
  | ⟨stack, .comma name done⟩, t =>
    if t = .mark ',' then some ⟨stack, .key name done⟩
    else if t = .mark '\x7d' then some (closeSelector stack name done)
    else none

/-- The expression, if nothing is missing. -/
def finish : State → Option Meaning
  | ⟨stack, .operator a⟩ =>
    match collapse 0 stack a with
    | ([], b) => some b
    | _ => none
  | _ => none

/-- The expression that tokens make up. -/
def parse (ts : List Token) : Option Meaning :=
  (ts.foldlM step ⟨[], .operand⟩).bind finish

/-- What the text of an expression says, if it is one. -/
def read? (s : String) : Option Meaning :=
  (scan (.word []) s.toList).bind parse

end ErrorBudget.Query
