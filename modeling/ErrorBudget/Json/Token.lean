/-
  ErrorBudget.Json.Token

  JSON text in tokens: strings, marks, and words of any other characters. The
  characters are taken one at a time.
-/
import ErrorBudget.Text.Hex

namespace ErrorBudget.Json

/-- The pieces of a JSON text. -/
inductive Token where
  | string (s : String)
  | word (cs : List Char)
  | mark (c : Char)
deriving DecidableEq, Repr

namespace Token

/-- White space between tokens. -/
def isGap (c : Char) : Bool :=
  c = ' ' || c = '\t' || c = '\n' || c = '\r'

/-- Marks stand for themselves. -/
def isMark (c : Char) : Bool :=
  c = '[' || c = ']' || c = '\x7b' || c = '\x7d' || c = ',' || c = ':'

/-- Where in a token the next character is. `done` holds the characters of the
    token so far, the latest first. -/
inductive Place where
  | between
  | word (done : List Char)
  | string (done : List Char)
  /-- After a backslash. -/
  | escape (done : List Char)
  /-- In an escape that has `left` more digits; `high` is the first half of a pair. -/
  | code (done : List Char) (high : Option Nat) (left value : Nat)
  /-- After the first half of a pair. -/
  | half (done : List Char) (high : Nat)
  /-- After the backslash between the halves of a pair. -/
  | halfEscape (done : List Char) (high : Nat)

/-- The character that a letter after a backslash stands for. -/
def escaped? (c : Char) : Option Char :=
  if c = '"' || c = '\\' || c = '/' then some c
  else if c = 'b' then some '\x08'
  else if c = 'f' then some '\x0c'
  else if c = 'n' then some '\n'
  else if c = 'r' then some '\r'
  else if c = 't' then some '\t'
  else none

/-- The place after an escape with all its digits. -/
def afterCode (done : List Char) (high : Option Nat) (value : Nat) : Option Place :=
  match high with
  | none =>
    if 0xD800 ≤ value && value < 0xDC00 then some (.half done value)
    else (Text.ofCode? value).map fun c => .string (c :: done)
  | some h =>
    if 0xDC00 ≤ value && value < 0xE000 then
      (Text.ofCode? (0x10000 + (h - 0xD800) * 0x400 + (value - 0xDC00))).map fun c =>
        .string (c :: done)
    else none

/-- The tokens that end with a character, and the place after it, where the
    character starts or ends a token. -/
def start? (c : Char) : Option (List Token × Place) :=
  if isGap c then some ([], .between)
  else if isMark c then some ([.mark c], .between)
  else if c = '"' then some ([], .string [])
  else some ([], .word [c])

/-- The tokens that end with a character, and the place after it. -/
def next? : Place → Char → Option (List Token × Place)
  | .between, c => start? c
  | .word done, c =>
    if isGap c || isMark c || c = '"' then
      (start? c).map fun (ts, p) => (.word done.reverse :: ts, p)
    else some ([], .word (c :: done))
  | .string done, c =>
    if c = '"' then some ([.string (String.ofList done.reverse)], .between)
    else if c = '\\' then some ([], .escape done)
    else if c < ' ' then none
    else some ([], .string (c :: done))
  | .escape done, c =>
    if c = 'u' then some ([], .code done none 4 0)
    else (escaped? c).map fun e => ([], .string (e :: done))
  | .code done high left value, c =>
    match Text.hexValue? c with
    | none => none
    | some d =>
      if left ≤ 1 then (afterCode done high (16 * value + d)).map fun p => ([], p)
      else some ([], .code done high (left - 1) (16 * value + d))
  | .half done high, c => if c = '\\' then some ([], .halfEscape done high) else none
  | .halfEscape done high, c => if c = 'u' then some ([], .code done (some high) 4 0) else none

/-- The tokens of a text after those in `done`, the latest of which comes first. -/
def scan? (done : List Token) (place : Place) : List Char → Option (List Token)
  | [] => match place with
    | .between => some done.reverse
    | .word cs => some (.word cs.reverse :: done).reverse
    | _ => none
  | c :: cs => match next? place c with
    | none => none
    | some (ts, place) => scan? (ts.reverse ++ done) place cs

/-- The tokens of a text. -/
def ofChars? (cs : List Char) : Option (List Token) :=
  scan? [] .between cs

end Token

end ErrorBudget.Json
