/-
  ErrorBudget.Toml.Quoted

  Texts in quotes. Double quotes know escapes, single quotes do not. Three
  quotes start a text that may hold line ends; a line feed right after them
  does not belong to it.
-/
import ErrorBudget.Text.Hex

namespace ErrorBudget.Toml.Quoted

/-- Characters that may stand for themselves: no controls but the tab. -/
def isPlain (c : Char) : Bool :=
  c = '\t' || (' ' ≤ c && c ≠ '\x7f')

/-- The character that a letter after a backslash stands for. -/
def escaped? (c : Char) : Option Char :=
  match c with
  | 'b' => some '\x08'
  | 't' => some '\t'
  | 'n' => some '\n'
  | 'f' => some '\x0c'
  | 'r' => some '\r'
  | 'e' => some '\x1b'
  | '"' => some '"'
  | '\\' => some '\\'
  | _ => none

/-- How many digits follow a letter after a backslash. -/
def codeLength? (c : Char) : Option Nat :=
  match c with
  | 'x' => some 2
  | 'u' => some 4
  | 'U' => some 8
  | _ => none

/-! ## On one line -/

/-- The rest of a text in single quotes, and what follows it. -/
def literal? (done : List Char) : List Char → Option (List Char × List Char)
  | [] => none
  | c :: cs =>
    if c = '\'' then some (done.reverse, cs)
    else if isPlain c then literal? (c :: done) cs
    else none

/-- Where in double quotes the next character is. -/
inductive Place where
  | text
  | escape
  /-- In an escape that has `left` more digits. -/
  | code (left value : Nat)
  /-- After a backslash at the end of a line; `broken` says that the line is over. -/
  | gap (broken : Bool)

/-- One character in an escape: the text and the place after it. -/
def escape? (done : List Char) (place : Place) (c : Char) : Option (List Char × Place) :=
  match place with
  | .code left value =>
    (Text.hexValue? c).bind fun d =>
      let value := 16 * value + d
      if 1 < left then some (done, .code (left - 1) value)
      else (Text.ofCode? value).map fun e => (e :: done, .text)
  | _ => match codeLength? c with
    | some n => some (done, .code n 0)
    | none => (escaped? c).map fun e => (e :: done, .text)

/-- The rest of a text in double quotes, and what follows it. -/
def basic? (done : List Char) (place : Place) : List Char → Option (List Char × List Char)
  | [] => none
  | c :: cs =>
    match place with
    | .text =>
      if c = '"' then some (done.reverse, cs)
      else if c = '\\' then basic? done .escape cs
      else if isPlain c then basic? (c :: done) .text cs
      else none
    | place => match escape? done place c with
      | some (done, place) => basic? done place cs
      | none => none

/-! ## On many lines -/

/-- Three quotes end a text; of up to two more, all belong to it. The text and what
    follows it, for a text that starts with a quote. -/
def ends? (quote : Char) (done cs : List Char) : Option (List Char × List Char) :=
  let count := (cs.takeWhile (· = quote)).length
  if count < 3 then none
  else
    let extra := min (count - 3) 2
    some ((List.replicate extra quote ++ done).reverse, cs.drop (3 + extra))

/-- Whether a text starts with a line end. -/
def atBreak : List Char → Bool
  | '\n' :: _ => true
  | '\r' :: '\n' :: _ => true
  | _ => false

/-- The rest of a text in three single quotes, and what follows it. -/
def longLiteral? (done : List Char) : List Char → Option (List Char × List Char)
  | [] => none
  | c :: cs =>
    if c = '\'' then
      match ends? '\'' done (c :: cs) with
      | some r => some r
      | none => longLiteral? (c :: done) cs
    else if c = '\n' || isPlain c then longLiteral? (c :: done) cs
    else if atBreak (c :: cs) then longLiteral? done cs
    else none

/-- Whether a backslash is the last thing on its line. -/
def endsLine (cs : List Char) : Bool :=
  atBreak (cs.dropWhile fun c => c = ' ' || c = '\t')

/-- The rest of a text in three double quotes, and what follows it. -/
def longBasic? (done : List Char) (place : Place) : List Char → Option (List Char × List Char)
  | [] => none
  | c :: cs =>
    let text : Option (List Char × List Char) :=
      if c = '"' then
        match ends? '"' done (c :: cs) with
        | some r => some r
        | none => longBasic? (c :: done) .text cs
      else if c = '\\' then
        longBasic? done (if endsLine cs then .gap false else .escape) cs
      else if c = '\n' || isPlain c then longBasic? (c :: done) .text cs
      else if atBreak (c :: cs) then longBasic? done .text cs
      else none
    match place with
    | .text => text
    | .gap broken =>
      if c = ' ' || c = '\t' then longBasic? done (.gap broken) cs
      else if c = '\n' then longBasic? done (.gap true) cs
      else if atBreak (c :: cs) then longBasic? done (.gap broken) cs
      else text
    | place => match escape? done place c with
      | some (done, place) => longBasic? done place cs
      | none => none

/-- The text without a line end at its start. -/
def dropBreak : List Char → List Char
  | '\n' :: cs => cs
  | '\r' :: '\n' :: cs => cs
  | cs => cs

/-! ## All texts -/

/-- The text in quotes at the head of a text, and what follows it. -/
def read? (cs : List Char) : Option (List Char × List Char) :=
  match cs with
  | '"' :: '"' :: '"' :: cs => longBasic? [] .text (dropBreak cs)
  | '\'' :: '\'' :: '\'' :: cs => longLiteral? [] (dropBreak cs)
  | '"' :: cs => basic? [] .text cs
  | '\'' :: cs => literal? [] cs
  | _ => none

/-- A key in quotes, which has no line ends. -/
def key? (cs : List Char) : Option (List Char × List Char) :=
  match cs with
  | '"' :: cs => basic? [] .text cs
  | '\'' :: cs => literal? [] cs
  | _ => none

end ErrorBudget.Toml.Quoted
