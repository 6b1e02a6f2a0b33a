/-
  ErrorBudget.Yaml.Token.Quoted

  Scalars in quotes. In single quotes a quote is written twice; in double
  quotes a backslash starts an escape. Both go on over line ends.
-/
import ErrorBudget.Text.Hex
import ErrorBudget.Yaml.Token.Gap

namespace ErrorBudget.Yaml.Quoted

/-- Single quotes. `done` is the text so far, the latest character first; `gap` is
    the white space after it if `inGap`. `skip` says that the next character is
    the second quote of a pair. -/
def scanSingle? (done : List Char) (gap : Gap) (inGap skip : Bool) (line column : Nat) :
    List Char → Option Scanned
  | [] => none
  | c :: cs =>
    if skip then scanSingle? ('\'' :: done) {} false false line (column + 1) cs
    else if isBreak c then scanSingle? done (gap.add c) true false (line + 1) 0 cs
    else if isBlank c then scanSingle? done (gap.add c) true false line (column + 1) cs
    else if column = 0 && inGap && atDocumentMark (c :: cs) then none
    else
      let done := if inGap then gap.close done else done
      if c = '\'' then
        if cs.head? = some '\'' then scanSingle? done {} false true line (column + 1) cs
        else some ⟨done.reverse, ⟨cs, line, column + 1⟩, false⟩
      else scanSingle? (c :: done) {} false false line (column + 1) cs

/-- The character that a letter after a backslash stands for. -/
def escaped? (c : Char) : Option Char :=
  match c with
  | '0' => some '\x00'
  | 'a' => some '\x07'
  | 'b' => some '\x08'
  | 't' => some '\t'
  | '\t' => some '\t'
  | 'n' => some '\n'
  | 'v' => some '\x0b'
  | 'f' => some '\x0c'
  | 'r' => some '\r'
  | 'e' => some '\x1b'
  | ' ' => some ' '
  | '"' => some '"'
  | '/' => some '/'
  | '\\' => some '\\'
  | 'N' => some '\x85'
  | '_' => some '\xa0'
  | 'L' => some '\u2028'
  | 'P' => some '\u2029'
  | _ => none

/-- How many digits follow a letter after a backslash. -/
def codeLength? (c : Char) : Option Nat :=
  match c with
  | 'x' => some 2
  | 'u' => some 4
  | 'U' => some 8
  | _ => none

/-- Where in double quotes the next character is. -/
inductive Place where
  /-- In a word, or in the white space after one. -/
  | text (gap : Gap) (inGap : Bool)
  /-- After a backslash. -/
  | escape
  /-- In an escape that has `left` more digits. -/
  | code (left value : Nat)

/-- Double quotes. `done` is the text so far, the latest character first. -/
def scanDouble? (done : List Char) (place : Place) (line column : Nat) :
    List Char → Option Scanned
  | [] => none
  | c :: cs =>
    match place with
    | .text gap inGap =>
      if isBreak c then scanDouble? done (.text (gap.add c) true) (line + 1) 0 cs
      else if isBlank c then scanDouble? done (.text (gap.add c) true) line (column + 1) cs
      else if column = 0 && inGap && atDocumentMark (c :: cs) then none
      else
        let done := if inGap then gap.close done else done
        if c = '"' then some ⟨done.reverse, ⟨cs, line, column + 1⟩, false⟩
        else if c = '\\' then scanDouble? done .escape line (column + 1) cs
        else scanDouble? (c :: done) (.text {} false) line (column + 1) cs
    | .escape =>
      if isBreak c then scanDouble? done (.text Gap.escaped true) (line + 1) 0 cs
      else match codeLength? c with
        | some n => scanDouble? done (.code n 0) line (column + 1) cs
        | none => match escaped? c with
          | some e => scanDouble? (e :: done) (.text {} false) line (column + 1) cs
          | none => none
    | .code left value =>
      match Text.hexValue? c with
      | none => none
      | some d =>
        let value := 16 * value + d
        if 1 < left then scanDouble? done (.code (left - 1) value) line (column + 1) cs
        else match Text.ofCode? value with
          | some e => scanDouble? (e :: done) (.text {} false) line (column + 1) cs
          | none => none

end ErrorBudget.Yaml.Quoted
