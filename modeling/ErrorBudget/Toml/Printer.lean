/-
  ErrorBudget.Toml.Printer

  Tables as TOML text. A table's values come before the tables in it, each of
  which has a header with its whole path and an empty line before it.
-/
import ErrorBudget.Decimal.General
import ErrorBudget.Text.Hex
import ErrorBudget.Toml.Reader

namespace ErrorBudget.Toml

/-! ## Texts -/

/-- Controls that only an escape can write. -/
def isControl (c : Char) : Bool :=
  (c < ' ' && c ≠ '\t' && c ≠ '\n') || c = '\x7f'

/-- The most characters `c` in a row. `run` of them come right before. -/
def longestRun (c : Char) (run : Nat) : List Char → Nat
  | [] => run
  | d :: ds => if d = c then longestRun c (run + 1) ds else max run (longestRun c 0 ds)

/-- A character inside double quotes that has to be escaped, or may be. -/
def escapeChar (c : Char) : List Char :=
  if c = '"' then ['\\', '"']
  else if c = '\\' then ['\\', '\\']
  else if c = '\x08' then ['\\', 'b']
  else if c = '\t' then ['\\', 't']
  else if c = '\n' then ['\\', 'n']
  else if c = '\x0c' then ['\\', 'f']
  else if c = '\r' then ['\\', 'r']
  else if c < ' ' || c = '\x7f' then '\\' :: 'u' :: Text.padLeft 4 (Text.upperHexDigits c.toNat)
  else [c]

/-- The inside of three double quotes: line ends stand for themselves, and of three
    quotes in a row the third is escaped. `run` quotes come right before. -/
def longChars (run : Nat) : List Char → List Char
  | [] => []
  | c :: cs =>
    if c = '\n' then c :: longChars 0 cs
    else if c = '"' && run < 2 then c :: longChars (run + 1) cs
    else escapeChar c ++ longChars 0 cs

/-- A text between quotes, with a line feed first if it has lines of its own. -/
def between (quote : String) (lines : Bool) (body : List Char) : List Char :=
  quote.toList ++ (if lines then ['\n'] else []) ++ body ++ quote.toList

/-- A text: in double quotes if nothing needs an escape, then in single quotes, then
    in three of either; with escapes if none of these will do. -/
def textChars (s : String) : List Char :=
  let cs := s.toList
  let control := cs.any isControl
  let lines := cs.contains '\n'
  let escape := cs.contains '\\'
  let doubles := longestRun '"' 0 cs
  let singles := longestRun '\'' 0 cs
  if !control && !lines && !escape && doubles = 0 then
    between "\"" false (cs.flatMap escapeChar)
  else if !control && !lines && singles = 0 then between "'" false cs
  else if !control && !escape && doubles ≤ 2 then between "\"\"\"" lines (longChars 0 cs)
  else if !control && singles ≤ 2 then between "'''" lines cs
  else if lines then between "\"\"\"" lines (longChars 0 cs)
  else between "\"" false (cs.flatMap escapeChar)

/-- A key: without quotes if it can be, then like a text on one line. -/
def keyChars (s : String) : List Char :=
  let cs := s.toList
  let control := cs.any fun c => isControl c || c = '\n'
  if !cs.isEmpty && cs.all isBare then cs
  else if !control && !cs.contains '\\' && !cs.contains '"' then
    between "\"" false (cs.flatMap escapeChar)
  else if !control && !cs.contains '\'' then between "'" false cs
  else between "\"" false (cs.flatMap escapeChar)

/-! ## Values on one line -/

mutual

/-- A value on one line. -/
def inlineChars : Value → List Char
  | .text s => textChars s
  | .int n => (toString n).toList
  | .float x => (Decimal.literal x).toList
  | .bool b => (if b then "true" else "false").toList
  | .date text => text.toList
  | .list vs => '[' :: (itemsChars vs ++ [']'])
  | .table es => '\x7b' :: (pairsChars es ++ ['\x7d'])

/-- Items with commas between them. -/
def itemsChars : List Value → List Char
  | [] => []
  | [v] => inlineChars v
  | v :: w :: vs => inlineChars v ++ ',' :: ' ' :: itemsChars (w :: vs)

/-- Entries with commas between them. -/
def pairsChars : List (String × Value) → List Char
  | [] => []
  | [(k, v)] => ' ' :: (keyChars k ++ " = ".toList ++ inlineChars v ++ [' '])
  | (k, v) :: e :: es =>
    ' ' :: (keyChars k ++ " = ".toList ++ inlineChars v ++ ',' :: pairsChars (e :: es))

end

/-! ## Tables -/

/-- Whether a value has a header of its own. -/
def hasHeader : Value → Bool
  | .table _ => true
  | _ => false

/-- The lines of a table's values. -/
def valueLines : List (String × Value) → List Char
  | [] => []
  | (k, v) :: es =>
    (if hasHeader v then [] else keyChars k ++ " = ".toList ++ inlineChars v ++ ['\n'])
      ++ valueLines es

/-- A header with its line end. -/
def headerLine (path : List String) : List Char :=
  '[' :: ((path.map keyChars).intersperse ['.']).flatten ++ [']', '\n']

mutual

/-- The parts of the text that a value under a path takes: one for each table that
    has values or nothing in it. -/
def sections (path : List String) : Value → List (List Char)
  | .table es =>
    (if es.isEmpty || es.any (fun e => !hasHeader e.2) then
      [(if path.isEmpty then [] else headerLine path) ++ valueLines es] else [])
      ++ subsections path es
  | _ => []

/-- The parts of the text that the tables in a table take. -/
def subsections (path : List String) : List (String × Value) → List (List Char)
  | [] => []
  | (k, v) :: es => sections (path ++ [k]) v ++ subsections path es

end

/-- A table as text. -/
def write (v : Value) : String :=
  String.ofList (((sections [] v).intersperse ['\n']).flatten)

end ErrorBudget.Toml
