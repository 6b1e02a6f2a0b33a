/-
  ErrorBudget.Json.Printer

  Trees as JSON text, on one line or with every entry on its own line.
-/
import ErrorBudget.Text.Hex
import ErrorBudget.Tree

namespace ErrorBudget.Json

/-- A character inside a string: quotes, backslashes and controls are escaped. -/
def stringChar (c : Char) : List Char :=
  if c = '"' then ['\\', '"']
  else if c = '\\' then ['\\', '\\']
  else if c = '\n' then ['\\', 'n']
  else if c = '\r' then ['\\', 'r']
  else if c = '\t' then ['\\', 't']
  else if c = '\x08' then ['\\', 'b']
  else if c = '\x0c' then ['\\', 'f']
  else if c < ' ' then '\\' :: 'u' :: Text.padLeft 4 (Text.hexDigits c.toNat)
  else [c]

/-- A text as a string. -/
def string (s : String) : List Char :=
  '"' :: (s.toList.flatMap stringChar ++ ['"'])

/-- A value that has no parts. A number that is none or infinite is `null`. -/
def scalar : Tree → List Char
  | .null => "null".toList
  | .bool b => (if b then "true" else "false").toList
  | .int n => (toString n).toList
  | .float x => if x.isFinite then (Decimal.literal x).toList else "null".toList
  | .text s => string s
  | .list _ => []
  | .map _ => []

/-! ## On one line -/

mutual

/-- A value without any white space. -/
def compactChars : Tree → List Char
  | .list items => '[' :: (compactItems items ++ [']'])
  | .map entries => '\x7b' :: (compactEntries entries ++ ['\x7d'])
  | t => scalar t

/-- Items with commas between them. -/
def compactItems : List Tree → List Char
  | [] => []
  | [t] => compactChars t
  | t :: u :: ts => compactChars t ++ ',' :: compactItems (u :: ts)

/-- Entries with commas between them. -/
def compactEntries : List (String × Tree) → List Char
  | [] => []
  | [(k, t)] => string k ++ ':' :: compactChars t
  | (k, t) :: e :: es => string k ++ ':' :: compactChars t ++ ',' :: compactEntries (e :: es)

end

/-- A tree on one line. -/
def compact (t : Tree) : String :=
  String.ofList (compactChars t)

/-! ## On many lines -/

/-- A new line at a depth, two spaces for each level. -/
def newLine (depth : Nat) : List Char :=
  '\n' :: List.replicate (2 * depth) ' '

mutual

/-- A value whose first line stands at a depth. -/
def prettyChars (depth : Nat) : Tree → List Char
  | .list [] => ['[', ']']
  | .list (t :: ts) =>
    '[' :: (prettyItems (depth + 1) (t :: ts) ++ newLine depth ++ [']'])
  | .map [] => ['\x7b', '\x7d']
  | .map (e :: es) =>
    '\x7b' :: (prettyEntries (depth + 1) (e :: es) ++ newLine depth ++ ['\x7d'])
  | t => scalar t

/-- Items, each on its own line. -/
def prettyItems (depth : Nat) : List Tree → List Char
  | [] => []
  | [t] => newLine depth ++ prettyChars depth t
  | t :: u :: ts => newLine depth ++ prettyChars depth t ++ ',' :: prettyItems depth (u :: ts)

/-- Entries, each on its own line. -/
def prettyEntries (depth : Nat) : List (String × Tree) → List Char
  | [] => []
  | [(k, t)] => newLine depth ++ string k ++ ':' :: ' ' :: prettyChars depth t
  | (k, t) :: e :: es =>
    newLine depth ++ string k ++ ':' :: ' ' :: prettyChars depth t
      ++ ',' :: prettyEntries depth (e :: es)

end

/-- A tree on many lines. -/
def pretty (t : Tree) : String :=
  String.ofList (prettyChars 0 t)

end ErrorBudget.Json
