/-
  ErrorBudget.Labels.Selector

  The selector of a label set in a query: `{a="x", b="y"}`, keys in ascending
  order, values in double quotes.
-/
import ErrorBudget.Labels

namespace ErrorBudget.Labels

/-- A character between double quotes: quote, backslash, newline and tab are
    escaped with a backslash. -/
def escapeChar (c : Char) : List Char :=
  if c = '\\' then ['\\', '\\']
  else if c = '"' then ['\\', '"']
  else if c = '\n' then ['\\', 'n']
  else if c = '\t' then ['\\', 't']
  else [c]

/-- A text between double quotes. -/
def quote (cs : List Char) : List Char :=
  '"' :: (cs.flatMap escapeChar ++ ['"'])

/-- One matcher of a selector. -/
def matcher (e : String × String) : List Char :=
  e.1.toList ++ '=' :: quote e.2.toList

/-- The selector of a label set as characters. -/
def selectorChars (l : Labels) : List Char :=
  '\x7b' :: (((l.entries.map matcher).intersperse [',', ' ']).flatten ++ ['\x7d'])

/-- The selector of a label set. -/
def selector (l : Labels) : String :=
  String.ofList l.selectorChars

end ErrorBudget.Labels
