/-
  ErrorBudget.Text.Quoted

  A text in double quotes with everything escaped that does not show, as
  messages quote what they found.
-/
import ErrorBudget.Text.Hex
import ErrorBudget.Text.Visible

namespace ErrorBudget.Text

/-- A character inside double quotes: the common controls by a letter, others
    that do not show by their number. -/
def quotedChar (c : Char) : List Char :=
  if c = '"' then ['\\', '"']
  else if c = '\\' then ['\\', '\\']
  else if c = '\n' then ['\\', 'n']
  else if c = '\r' then ['\\', 'r']
  else if c = '\t' then ['\\', 't']
  else if c = '\x00' then ['\\', '0']
  else if ' ' ≤ c && c ≤ '~' then [c]
  else if isVisible c then [c]
  else ['\\', 'u', '\x7b'] ++ hexDigits c.toNat ++ ['\x7d']

/-- The text in double quotes. -/
def quoted (s : String) : String :=
  String.ofList ('"' :: (s.toList.flatMap quotedChar ++ ['"']))

end ErrorBudget.Text
