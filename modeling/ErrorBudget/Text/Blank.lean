/-
  ErrorBudget.Text.Blank

  White space as Unicode defines it, and the texts left when it is taken off
  both ends.
-/

namespace ErrorBudget.Text

/-- The characters that have the Unicode property White_Space. -/
def isSpace (c : Char) : Bool :=
  let n := c.toNat
  (9 ≤ n && n ≤ 13) || n == 0x20 || n == 0x85 || n == 0xA0 || n == 0x1680
    || (0x2000 ≤ n && n ≤ 0x200A) || n == 0x2028 || n == 0x2029 || n == 0x202F
    || n == 0x205F || n == 0x3000

/-- The characters between the first and the last that is no white space. -/
def trimChars (cs : List Char) : List Char :=
  ((cs.dropWhile isSpace).reverse.dropWhile isSpace).reverse

/-- The text without white space at its ends. -/
def trim (s : String) : String :=
  String.ofList (trimChars s.toList)

/-- A blank text holds nothing but white space. -/
def isBlank (s : String) : Bool :=
  s.toList.all isSpace

end ErrorBudget.Text
