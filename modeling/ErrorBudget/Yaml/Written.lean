/-
  ErrorBudget.Yaml.Written

  Texts as YAML scalars. A text of several lines is a literal block. Any other
  has no quotes, unless it would then be read as something else; it has single
  quotes if they are needed, and double quotes if those do not suffice.
-/
import ErrorBudget.Text.Hex
import ErrorBudget.Yaml.Scalar

namespace ErrorBudget.Yaml.Written

/-! ## Characters -/

/-- Line ends that a reader would fold or normalise. -/
def isLineEnd (c : Char) : Bool :=
  c = '\n' || c = '\r' || c = '\x85' || c = '\u2028' || c = '\u2029'

/-- Characters that stand for themselves outside of double quotes. -/
def isPrintable (c : Char) : Bool :=
  let n := c.toNat
  n == 0xA || (0x20 ≤ n && n ≤ 0x7E) || (0xA0 ≤ n && n ≤ 0xFFFD && n != 0xFEFF) || 0x10000 ≤ n

/-- Whether a text is at its end or goes on with white space. -/
def atGap : List Char → Bool
  | [] => true
  | c :: _ => c = ' ' || c = '\t' || isLineEnd c

/-- Characters that mean something at the start of a scalar. -/
def isIndicator (c : Char) : Bool :=
  c = '#' || c = ',' || c = '[' || c = ']' || c = '\x7b' || c = '\x7d' || c = '&' || c = '*'
    || c = '!' || c = '|' || c = '>' || c = '\'' || c = '"' || c = '%' || c = '@' || c = '\x60'

/-! ## Whole texts -/

/-- Whether the start of a text would be taken for something else than a scalar. -/
def startsOdd : List Char → Bool
  | '-' :: '-' :: '-' :: _ => true
  | '.' :: '.' :: '.' :: _ => true
  | c :: cs => isIndicator c || ((c = '?' || c = ':' || c = '-') && atGap cs)
  | [] => false

/-- Whether a colon before a gap or a number sign after one ends the text early.
    `spaced` says that a gap comes before. -/
def endsEarly (spaced : Bool) : List Char → Bool
  | [] => false
  | c :: cs =>
    (c = ':' && atGap cs) || (c = '#' && spaced) || endsEarly (atGap [c]) cs

/-- Whether a character for which `p` holds is right before one for which `q` does. -/
def hasPair (p q : Char → Bool) (cs : List Char) : Bool :=
  (cs.zip (cs.drop 1)).any fun (a, b) => p a && q b

/-- Whether a character is a space. -/
def isSpace (c : Char) : Bool := c = ' '

/-- Whether every character stands for itself and no space is before a line end, so
    that nothing needs an escape. -/
def isClean (cs : List Char) : Bool :=
  cs.all isPrintable && !hasPair isSpace isLineEnd cs

/-- Whether a text can do without quotes. -/
def allowsPlain (cs : List Char) : Bool :=
  isClean cs && !cs.any isLineEnd
    && !cs.head?.any isSpace && !cs.getLast?.any isSpace
    && !startsOdd cs && !endsEarly true cs

/-- Whether single quotes suffice. -/
def allowsSingle (cs : List Char) : Bool :=
  isClean cs && !hasPair isLineEnd isSpace cs

/-- Whether the text can be a literal block. -/
def allowsBlock (cs : List Char) : Bool :=
  !cs.isEmpty && isClean cs && !cs.getLast?.any isSpace

/-- Whether a text without quotes would not be read as a text. -/
def isAmbiguous (s : String) : Bool :=
  hasLeadingZero s.toList || match Meaning.ofPlain s with
    | .text _ => false
    | _ => true

/-! ## Quotes -/

/-- Spaces that indent a line. -/
def margin (n : Nat) : List Char := List.replicate n ' '

/-- The inside of single quotes: a quote is written twice, and lines go on at an
    indentation. `broken` says that a line end comes before. -/
def singleChars (indent : Nat) (broken : Bool) : List Char → List Char
  | [] => if broken then margin indent else []
  | c :: cs =>
    if c = ' ' then c :: singleChars indent broken cs
    else if isLineEnd c then
      (if !broken && c = '\n' then ['\n', '\n'] else [c]) ++ singleChars indent true cs
    else
      (if broken then margin indent else []) ++ (if c = '\'' then ['\'', '\''] else [c])
        ++ singleChars indent false cs

/-- The letter after a backslash for a character that has one. -/
def letter? (c : Char) : Option Char :=
  match c with
  | '\x00' => some '0'
  | '\x07' => some 'a'
  | '\x08' => some 'b'
  | '\t' => some 't'
  | '\n' => some 'n'
  | '\x0b' => some 'v'
  | '\x0c' => some 'f'
  | '\r' => some 'r'
  | '\x1b' => some 'e'
  | '"' => some '"'
  | '\\' => some '\\'
  | '\x85' => some 'N'
  | '\u2028' => some 'L'
  | '\u2029' => some 'P'
  | _ => none

/-- A character's number after a backslash. -/
def code (c : Char) : List Char :=
  let n := c.toNat
  let digits := Text.upperHexDigits n
  if n ≤ 0xFF then 'x' :: Text.padLeft 2 digits
  else if n ≤ 0xFFFF then 'u' :: Text.padLeft 4 digits
  else 'U' :: Text.padLeft 8 digits

/-- A character inside double quotes. -/
def doubleChar (c : Char) : List Char :=
  match letter? c with
  | some l => ['\\', l]
  | none => if isPrintable c then [c] else '\\' :: code c

/-- A text in double quotes. -/
def double (cs : List Char) : List Char :=
  '"' :: (cs.flatMap doubleChar ++ ['"'])

/-- A text in single quotes. -/
def single (indent : Nat) (cs : List Char) : List Char :=
  '\'' :: (singleChars indent false cs ++ ['\''])

/-! ## Blocks -/

/-- What the head of a block says about the line ends at its end: all are kept, or
    none, or one if nothing is said. -/
def chomping (cs : List Char) : List Char :=
  match cs.reverse with
  | [] => ['-']
  | [c] => if isLineEnd c then ['+'] else ['-']
  | c :: d :: _ => if !isLineEnd c then ['-'] else if isLineEnd d then ['+'] else []

/-- The head of a block; its indentation is said if it cannot be seen. -/
def head (cs : List Char) : List Char :=
  '|' :: ((if cs.head?.any fun c => c = ' ' || isLineEnd c then ['2'] else []) ++ chomping cs)

/-- The lines of a block, each that is not empty at an indentation. `broken` says
    that a line end comes before. -/
def blockChars (indent : Nat) (broken : Bool) : List Char → List Char
  | [] => []
  | c :: cs =>
    if isLineEnd c then c :: blockChars indent true cs
    else (if broken then margin indent else []) ++ c :: blockChars indent false cs

/-- A text as a block, with the end of its last line. -/
def block (indent : Nat) (cs : List Char) : List Char :=
  head cs ++ '\n' :: (blockChars indent true cs
    ++ if cs.getLast?.any isLineEnd then [] else ['\n'])

/-! ## The form that applies -/

/-- A text on its line: plain, or in quotes. -/
def inLine (indent : Nat) (s : String) : List Char :=
  let cs := s.toList
  if !isAmbiguous s && allowsPlain cs then cs
  else if allowsSingle cs then single indent cs
  else double cs

/-- A text with the end of its last line. What goes on over more lines is indented. -/
def scalar (indent : Nat) (s : String) : List Char :=
  let cs := s.toList
  if cs.contains '\n' then
    if allowsBlock cs then block indent cs else double cs ++ ['\n']
  else inLine indent s ++ ['\n']

/-- The longest key, in bytes, that needs no mark in front of it. -/
def keyLimit : Nat := 128

/-- Whether a key is written without a mark. -/
def isSimpleKey (s : String) : Bool :=
  !s.toList.any isLineEnd && s.utf8ByteSize ≤ keyLimit

end ErrorBudget.Yaml.Written
