/-
  ErrorBudget.Yaml.Character

  The characters of YAML text and their classes. Line ends of every kind but
  the two Unicode separators count as a line feed.
-/

namespace ErrorBudget.Yaml

/-- Whether a text may hold the character at all. -/
def isPermitted (c : Char) : Bool :=
  let n := c.toNat
  n == 0x9 || n == 0xA || n == 0xD || (0x20 ≤ n && n ≤ 0x7E) || n == 0x85
    || (0xA0 ≤ n && n ≤ 0xD7FF) || (0xE000 ≤ n && n ≤ 0xFFFD) || 0x10000 ≤ n

/-- A text with a line feed for every carriage return, for the two together, and
    for every next-line control, after the text in `done`, whose latest character
    comes first. -/
def withLineFeeds (done : List Char) : List Char → List Char
  | [] => done.reverse
  | '\r' :: '\n' :: cs => withLineFeeds ('\n' :: done) cs
  | c :: cs => withLineFeeds ((if c = '\r' || c = '\x85' then '\n' else c) :: done) cs

/-- Line ends, once every text has line feeds. -/
def isBreak (c : Char) : Bool :=
  c = '\n' || c = '\u2028' || c = '\u2029'

/-- White space within a line. -/
def isBlank (c : Char) : Bool :=
  c = ' ' || c = '\t'

/-- What separates words: white space or a line end. -/
def isGap (c : Char) : Bool :=
  isBlank c || isBreak c

/-- The characters of anchors and directive names. -/
def isNameChar (c : Char) : Bool :=
  c.isAlphanum || c = '_' || c = '-'

/-- The marks of collections on one line. -/
def isFlowMark (c : Char) : Bool :=
  c = ',' || c = '[' || c = ']' || c = '\x7b' || c = '\x7d'

/-- Whether a text is at its end or goes on with a gap. -/
def atGap : List Char → Bool
  | [] => true
  | c :: _ => isGap c

/-- Whether a text is at the end of a line. -/
def atLineEnd : List Char → Bool
  | [] => true
  | c :: _ => isBreak c

/-- Whether a text starts with three dashes or three points that stand alone. -/
def atDocumentMark : List Char → Bool
  | '-' :: '-' :: '-' :: cs => atGap cs
  | '.' :: '.' :: '.' :: cs => atGap cs
  | _ => false

/-! ## Positions -/

/-- What is left of a text, and the line and the column where that starts. -/
structure Cursor where
  rest : List Char
  line : Nat := 0
  column : Nat := 0
deriving Inhabited

namespace Cursor

/-- Passes `n` characters of the line. -/
def skip (c : Cursor) (n : Nat) : Cursor :=
  { c with rest := c.rest.drop n, column := c.column + n }

/-- Passes the end of the line, if the cursor is there. -/
def skipBreak (c : Cursor) : Cursor :=
  match c.rest with
  | [] => c
  | b :: rest => if isBreak b then ⟨rest, c.line + 1, 0⟩ else c

/-- The characters of the line up to the first that `p` refuses. `p` refuses line
    ends. -/
def span (p : Char → Bool) (c : Cursor) : List Char × Cursor :=
  let taken := c.rest.takeWhile p
  (taken, { c with rest := c.rest.dropWhile p, column := c.column + taken.length })

/-- Passes what `span` takes. -/
def skipWhile (p : Char → Bool) (c : Cursor) : Cursor := (c.span p).2

/-- Passes the rest of the line. -/
def skipLine (c : Cursor) : Cursor := c.skipWhile fun x => !isBreak x

end Cursor

end ErrorBudget.Yaml
