/-
  ErrorBudget.Yaml.Token.Property

  Anchors, references, tags and directives.
-/
import ErrorBudget.Text.Hex
import ErrorBudget.Yaml.Character
import ErrorBudget.Yaml.Token

namespace ErrorBudget.Yaml.Property

/-! ## Names -/

/-- Whether a name may be followed by the text. -/
def endsName : List Char → Bool
  | [] => true
  | c :: _ => isGap c || c = '?' || c = ':' || c = ',' || c = ']' || c = '\x7d' || c = '%'
    || c = '@' || c = '\x60'

/-- The name after `&` or `*`. -/
def name? (c : Cursor) : Option (List Char × Cursor) :=
  let (name, c) := c.span isNameChar
  if name.isEmpty || !endsName c.rest then none else some (name, c)

/-! ## Tags -/

/-- The octet that a percent sign and two hexadecimal digits stand for. -/
def octet? : List Char → Option Nat
  | '%' :: a :: b :: _ => (Text.hexValue? a).bind fun x => (Text.hexValue? b).map fun y => 16 * x + y
  | _ => none

/-- How many octets a character has whose first is given, and the bits of the first
    that count. -/
def octetCount? (first : Nat) : Option (Nat × Nat) :=
  if first < 0x80 then some (1, first)
  else if first / 0x20 = 6 then some (2, first % 0x20)
  else if first / 0x10 = 14 then some (3, first % 0x10)
  else if first / 8 = 30 then some (4, first % 8)
  else none

/-- The number of a character after its first octet, with `n` more octets to come. -/
def moreOctets? (value : Nat) : Nat → List Char → Option Nat
  | 0, _ => some value
  | n + 1, cs => (octet? cs).bind fun o =>
    if o / 0x40 = 2 then moreOctets? (0x40 * value + o % 0x40) n (cs.drop 3) else none

/-- The character that octets in percent signs stand for, and how many there are. -/
def escape? (cs : List Char) : Option (Char × Nat) :=
  (octet? cs).bind fun first =>
    (octetCount? first).bind fun (count, value) =>
      (moreOctets? value (count - 1) (cs.drop 3)).map fun n =>
        ((Text.ofCode? n).getD '\ufffd', count)

/-- The characters of a tag's suffix; a tag in angle brackets has more of them. -/
def isUriChar (verbatim : Bool) (c : Char) : Bool :=
  isNameChar c || c = ';' || c = '/' || c = '?' || c = ':' || c = '@' || c = '&' || c = '='
    || c = '+' || c = '$' || c = '.' || c = '!' || c = '~' || c = '*' || c = '\''
    || c = '(' || c = ')' || c = '%'
    || (verbatim && (c = ',' || c = '[' || c = ']'))

/-- A tag's suffix with escapes replaced. `skip` counts characters of an escape that
    is done; `done` holds the suffix so far, the latest character first. The result
    has the number of characters read. -/
def uri? (verbatim : Bool) (done : List Char) (skip count : Nat) : List Char →
    Option (List Char × Nat)
  | [] => some (done.reverse, count)
  | c :: cs =>
    if 0 < skip then uri? verbatim done (skip - 1) (count + 1) cs
    else if c = '%' then
      match escape? (c :: cs) with
      | some (e, octets) => uri? verbatim (e :: done) (3 * octets - 1) (count + 1) cs
      | none => none
    else if isUriChar verbatim c then uri? verbatim (c :: done) 0 (count + 1) cs
    else some (done.reverse, count)

/-- A suffix at a cursor. -/
def suffix? (verbatim : Bool) (c : Cursor) : Option (List Char × Cursor) :=
  (uri? verbatim [] 0 0 c.rest).map fun (text, count) => (text, c.skip count)

/-- A handle at a cursor: `!`, a name, and another `!` if it is there. -/
def handle? (c : Cursor) : Option (List Char × Cursor) :=
  if c.rest.head? ≠ some '!' then none
  else
    let (name, c) := (c.skip 1).span isNameChar
    if c.rest.head? = some '!' then some ('!' :: (name ++ ['!']), c.skip 1)
    else some ('!' :: name, c)

/-- Handle and suffix of a tag. A text that is no handle belongs to the suffix of
    the handle `!`; a lone `!` has no handle. -/
def tagParts? (c : Cursor) : Option (List Char × List Char × Cursor) :=
  if c.rest.take 2 = ['!', '<'] then
    (suffix? true (c.skip 2)).bind fun (suffix, c) =>
      if !suffix.isEmpty && c.rest.head? = some '>' then some ([], suffix, c.skip 1) else none
  else
    (handle? c).bind fun (handle, c) =>
      (suffix? false c).bind fun (suffix, c) =>
        if 1 < handle.length && handle.getLast? = some '!' then
          if suffix.isEmpty then none else some (handle, suffix, c)
        else
          let suffix := handle.drop 1 ++ suffix
          if suffix.isEmpty then some ([], ['!'], c) else some (['!'], suffix, c)

/-- A tag. It ends before a gap, or before a comma in a collection on one line. -/
def tag? (flow : Bool) (c : Cursor) : Option (Token × Cursor) :=
  (tagParts? c).bind fun (handle, suffix, c) =>
    if atGap c.rest || (flow && c.rest.head? = some ',') then some (.tag handle suffix, c)
    else none

/-! ## Directives -/

/-- A number of at most nine digits. -/
def number? (c : Cursor) : Option (Nat × Cursor) :=
  let (digits, c) := c.span Char.isDigit
  if digits.isEmpty || 9 < digits.length then none
  else some (Nat.ofDigitChars 10 digits 0, c)

/-- What follows `%YAML`. -/
def version? (c : Cursor) : Option (Token × Cursor) :=
  (number? (c.skipWhile isBlank)).bind fun (major, c) =>
    if c.rest.head? ≠ some '.' then none
    else (number? (c.skip 1)).map fun (minor, c) => (.version major minor, c)

/-- Whether a handle of a directive is complete. -/
def isHandle (handle : List Char) : Bool :=
  handle = ['!'] || (1 < handle.length && handle.getLast? = some '!')

/-- What follows `%TAG`. -/
def tagHandle? (c : Cursor) : Option (Token × Cursor) :=
  (handle? (c.skipWhile isBlank)).bind fun (handle, c) =>
    if !isHandle handle || !(c.rest.head?.any isBlank) then none
    else (suffix? true (c.skipWhile isBlank)).bind fun (stem, c) =>
      if stem.isEmpty || !atGap c.rest then none else some (.tagHandle handle stem, c)

/-- A directive after its `%`, with the rest of its line. -/
def directive? (c : Cursor) : Option (Token × Cursor) :=
  let (name, c) := c.span isNameChar
  if !atGap c.rest then none
  else
    (if name = "YAML".toList then version? c
      else if name = "TAG".toList then tagHandle? c
      else none).bind fun (token, c) =>
      let c := c.skipWhile isBlank
      let c := if c.rest.head? = some '#' then c.skipLine else c
      if atLineEnd c.rest then some (token, c.skipBreak) else none

end ErrorBudget.Yaml.Property
