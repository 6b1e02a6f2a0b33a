/-
  ErrorBudget.Toml.Reader

  TOML text as a table. The text is read an entry or a header at a time; arrays
  and tables on one line may go on over several lines.
-/
import ErrorBudget.Toml.Quoted
import ErrorBudget.Toml.Scalar
import ErrorBudget.Toml.Table

namespace ErrorBudget.Toml

/-! ## White space -/

/-- White space within a line. -/
def isBlank (c : Char) : Bool := c = ' ' || c = '\t'

/-- What follows white space within a line. -/
def skipBlank (cs : List Char) : List Char := cs.dropWhile isBlank

/-- What follows a comment, if there is one. A comment holds no controls but tabs. -/
def skipComment? : List Char → Option (List Char)
  | '#' :: cs =>
    let rest := cs.dropWhile Quoted.isPlain
    if rest.isEmpty || Quoted.atBreak rest then some rest else none
  | cs => some cs

/-- What follows the end of a line, with a comment before it. -/
def endLine? (cs : List Char) : Option (List Char) :=
  (skipComment? (skipBlank cs)).bind fun rest =>
    if rest.isEmpty then some []
    else if Quoted.atBreak rest then some (Quoted.dropBreak rest)
    else none

/-- What follows white space, comments and line ends; `fuel` bounds the lines. -/
def skipLines? : Nat → List Char → Option (List Char)
  | 0, cs => some cs
  | fuel + 1, cs =>
    (skipComment? (skipBlank cs)).bind fun rest =>
      if Quoted.atBreak rest then skipLines? fuel (Quoted.dropBreak rest) else some rest

/-- What follows white space, comments and line ends. -/
def skipGap? (cs : List Char) : Option (List Char) := skipLines? (cs.length + 1) cs

/-! ## Keys -/

/-- The characters of keys without quotes. -/
def isBare (c : Char) : Bool := c.isAlphanum || c = '_' || c = '-'

/-- One part of a key, and what follows it. -/
def keyPart? (cs : List Char) : Option (String × List Char) :=
  match cs with
  | '"' :: _ | '\'' :: _ => (Quoted.key? cs).map fun (k, rest) => (String.ofList k, rest)
  | _ =>
    let k := cs.takeWhile isBare
    if k.isEmpty then none else some (String.ofList k, cs.dropWhile isBare)

/-- The parts of a key with points between them, the last first, and what follows them
    and white space. `fuel` bounds the parts. -/
def keyParts? (done : List String) : Nat → List Char → Option (List String × List Char)
  | 0, _ => none
  | fuel + 1, cs =>
    (keyPart? (skipBlank cs)).bind fun (k, rest) =>
      match skipBlank rest with
      | '.' :: rest => keyParts? (k :: done) fuel rest
      | rest => some (k :: done, rest)

/-- A key: the parts before its last, the last, and what follows. -/
def key? (cs : List Char) : Option (List String × String × List Char) :=
  (keyParts? [] (cs.length + 1) cs).bind fun (parts, rest) =>
    match parts with
    | [] => none
    | last :: path => some (path.reverse, last, rest)

/-! ## Values -/

/-- The characters that end a word. -/
def endsWord (c : Char) : Bool :=
  isBlank c || c = '\n' || c = '\r' || c = ',' || c = ']' || c = '\x7d' || c = '#' || c = '='
    || c = '[' || c = '\x7b' || c = '"' || c = '\''

/-- A word at the head of a text, and what follows it. A day and a time are one word
    with a space. -/
def wordAt (cs : List Char) : List Char × List Char :=
  let word := cs.takeWhile fun c => !endsWord c
  let rest := cs.dropWhile fun c => !endsWord c
  match rest with
  | ' ' :: d :: more =>
    if (Date.day? word).any (·.2.isEmpty) && d.isDigit then
      (word ++ ' ' :: (d :: more).takeWhile (fun c => !endsWord c),
        (d :: more).dropWhile fun c => !endsWord c)
    else (word, rest)
  | _ => (word, rest)

mutual

/-- A value, and what follows it. `fuel` bounds the values and entries. -/
def value? : Nat → List Char → Option (Value × List Char)
  | 0, _ => none
  | fuel + 1, cs =>
    match cs with
    | '[' :: cs => (skipGap? cs).bind fun cs => items? fuel [] cs
    | '\x7b' :: cs => (skipGap? cs).bind fun cs => entries? fuel [] cs
    | '"' :: _ | '\'' :: _ =>
      (Quoted.read? cs).map fun (s, rest) => (.text (String.ofList s), rest)
    | cs =>
      let (word, rest) := wordAt cs
      (word? word).map fun v => (v, rest)

/-- The items of an array up to its end, after those in `done`, the latest first. -/
def items? (fuel : Nat) (done : List Value) (cs : List Char) : Option (Value × List Char) :=
  match fuel, cs with
  | 0, _ => none
  | _ + 1, ']' :: rest => some (.list done.reverse, rest)
  | fuel + 1, cs =>
    (value? fuel cs).bind fun (v, rest) =>
      (skipGap? rest).bind fun rest =>
        match rest with
        | ',' :: rest => (skipGap? rest).bind fun rest => items? fuel (v :: done) rest
        | ']' :: rest => some (.list (v :: done).reverse, rest)
        | _ => none

/-- The entries of a table on one line up to its end, after those in `done`. -/
def entries? (fuel : Nat) (done : Entries) (cs : List Char) : Option (Value × List Char) :=
  match fuel, cs with
  | 0, _ => none
  | _ + 1, '\x7d' :: rest => some (.table (finishEntries done), rest)
  | fuel + 1, cs =>
    (key? cs).bind fun (path, key, rest) =>
      match rest with
      | '=' :: rest =>
        (value? fuel (skipBlank rest)).bind fun (v, rest) =>
          (Entries.assign path key v .header done).bind fun done =>
            (skipGap? rest).bind fun rest =>
              match rest with
              | ',' :: rest => (skipGap? rest).bind fun rest => entries? fuel done rest
              | '\x7d' :: rest => some (.table (finishEntries done), rest)
              | _ => none
      | _ => none

end

/-! ## Documents -/

/-- The tables read so far, and the path of the last header. -/
structure Progress where
  root : Entries := []
  header : List String := []

/-- A header after its bracket: the tables with the new one, and what follows it. -/
def header? (p : Progress) (cs : List Char) : Option (Progress × List Char) :=
  match cs with
  | '[' :: cs =>
    (key? cs).bind fun (path, key, rest) =>
      if rest.take 2 = [']', ']'] then
        (p.root.openNext path key).map fun root =>
          ({ root, header := path ++ [key] }, rest.drop 2)
      else none
  | cs =>
    (key? cs).bind fun (path, key, rest) =>
      match rest with
      | ']' :: rest =>
        (p.root.openTable path key).map fun root => ({ root, header := path ++ [key] }, rest)
      | _ => none

/-- An entry: the tables with it, and what follows it. -/
def assignment? (p : Progress) (cs : List Char) : Option (Progress × List Char) :=
  (key? cs).bind fun (path, key, rest) =>
    match rest with
    | '=' :: rest =>
      (value? (rest.length + 1) (skipBlank rest)).bind fun (v, rest) =>
        (p.root.assignAt p.header path key v).map fun root => ({ p with root }, rest)
    | _ => none

/-- Reads headers and entries; `fuel` bounds how many. -/
def run? (p : Progress) : Nat → List Char → Option Progress
  | 0, _ => none
  | fuel + 1, cs =>
    (skipGap? cs).bind fun cs =>
      match cs with
      | [] => some p
      | '[' :: rest => (header? p rest).bind fun (p, rest) => (endLine? rest).bind (run? p fuel)
      | cs => (assignment? p cs).bind fun (p, rest) => (endLine? rest).bind (run? p fuel)

/-- What follows a byte order mark, if there is one. -/
def dropMark : List Char → List Char
  | '\ufeff' :: cs => cs
  | cs => cs

/-- The table that a TOML text denotes. -/
def parse? (s : String) : Option Value :=
  let cs := dropMark s.toList
  (run? {} (cs.length + 1) cs).map fun p => .table (finishEntries p.root)

/-- Reads a value out of a text. -/
def read {α : Type} (reader : Value → Reader α) (s : String) : Except ReadError α :=
  match parse? s with
  | none => .error .malformed
  | some v => ((reader v).run 0).map Prod.fst

end ErrorBudget.Toml
