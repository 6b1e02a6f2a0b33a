/-
  ErrorBudget.Yaml.Token.Stream

  The tokens of a text. A key needs no mark in front of it, so what may be a
  key is only known at the colon after it. Tokens wait until they can no longer
  turn out to be part of a key.
-/
import ErrorBudget.Yaml.Token.Block
import ErrorBudget.Yaml.Token.Plain
import ErrorBudget.Yaml.Token.Property
import ErrorBudget.Yaml.Token.Quoted

namespace ErrorBudget.Yaml

/-- A place where a key may have started: the number of its first token, and
    where it stands. A `required` one has to turn out to be a key. -/
structure Candidate where
  token : Nat
  line : Nat
  column : Nat
  required : Bool
deriving DecidableEq, Repr

/-- Reading a text in tokens. -/
structure Stream where
  cursor : Cursor
  /-- Number of collections on one line that are open. -/
  flow : Nat := 0
  /-- The column of the innermost block, or `-1` outside of all blocks. -/
  indent : Int := -1
  /-- The columns of the blocks around it, the innermost first. -/
  outer : List Int := []
  /-- Whether a key may start here. -/
  keyAllowed : Bool := true
  /-- One possible key for each open collection on one line and one for the block
      around them, the innermost first. -/
  candidates : List (Option Candidate) := [none]
  /-- Tokens that wait, in order. -/
  waiting : List Token := []
  /-- How many tokens came before those that wait. -/
  passed : Nat := 0

namespace Stream

/-- A key has at most this many characters, and is on one line. -/
def keyLimit : Nat := 1024

/-! ## Candidates -/

/-- Whether a candidate's line or its limit has been passed. -/
def isStale (s : Stream) (k : Candidate) : Bool :=
  k.line < s.cursor.line || k.column + keyLimit < s.cursor.column

/-- The stream without candidates that are stale, none of which may be required. -/
def dropStale? (s : Stream) : Option Stream :=
  if s.candidates.any fun k => k.any fun k => s.isStale k && k.required then none
  else some { s with candidates := s.candidates.map (Option.filter fun k => !s.isStale k) }

/-- The stream without its innermost candidate, which may not be required. -/
def dropCandidate? (s : Stream) : Option Stream :=
  match s.candidates with
  | some k :: ks => if k.required then none else some { s with candidates := none :: ks }
  | _ => some s

/-- The stream with a candidate at its place, if keys may start there. -/
def markCandidate? (s : Stream) : Option Stream :=
  if !s.keyAllowed then some s
  else s.dropCandidate?.map fun s =>
    let k : Candidate :=
      { token := s.passed + s.waiting.length
        line := s.cursor.line
        column := s.cursor.column
        required := s.flow = 0 && s.indent = s.cursor.column }
    { s with candidates := some k :: s.candidates.drop 1 }

/-! ## Tokens and blocks -/

/-- The stream with one more token. -/
def push (s : Stream) (t : Token) : Stream :=
  { s with waiting := s.waiting ++ [t] }

/-- The stream with one more token in front of the token with a number. -/
def insertAt (s : Stream) (number : Nat) (t : Token) : Stream :=
  let i := number - s.passed
  { s with waiting := s.waiting.take i ++ t :: s.waiting.drop i }

/-- The stream with a block started at a column that is further in. -/
def enter (s : Stream) (column : Nat) (number : Nat) (t : Token) : Stream :=
  if s.flow = 0 && s.indent < column then
    { s.insertAt number t with indent := column, outer := s.indent :: s.outer }
  else s

/-- The stream with a block started at its place, if that is further in. -/
def enterHere (s : Stream) (t : Token) : Stream :=
  s.enter s.cursor.column (s.passed + s.waiting.length) t

/-- Ends the blocks that are further in than a column. -/
def leaveFrom (s : Stream) (column : Int) : List Int → Stream
  | [] => s
  | i :: outer =>
    if column < s.indent then
      leaveFrom { s.push .blockEnd with indent := i, outer := outer } column outer
    else s

/-- Ends the blocks that are further in than a column. -/
def leave (s : Stream) (column : Int) : Stream :=
  if s.flow = 0 then s.leaveFrom column s.outer else s

/-- The stream with a token of `n` characters. -/
def take (s : Stream) (n : Nat) (t : Token) : Stream :=
  { s with cursor := s.cursor.skip n }.push t

/-! ## One token -/

/-- Passes white space, comments and line ends. Tabs count as white space only where
    no key may start. -/
def skipGap (flow : Bool) (keyAllowed comment : Bool) (line column : Nat) :
    List Char → Bool × Cursor
  | [] => (keyAllowed, ⟨[], line, column⟩)
  | c :: cs =>
    if isBreak c then skipGap flow (keyAllowed || !flow) false (line + 1) 0 cs
    else if comment then skipGap flow keyAllowed true line (column + 1) cs
    else if c = '#' then skipGap flow keyAllowed true line (column + 1) cs
    else if c = ' ' || (c = '\t' && (flow || !keyAllowed)) || (c = '\ufeff' && column = 0) then
      skipGap flow keyAllowed false line (column + 1) cs
    else (keyAllowed, ⟨c :: cs, line, column⟩)

/-- A collection on one line starts. -/
def openFlow? (s : Stream) (t : Token) : Option Stream :=
  s.markCandidate?.map fun s =>
    { s with flow := s.flow + 1, candidates := none :: s.candidates, keyAllowed := true }.take 1 t

/-- A collection on one line ends. -/
def closeFlow? (s : Stream) (t : Token) : Option Stream :=
  s.dropCandidate?.map fun s =>
    (if s.flow = 0 then { s with keyAllowed := false }
      else { s with flow := s.flow - 1, candidates := s.candidates.drop 1,
                    keyAllowed := false }).take 1 t

/-- A comma. -/
def comma? (s : Stream) : Option Stream :=
  s.dropCandidate?.map fun s => { s with keyAllowed := true }.take 1 .flowEntry

/-- A dash. -/
def dash? (s : Stream) : Option Stream :=
  if s.flow = 0 && !s.keyAllowed then none
  else (s.enterHere .blockListStart).dropCandidate?.map fun s =>
    { s with keyAllowed := true }.take 1 .blockEntry

/-- A question mark. -/
def key? (s : Stream) : Option Stream :=
  if s.flow = 0 && !s.keyAllowed then none
  else (s.enterHere .blockMapStart).dropCandidate?.map fun s =>
    { s with keyAllowed := s.flow = 0 }.take 1 .key

/-- A colon. What may have been a key is one now. -/
def value? (s : Stream) : Option Stream :=
  match s.candidates with
  | some k :: ks =>
    let s := s.insertAt k.token .key
    let s := s.enter k.column k.token .blockMapStart
    some ({ s with candidates := none :: ks, keyAllowed := false }.take 1 .value)
  | _ =>
    if s.flow = 0 && !s.keyAllowed then none
    else
      let s := s.enterHere .blockMapStart
      some ({ s with keyAllowed := s.flow = 0 }.take 1 .value)

/-- What may start a key, read by `scan`. -/
def keyPart? (s : Stream) (scan : Cursor → Option (Token × Cursor)) : Option Stream :=
  s.markCandidate?.bind fun s =>
    (scan s.cursor).map fun (t, c) => { s with cursor := c, keyAllowed := false }.push t

/-- An anchor or a reference. -/
def name? (s : Stream) (token : List Char → Token) : Option Stream :=
  s.keyPart? fun c => (Property.name? (c.skip 1)).map fun (name, c) => (token name, c)

/-- A scalar in quotes. -/
def quoted? (s : Stream) (single : Bool) : Option Stream :=
  s.keyPart? fun c =>
    let c := c.skip 1
    (if single then Quoted.scanSingle? [] {} false false c.line c.column c.rest
      else Quoted.scanDouble? [] (.text {} false) c.line c.column c.rest).map fun r =>
      (.scalar r.text .quoted, r.cursor)

/-- A scalar without quotes. A key may start after one that ended with a line. -/
def plain? (s : Stream) : Option Stream :=
  s.markCandidate?.bind fun s =>
    (Plain.scan? (0 < s.flow) (s.indent + 1) [] {} false s.cursor.line s.cursor.column
      s.cursor.rest).map fun r =>
      { s with cursor := r.cursor, keyAllowed := r.broken }.push (.scalar r.text .plain)

/-- A scalar that is a block of lines. -/
def block? (s : Stream) (literal : Bool) : Option Stream :=
  s.dropCandidate?.bind fun s =>
    (Block.block? literal s.indent (s.cursor.skip 1)).map fun r =>
      { s with cursor := r.cursor, keyAllowed := true }.push
        (.scalar r.text (if literal then .literal else .folded))

/-- A directive. -/
def directive? (s : Stream) : Option Stream :=
  (s.leave (-1)).dropCandidate?.bind fun s =>
    (Property.directive? (s.cursor.skip 1)).map fun (t, c) =>
      { s with cursor := c, keyAllowed := false }.push t

/-- Three dashes or three points. -/
def documentMark? (s : Stream) (t : Token) : Option Stream :=
  (s.leave (-1)).dropCandidate?.map fun s => { s with keyAllowed := false }.take 3 t

/-- Whether a scalar without quotes may start with a text. -/
def startsPlain (flow : Bool) : List Char → Bool
  | [] => false
  | c :: cs =>
    !(isGap c || c = '-' || c = '?' || c = ':' || isFlowMark c || c = '#' || c = '&' || c = '*'
        || c = '!' || c = '|' || c = '>' || c = '\'' || c = '"' || c = '%' || c = '@'
        || c = '\x60')
      || (c = '-' && !cs.head?.any isBlank)
      || (!flow && (c = '?' || c = ':') && !atGap cs)

/-- The token that starts with a character, and those that it brings with it. -/
def dispatch? (s : Stream) (c : Char) (cs : List Char) : Option Stream :=
  let flow : Bool := 0 < s.flow
  if s.cursor.column = 0 && c = '%' then s.directive?
  else if s.cursor.column = 0 && c = '-' && atDocumentMark (c :: cs) then
    s.documentMark? .documentStart
  else if s.cursor.column = 0 && c = '.' && atDocumentMark (c :: cs) then
    s.documentMark? .documentEnd
  else if c = '[' then s.openFlow? .flowListStart
  else if c = '\x7b' then s.openFlow? .flowMapStart
  else if c = ']' then s.closeFlow? .flowListEnd
  else if c = '\x7d' then s.closeFlow? .flowMapEnd
  else if c = ',' then s.comma?
  else if c = '-' && atGap cs then s.dash?
  else if c = '?' && (flow || atGap cs) then s.key?
  else if c = ':' && (flow || atGap cs) then s.value?
  else if c = '*' then s.name? .alias
  else if c = '&' then s.name? .anchor
  else if c = '!' then s.keyPart? (Property.tag? flow)
  else if c = '|' && !flow then s.block? true
  else if c = '>' && !flow then s.block? false
  else if c = '\'' then s.quoted? true
  else if c = '"' then s.quoted? false
  else if startsPlain flow (c :: cs) then s.plain?
  else none

/-- The end of the text ends its last line and all blocks. -/
def finish? (s : Stream) : Option Stream :=
  let c := s.cursor
  let cursor := if c.column = 0 then c else { c with line := c.line + 1, column := 0 }
  let s := { s with cursor }
  (s.leave (-1)).dropCandidate?.map fun s => { s with keyAllowed := false }.push .streamEnd

/-- The stream with the next token. -/
def fetch? (s : Stream) : Option Stream :=
  let (keyAllowed, cursor) := skipGap (0 < s.flow) s.keyAllowed false s.cursor.line s.cursor.column
    s.cursor.rest
  { s with keyAllowed, cursor }.dropStale?.bind fun s =>
    let s := s.leave s.cursor.column
    match s.cursor.rest with
    | [] => s.finish?
    | c :: cs => s.dispatch? c cs

/-! ## All tokens -/

/-- Whether the first token that waits may turn out to be part of a key. -/
def headWaits (s : Stream) : Bool :=
  s.candidates.any fun k => k.any fun k => k.token = s.passed

/-- Lets go of tokens that need not wait. `fuel` bounds how many there are. Nothing
    is left of the stream where a required key is missing. -/
def release (done : List Token) : Nat → Stream → List Token × Option Stream
  | 0, s => (done, some s)
  | fuel + 1, s =>
    match s.waiting with
    | [] => (done, some s)
    | t :: ts =>
      match s.dropStale? with
      | none => (done, none)
      | some s =>
        if s.headWaits then (done, some s)
        else release (t :: done) fuel { s with waiting := ts, passed := s.passed + 1 }

/-- Reads on for at most `fuel` tokens. -/
def run (done : List Token) : Nat → Stream → List Token
  | 0, _ => done.reverse
  | fuel + 1, s =>
    match s.fetch? with
    | none => done.reverse
    | some s =>
      match release done (s.waiting.length + 1) s with
      | (done, none) => done.reverse
      | (.streamEnd :: done, some _) => (Token.streamEnd :: done).reverse
      | (done, some s) => run done fuel s

end Stream

/-- The tokens of a text, up to the first place that cannot be read. Only if there is
    none, the last token is the end of the stream. -/
def Token.ofChars (cs : List Char) : List Token :=
  if !cs.all isPermitted then []
  else
    let cs := withLineFeeds [] cs
    Stream.run [] (cs.length + 1) { cursor := { rest := cs } }

end ErrorBudget.Yaml
