/-
  ErrorBudget.Yaml.Reader

  YAML text as a source of typed values. A value of the wrong kind shows before
  a fault of the text that comes after it.
-/
import ErrorBudget.Source
import ErrorBudget.Yaml.Node
import ErrorBudget.Yaml.Scalar
import ErrorBudget.Yaml.Token.Stream

namespace ErrorBudget.Yaml

/-- A node and where the references of its document lead. -/
structure Place where
  targets : List (Nat × List Piece)
  node : Node

namespace Place

/-- Another node of the same document. -/
def moved (p : Place) (n : Node) : Place := ⟨p.targets, n⟩

/-- The text breaks off. -/
def broken {α : Type} : Reader α := throw .malformed

/-! ## References -/

/-- The value that a reference leads to, once as many may be followed. -/
def jump (p : Place) (id : Nat) : Reader Place := do
  match (← get) with
  | 0 => broken
  | n + 1 =>
    set n
    match p.targets.lookup id with
    | some pieces => pure (p.moved (Node.ofPieces pieces))
    | none => broken

/-- Follows references until there is a value; `fuel` bounds how many. -/
def follow (p : Place) : Nat → Reader Place
  | 0 => broken
  | fuel + 1 => match p.node with
    | .alias id => do (← p.jump id).follow fuel
    | _ => pure p

/-- The value of a place. -/
def value (p : Place) : Reader Place := do
  p.follow ((← get) + 1)

/-! ## Kinds of scalars -/

/-- The tags with a meaning of their own. -/
def boolTag : String := "tag:yaml.org,2002:bool"
/-- An integer. -/
def intTag : String := "tag:yaml.org,2002:int"
/-- A float. -/
def floatTag : String := "tag:yaml.org,2002:float"
/-- Nothing. -/
def nullTag : String := "tag:yaml.org,2002:null"

/-- A tag of the document's own. -/
def isLocal (tag : String) : Bool := tag.toList.head? = some '!'

/-- What a scalar stands for. One with a tag for a kind has to be of that kind. -/
def meaning (s : Scalar) : Except ReadProblem Meaning :=
  let mismatch (expected : String) : Except ReadProblem Meaning :=
    .error (.invalidValue ("string " ++ Text.quoted s.text) expected)
  let untagged : Meaning := if s.style = .plain then .ofPlain s.text else .text s.text
  match s.tag with
  | none => .ok untagged
  | some tag =>
    if tag = boolTag then match bool? s.text with
      | some b => .ok (.bool b)
      | none => mismatch "a boolean"
    else if tag = intTag then match int? s.text.toList with
      | some n => .ok (.int n)
      | none => mismatch "an integer"
    else if tag = floatTag then match float? s.text with
      | some x => .ok (.float x)
      | none => mismatch "a float"
    else if tag = nullTag then
      if isNull s.text then .ok .nothing else mismatch "null"
    else if isLocal tag then .ok untagged
    else .ok (.text s.text)

/-- What a value is called where another kind was wanted. -/
def found (n : Node) : Except ReadProblem String :=
  match n with
  | .scalar s => (meaning s).map Meaning.found
  | .list _ _ _ => .ok "sequence"
  | .map _ _ _ => .ok "map"
  | .alias _ | .missing => .ok ""

/-- Fails because another kind of value was wanted. -/
def mismatch {α : Type} (n : Node) (expected : String) : Reader α :=
  match n with
  | .alias _ | .missing => broken
  | n => match found n with
    | .ok found => Reader.fail (.invalidType found expected)
    | .error problem => Reader.fail problem

/-- Whether a scalar may be read as another kind than text: one without quotes, or
    a literal block with the tag of that kind. -/
def isReadable (tag : String) (s : Scalar) : Bool :=
  s.style = .plain || (s.style = .literal && s.tag = some tag)

/-- A scalar without quotes and without text stands for an empty collection. -/
def isEmptyScalar : Node → Bool
  | .scalar s => s.style = .plain && s.text.isEmpty
  | _ => false

/-- Parts of a map at their places. -/
def entriesOf (p : Place) (es : List (Node × Node)) : List (Place × Place) :=
  es.map fun (k, v) => (p.moved k, p.moved v)

/-- The text of a scalar. -/
def text (expected : String) (p : Place) : Reader String := do
  match (← p.value).node with
  | .scalar s => pure s.text
  | n => mismatch n expected

/-- The entries of a map. -/
def entries (expected : String) (p : Place) : Reader (List (Place × Place)) := do
  let p ← p.value
  match p.node with
  | .map _ _ es => pure (p.entriesOf es)
  | n => if isEmptyScalar n then pure [] else mismatch n expected

/-- The tag of a node. -/
def tag? : Node → Option String
  | .scalar s => s.tag
  | .list _ tag _ => tag
  | .map _ tag _ => tag
  | _ => none

/-- A scalar of any kind. A value with a tag of the document's own is none. -/
def atom (p : Place) : Reader Atom := do
  let n := (← p.value).node
  if (tag? n).any isLocal then pure (.other "enum")
  else match n with
    | .scalar s => match meaning s with
      | .ok (.text t) => pure (.text t)
      | .ok (.int i) =>
        if (Meaning.width i).isEmpty then pure (.integer i)
        else pure (.other (Meaning.int i).found)
      | .ok m => pure (.other m.found)
      | .error problem => Reader.fail problem
    | .list _ _ _ => pure (.other "sequence")
    | .map _ _ _ => pure (.other "map")
    | .alias _ | .missing => broken

/-- The value itself, or nothing. -/
def option (p : Place) : Reader (Option Place) := do
  let p ← p.value
  match p.node with
  | .missing => broken
  | .scalar s =>
    if s.style ≠ .plain then pure (some p)
    else if s.tag = some nullTag then
      if isNull s.text then pure none
      else throw (.data [] false (.invalidValue ("string " ++ Text.quoted s.text) "null"))
    else if s.tag.isSome then pure (some p)
    else if s.text.isEmpty || isNull s.text then pure none
    else pure (some p)
  | _ => pure (some p)

end Place

instance : Source Place where
  text := Place.text "a string"
  bool p := do
    match (← p.value).node with
    | .scalar s =>
      match if Place.isReadable Place.boolTag s then bool? s.text else none with
      | some b => pure b
      | none => Place.mismatch (.scalar s) "a boolean"
    | n => Place.mismatch n "a boolean"
  float p := do
    match (← p.value).node with
    | .scalar s =>
      match if Place.isReadable Place.floatTag s then float? s.text else none with
      | some x => pure x
      | none => Place.mismatch (.scalar s) "f64"
    | n => Place.mismatch n "f64"
  atom := Place.atom
  option := Place.option
  items p := do
    let p ← p.value
    match p.node with
    | .list _ _ items => pure (items.map p.moved)
    | n => if Place.isEmptyScalar n then pure [] else Place.mismatch n "a sequence"
  entries := Place.entries "a map"
  fields expected p := return .named (← Place.entries expected p)
  key := Place.text
  step p := match p.node with
    | .scalar s => .field s.text
    | _ => .unnamed
  skip p := match p.node with
    | .missing | .list false _ _ | .map false _ _ => Place.broken
    | _ => pure ()

/-- How many references may be followed for each piece of a document. -/
def followLimit : Nat := 100

/-- Reads a value out of a text, which has to hold one document and no fault. -/
def read {α : Type} (reader : Place → Reader α) (s : String) : Except ReadError α :=
  let contents := Contents.ofEvents (Event.ofTokens (Token.ofChars s.toList))
  match (reader ⟨contents.targets, Node.ofPieces contents.pieces⟩).run
      (followLimit * contents.pieces.length) with
  | .error e => .error e
  | .ok (x, _) => if contents.whole then .ok x else .error .malformed

end ErrorBudget.Yaml
