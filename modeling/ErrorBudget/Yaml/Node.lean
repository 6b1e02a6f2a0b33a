/-
  ErrorBudget.Yaml.Node

  A document as nested nodes. A text that breaks off leaves collections open,
  and what is missing at their end shows when it is reached.
-/
import ErrorBudget.Yaml.Event

namespace ErrorBudget.Yaml

/-- Events of one document, with numbers in place of the names of references. -/
inductive Piece where
  | alias (id : Nat)
  | scalar (s : Scalar)
  | listStart (tag : Option String)
  | listEnd
  | mapStart (tag : Option String)
  | mapEnd
deriving DecidableEq, Repr

/-- A value of a document. A collection that is not `closed` ends in `missing`. -/
inductive Node where
  | scalar (s : Scalar)
  | alias (id : Nat)
  | list (closed : Bool) (tag : Option String) (items : List Node)
  | map (closed : Bool) (tag : Option String) (entries : List (Node × Node))
  | missing
deriving Inhabited

namespace Node

/-- A collection that is open, with its parts so far, the latest first. A map may
    have a key that still waits for its value. -/
inductive Frame where
  | list (tag : Option String) (done : List Node)
  | map (tag : Option String) (done : List (Node × Node)) (key : Option Node)

namespace Frame

/-- The collection with one more part. -/
def add (n : Node) : Frame → Frame
  | list tag done => list tag (n :: done)
  | map tag done none => map tag done (some n)
  | map tag done (some k) => map tag ((k, n) :: done) none

/-- The collection as it is. -/
def close : Frame → Node
  | list tag done => .list true tag done.reverse
  | map tag done _ => .map true tag done.reverse

/-- The collection where the text breaks off inside its last part. -/
def breakOff (last : Node) : Frame → Node
  | list tag done => .list false tag (last :: done).reverse
  | map tag done none => .map false tag ((last, missing) :: done).reverse
  | map tag done (some k) => .map false tag ((k, last) :: done).reverse

end Frame

/-- The first node of a document's pieces. `frames` are the collections that are
    open, the innermost first. -/
def build (frames : List Frame) : List Piece → Node
  | [] => frames.foldl Frame.breakOff missing
  | p :: ps =>
    let give (frames : List Frame) (n : Node) : Node :=
      match frames with
      | [] => n
      | f :: fs => build (f.add n :: fs) ps
    match p with
    | .alias id => give frames (.alias id)
    | .scalar s => give frames (.scalar s)
    | .listStart tag => build (.list tag [] :: frames) ps
    | .mapStart tag => build (.map tag [] none :: frames) ps
    | .listEnd | .mapEnd =>
      match frames with
      | [] => missing
      | f :: fs => give fs f.close

/-- The first node of a document's pieces. -/
def ofPieces (ps : List Piece) : Node := build [] ps

end Node

/-! ## Documents -/

/-- The first document of a stream. -/
structure Contents where
  pieces : List Piece
  /-- Where each number leads: the pieces from the node on that it stands for. -/
  targets : List (Nat × List Piece)
  /-- Whether the stream has no fault and no other document. -/
  whole : Bool

namespace Contents

/-- Names that nodes were given, with their numbers, and the places of those nodes:
    how many pieces came before them. -/
structure Names where
  numbers : List (String × Nat) := []
  places : List (Nat × Nat) := []

/-- The names with one more, for the node that `place` pieces come before. A name's
    number is how many other names there were when it was last given. -/
def Names.add (n : Names) (place : Nat) : Option String → Names
  | none => n
  | some name =>
    let others := n.numbers.filter fun e => e.1 ≠ name
    ⟨(name, n.numbers.length) :: others, (n.numbers.length, place) :: n.places⟩

/-- A document whose pieces are known, with everything that references need. -/
def finish (done : List Piece) (names : Names) (whole : Bool) : Contents :=
  let pieces := done.reverse
  ⟨pieces, names.places.map fun (number, place) => (number, pieces.drop place), whole⟩

/-- Collects the pieces of a document. `done` holds those so far, `count` of them,
    the latest first. -/
def collect (done : List Piece) (count : Nat) (names : Names) : List Event → Contents
  | [] => finish done names false
  | e :: es =>
    let add (anchor : Option String) (p : Piece) : Contents :=
      collect (p :: done) (count + 1) (names.add count anchor) es
    match e with
    | .documentStart => collect done count names es
    | .documentEnd => finish done names (es = [.streamEnd])
    | .streamEnd => finish (if done.isEmpty then [.scalar { text := "" }] else done) names true
    | .alias name =>
      match names.numbers.lookup name with
      | some number => add none (.alias number)
      | none => finish done names false
    | .scalar anchor s => add anchor (.scalar s)
    | .listStart anchor tag => add anchor (.listStart tag)
    | .listEnd => add none .listEnd
    | .mapStart anchor tag => add anchor (.mapStart tag)
    | .mapEnd => add none .mapEnd

/-- The first document of a stream; an empty stream has one that is an empty scalar. -/
def ofEvents (es : List Event) : Contents := collect [] 0 {} es

end Contents

end ErrorBudget.Yaml
