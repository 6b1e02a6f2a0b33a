/-
  ErrorBudget.Source

  Reading typed values out of structured text. A format says how its values
  answer a reader that wants a text, a number, a list or the fields of a
  record; what a record holds is said once for all formats.
-/
import ErrorBudget.Duration.Parser
import ErrorBudget.Labels

namespace ErrorBudget

/-! ## What can go wrong -/

/-- Why a value is not what its reader wants. -/
inductive ReadProblem where
  | missingField (name : String)
  | duplicateField (name : String)
  | invalidType (found expected : String)
  | invalidValue (found expected : String)
  | invalidLength (count : Nat) (expected : String)
  | duration (text : String) (defect : Duration.Defect)
deriving DecidableEq, Repr

/-- The problem in words. -/
def ReadProblem.message : ReadProblem → String
  | missingField name => "missing field `" ++ name ++ "`"
  | duplicateField name => "duplicate field `" ++ name ++ "`"
  | invalidType found expected => "invalid type: " ++ found ++ ", expected " ++ expected
  | invalidValue found expected => "invalid value: " ++ found ++ ", expected " ++ expected
  | invalidLength count expected =>
    "invalid length " ++ toString count ++ ", expected " ++ expected
  | duration text defect => defect.message text

/-- One step from a value to one inside it. -/
inductive Step where
  | field (name : String)
  | index (i : Nat)
  | unnamed
deriving DecidableEq, Repr

/-- The way to a value: `a.b[2].c`; a key that is no plain text shows as `?`. -/
def Step.path : List Step → String
  | [] => ""
  | .field name :: steps => name ++ rest steps
  | .index i :: steps => "[" ++ toString i ++ "]" ++ rest steps
  | .unnamed :: steps => "?" ++ rest steps
where
  /-- The steps after the first, each name after a point. -/
  rest : List Step → String
    | [] => ""
    | .field name :: steps => "." ++ name ++ rest steps
    | .index i :: steps => "[" ++ toString i ++ "]" ++ rest steps
    | .unnamed :: steps => ".?" ++ rest steps

/-- A failed reading: the text breaks off or has no structure, or the value at
    the end of a path is not what was wanted. A problem that is not `placed`
    belongs to the value around the one that showed it. -/
inductive ReadError where
  | malformed
  | data (path : List Step) (placed : Bool) (problem : ReadProblem)
deriving DecidableEq, Repr

namespace ReadError

/-- A problem of the value at hand. -/
def here (problem : ReadProblem) : ReadError := .data [] true problem

/-- The error seen from the value one step up. -/
def under (step : Step) : ReadError → ReadError
  | malformed => malformed
  | data path true problem => data (step :: path) true problem
  | data path false problem => data path true problem

/-- The error in words, after the way to the value that shows it. -/
def message : ReadError → String
  | malformed => "syntax"
  | data [] _ problem => problem.message
  | data path _ problem => Step.path path ++ ": " ++ problem.message

/-- The problem in words, without the way to it. -/
def problemMessage : ReadError → String
  | malformed => "syntax"
  | data _ _ problem => problem.message

end ReadError

/-! ## Readers -/

/-- A reading that may fail. The state counts how many references it may still
    follow, for formats in which one value can refer to another. -/
abbrev Reader := StateT Nat (Except ReadError)

namespace Reader

/-- Fails with a problem of the value at hand. -/
def fail {α : Type} (problem : ReadProblem) : Reader α :=
  throw (.here problem)

/-- The reading of a value one step inside the one at hand. -/
def under {α : Type} (step : Step) (r : Reader α) : Reader α := fun n =>
  match r n with
  | .ok x => .ok x
  | .error e => .error (e.under step)

end Reader

/-- A scalar as it stands, for values that more than one kind of scalar can give. -/
inductive Atom where
  | text (s : String)
  | integer (n : Int)
  | other (found : String)

/-- The fields of a record: by name, or by position where a format allows a list
    in place of a record. A `closed` list may not hold more than the fields. -/
inductive Fields (σ : Type) where
  | named (entries : List (σ × σ))
  | listed (items : List σ) (closed : Bool)

/-- A format's values and how they answer a reader. -/
class Source (σ : Type) where
  /-- A text. -/
  text : σ → Reader String
  /-- A truth value. -/
  bool : σ → Reader Bool
  /-- A number. -/
  float : σ → Reader Float
  /-- Whatever scalar it is. -/
  atom : σ → Reader Atom
  /-- The value itself, or nothing if it stands for an absent one. -/
  option : σ → Reader (Option σ)
  /-- The items of a list. -/
  items : σ → Reader (List σ)
  /-- The entries of a map. -/
  entries : σ → Reader (List (σ × σ))
  /-- The fields of a record that messages call by the given name. -/
  fields : String → σ → Reader (Fields σ)
  /-- The text of a key, where messages call for the given thing. -/
  key : String → σ → Reader String
  /-- The step that a key leads to. -/
  step : σ → Step
  /-- Passes over a value that nobody wants. -/
  skip : σ → Reader Unit

namespace Source

variable {σ α : Type} [Source σ]

/-! ## Values of more than one kind -/

/-- A span: a text in its written form, or a whole number whose digits are one. -/
def duration (v : σ) : Reader Duration := do
  let text ← match ← atom v with
    | .text s => pure s
    | .integer n => pure (toString n)
    | .other found =>
      Reader.fail (.invalidType found "a prometheus duration such as 30d or 5m")
  match Duration.read text with
  | .ok d => pure d
  | .error defect => Reader.fail (.duration text defect)

/-- An optional value. -/
def optional (read : σ → Reader α) (v : σ) : Reader (Option α) := do
  match ← option v with
  | none => pure none
  | some w => pure (some (← read w))

/-- Items from the one with number `i` on, after those in `done`, the latest of
    which comes first. -/
def readItems (read : σ → Reader α) (i : Nat) (done : List α) : List σ → Reader (List α)
  | [] => pure done.reverse
  | v :: vs => do
    let x ← Reader.under (.index i) (read v)
    readItems read (i + 1) (x :: done) vs

/-- A list of values of one kind. -/
def list (read : σ → Reader α) (v : σ) : Reader (List α) := do
  readItems read 0 [] (← items v)

/-- Entries of a label set, added in order. -/
def readLabels (l : Labels) : List (σ × σ) → Reader Labels
  | [] => pure l
  | (k, v) :: es => do
    let name ← key "a string" k
    let value ← Reader.under (step k) (text v)
    readLabels (l.insert name value) es

/-- A label set. -/
def labels (v : σ) : Reader Labels := do
  readLabels KeyMap.empty (← entries v)

/-! ## Records -/

/-- A field of a record `α`: its name, whether it has to be there, and how its
    value enters the record. -/
structure Field (σ α : Type) where
  name : String
  required : Bool
  set : α → σ → Reader α

/-- A field that may be absent. -/
def field {β : Type} (name : String) (read : σ → Reader β) (put : α → β → α) : Field σ α :=
  ⟨name, false, fun r v => do return put r (← read v)⟩

/-- A field that has to be there. -/
def need {β : Type} (name : String) (read : σ → Reader β) (put : α → β → α) : Field σ α :=
  ⟨name, true, fun r v => do return put r (← read v)⟩

/-- Fields by name, in the order of the text. No known field comes twice; unknown
    ones are passed over. `seen` lists the fields that came already. -/
def readNamed (fields : List (Field σ α)) (seen : List String) (r : α) :
    List (σ × σ) → Reader α
  | [] => match fields.find? fun f => f.required && !seen.contains f.name with
    | some f => Reader.fail (.missingField f.name)
    | none => pure r
  | (k, v) :: es => do
    let name ← key "field identifier" k
    match fields.find? fun f => f.name == name with
    | none =>
      Reader.under (step k) (skip v)
      readNamed fields seen r es
    | some f =>
      if seen.contains name then Reader.fail (.duplicateField name)
      else
        let r ← Reader.under (step k) (f.set r v)
        readNamed fields (name :: seen) r es

/-- The name of a record of `n` fields, as messages about its length call it. -/
def sized (expected : String) (n : Nat) : String :=
  expected ++ " with " ++ toString n ++ (if n = 1 then " element" else " elements")

/-- Fields by position, from the one with number `i` on. -/
def readListed (expected : String) (closed : Bool) (count : Nat) (i : Nat) (r : α) :
    List (Field σ α) → List σ → Reader α
  | [], [] => pure r
  | [], _ :: vs =>
    if closed then Reader.fail (.invalidLength (i + 1 + vs.length) "fewer elements in array")
    else pure r
  | f :: fs, [] =>
    if f.required then Reader.fail (.invalidLength i (sized expected count))
    else readListed expected closed count i r fs []
  | f :: fs, v :: vs => do
    let r ← Reader.under (.index i) (f.set r v)
    readListed expected closed count (i + 1) r fs vs

/-- A record: `initial` with the fields set that are there. -/
def record (expected : String) (fields : List (Field σ α)) (initial : α) (v : σ) :
    Reader α := do
  match ← Source.fields expected v with
  | .named entries => readNamed fields [] initial entries
  | .listed items closed =>
    readListed expected closed fields.length 0 initial fields items

end Source

end ErrorBudget
