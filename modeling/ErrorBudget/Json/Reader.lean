/-
  ErrorBudget.Json.Reader

  JSON text as a tree. Tokens are taken one at a time; the lists and maps that
  are still open wait on a stack. A map has its keys in ascending order, and a
  later entry stands for an earlier one of the same key.
-/
import ErrorBudget.Json.Token
import ErrorBudget.Tree

namespace ErrorBudget.Json

/-! ## Words -/

/-- An integer between `-2 ^ 63` and `2 ^ 64` stays one; zero with a sign and
    integers beyond these bounds become the nearest double. -/
def integer (negative : Bool) (n : Nat) : Tree :=
  if negative then
    if n = 0 || Nat.pow 2 63 < n then .float (-(Decimal.nearest n 0)) else .int (-(n : Int))
  else if n < Nat.pow 2 64 then .int n
  else .float (Decimal.nearest n 0)

/-- A number without sign: whole digits without a leading zero, and a fraction or
    an exponent if it is no integer. -/
def unsigned? (negative : Bool) (cs : List Char) : Option Tree :=
  let (whole, rest) := Decimal.spanDigits cs
  if whole.isEmpty || (whole.head? = some '0' && 1 < whole.length) then none
  else if rest.isEmpty then some (integer negative (Decimal.ofDigits whole))
  else if rest = ['.'] || rest.take 2 = ['.', 'e'] || rest.take 2 = ['.', 'E'] then none
  else
    match Decimal.readUnsigned? cs with
    | some x => if x.isFinite then some (.float (if negative then -x else x)) else none
    | none => none

/-- The value that a word stands for. -/
def word? (cs : List Char) : Option Tree :=
  if cs = "null".toList then some .null
  else if cs = "true".toList then some (.bool true)
  else if cs = "false".toList then some (.bool false)
  else match cs with
    | '-' :: ds => unsigned? true ds
    | ds => unsigned? false ds

/-! ## Values -/

/-- A list or a map with the parts read so far, the latest first. -/
inductive Frame where
  | list (done : List Tree)
  | map (done : List (String × Tree)) (key : String)

/-- What may come next. -/
inductive Want where
  | value
  | valueOrEnd
  | more
  | key (done : List (String × Tree))
  | keyOrEnd
  | colon (done : List (String × Tree)) (key : String)
  | nothing (result : Tree)

/-- Open lists and maps, the innermost first, and what may come next. -/
structure State where
  frames : List Frame
  want : Want

/-- The state after a complete value. -/
def State.give (frames : List Frame) (t : Tree) : State :=
  match frames with
  | [] => ⟨[], .nothing t⟩
  | .list done :: fs => ⟨.list (t :: done) :: fs, .more⟩
  | .map done key :: fs => ⟨.map ((key, t) :: done) key :: fs, .more⟩

/-- A map of entries, the latest of which comes first. -/
def mapOf (done : List (String × Tree)) : Tree :=
  .map (KeyMap.ofList done.reverse).entries

/-- The state after the start of a value. -/
def State.begin? (frames : List Frame) : Token → Option State
  | .string s => some (.give frames (.text s))
  | .word cs => (word? cs).map (State.give frames)
  | .mark '[' => some ⟨.list [] :: frames, .valueOrEnd⟩
  | .mark '\x7b' => some ⟨frames, .keyOrEnd⟩
  | .mark _ => none

/-- The state after a token. -/
def State.next? (s : State) (t : Token) : Option State :=
  match s.want, t with
  | .value, t => State.begin? s.frames t
  | .valueOrEnd, .mark ']' => some (.give (s.frames.drop 1) (.list []))
  | .valueOrEnd, t => State.begin? s.frames t
  | .keyOrEnd, .mark '\x7d' => some (.give s.frames (.map []))
  | .keyOrEnd, .string k => some ⟨s.frames, .colon [] k⟩
  | .key done, .string k => some ⟨s.frames, .colon done k⟩
  | .colon done k, .mark ':' => some ⟨.map done k :: s.frames, .value⟩
  | .more, .mark c =>
    match s.frames with
    | .list done :: fs =>
      if c = ',' then some ⟨.list done :: fs, .value⟩
      else if c = ']' then some (.give fs (.list done.reverse))
      else none
    | .map done _ :: fs =>
      if c = ',' then some ⟨fs, .key done⟩
      else if c = '\x7d' then some (.give fs (mapOf done))
      else none
    | [] => none
  | _, _ => none

/-- The tree that a JSON text denotes. -/
def read? (s : String) : Option Tree :=
  (Token.ofChars? s.toList).bind fun tokens =>
    (tokens.foldlM State.next? ⟨[], .value⟩).bind fun state =>
      match state.want with
      | .nothing t => some t
      | _ => none

end ErrorBudget.Json
