/-
  ErrorBudget.Yaml.Token.Plain

  Scalars without quotes. They go on over line ends as long as the lines are
  indented, and end before a comment, before a colon that marks a key, and
  before the marks of a collection on one line if they are inside one.
-/
import ErrorBudget.Yaml.Token.Gap

namespace ErrorBudget.Yaml.Plain

/-- Whether a plain scalar is over before the next character of a word. -/
def endsWord (flow : Bool) : List Char → Bool
  | [] => true
  | ':' :: cs => atGap cs
  | c :: _ => flow && isFlowMark c

/-- A colon right before a mark, which no plain scalar inside a collection on one
    line may hold. -/
def clashes (flow : Bool) : List Char → Bool
  | ':' :: c :: _ => flow && (c = '?' || isFlowMark c)
  | _ => false

/-- Reads on at a cursor. `done` is the text so far, the latest character first;
    `gap` is the white space after it if `inGap`. A line inside a block has to be
    indented by `indent`. -/
def scan? (flow : Bool) (indent : Int) (done : List Char) (gap : Gap) (inGap : Bool)
    (line column : Nat) : List Char → Option Scanned
  | [] => some ⟨done.reverse, ⟨[], line, column⟩, gap.broken⟩
  | c :: cs =>
    let stop : Option Scanned := some ⟨done.reverse, ⟨c :: cs, line, column⟩, gap.broken⟩
    if isGap c then
      if c = '\t' && gap.broken && column < indent then none
      else if isBreak c then scan? flow indent done (gap.add c) true (line + 1) 0 cs
      else scan? flow indent done (gap.add c) true line (column + 1) cs
    else if inGap && gap.broken && !flow && column < indent then stop
    else if inGap && (c = '#' || (column = 0 && atDocumentMark (c :: cs))) then stop
    else if clashes flow (c :: cs) then none
    else if endsWord flow (c :: cs) then stop
    else scan? flow indent (c :: gap.close done) {} false line (column + 1) cs

end ErrorBudget.Yaml.Plain
