/-
  ErrorBudget.Yaml.Event

  The structure of YAML text as a sequence of events: starts and ends of
  documents and collections, and the scalars and references between them.
-/
import ErrorBudget.Yaml.Token

namespace ErrorBudget.Yaml

/-- A scalar as it is written. -/
structure Scalar where
  text : String
  style : Style := .plain
  tag : Option String := none
deriving DecidableEq, Repr, Inhabited

/-- What a YAML text consists of. -/
inductive Event where
  | documentStart
  | documentEnd
  | streamEnd
  | alias (name : String)
  | scalar (anchor : Option String) (s : Scalar)
  | listStart (anchor tag : Option String)
  | listEnd
  | mapStart (anchor tag : Option String)
  | mapEnd
deriving DecidableEq, Repr

/-! ## Grammar -/

/-- What may come next. A bare list is one that is not indented inside a map; a pair
    is a map of one entry inside a list on one line. -/
inductive Expect where
  | firstDocument
  | nextDocument
  | documentContent
  | documentEnd
  | blockNode
  | blockListFirst
  | blockListEntry
  | bareListEntry
  | blockMapFirst
  | blockMapKey
  | blockMapValue
  | flowListFirst
  | flowListEntry
  | pairKey
  | pairValue
  | pairEnd
  | flowMapFirst
  | flowMapKey
  | flowMapValue
  | flowMapNoValue
  | nothing
deriving DecidableEq, Repr

/-- Reading tokens as events. -/
structure Grammar where
  tokens : List Token
  expect : Expect := .firstDocument
  /-- What comes after the collections that are open, the innermost first. -/
  after : List Expect := []
  /-- Handles of tags and what they stand for. -/
  handles : List (List Char × List Char) := []

namespace Grammar

/-- Passes a token. -/
def advance (g : Grammar) : Grammar := { g with tokens := g.tokens.drop 1 }

/-- Goes on with something else. -/
def expecting (g : Grammar) (e : Expect) : Grammar := { g with expect := e }

/-- Goes on with what comes after the innermost collection. -/
def pop (g : Grammar) : Grammar :=
  { g with expect := g.after.headD .nothing, after := g.after.drop 1 }

/-- Comes back to `e` after the next node. -/
def push (g : Grammar) (e : Expect) : Grammar := { g with after := e :: g.after }

/-- A scalar without any text. -/
def empty : Event := .scalar none { text := "" }

/-! ## Nodes -/

/-- Anchor and tag of a node. -/
structure Properties where
  anchor : Option (List Char) := none
  tag : Option (List Char × List Char) := none

/-- Anchor and tag in front of a node, in either order, and what follows them. -/
def properties : List Token → Properties × List Token
  | .anchor a :: .tag h s :: ts => ({ anchor := a, tag := (h, s) }, ts)
  | .tag h s :: .anchor a :: ts => ({ anchor := a, tag := (h, s) }, ts)
  | .anchor a :: ts => ({ anchor := a }, ts)
  | .tag h s :: ts => ({ tag := (h, s) }, ts)
  | ts => ({}, ts)

/-- The full text of a tag; its handle has to be known. -/
def resolve? (g : Grammar) (handle suffix : List Char) : Option String :=
  if handle.isEmpty then some (String.ofList suffix)
  else (g.handles.lookup handle).map fun stem => String.ofList (stem ++ suffix)

/-- The tag of a node, if it has one. Fails for an unknown handle. -/
def tagOf? (g : Grammar) (p : Properties) : Option (Option String) :=
  match p.tag with
  | none => some none
  | some (handle, suffix) => (g.resolve? handle suffix).map some

/-- A node with its anchor and its tag. Blocks may start only where `block` says so,
    and a bare list only where `bare` does. The tag `!` of a scalar says nothing. -/
def content? (g : Grammar) (block bare : Bool) (anchor tag : Option String) :
    Option (Event × Grammar) :=
  match g.tokens with
  | .scalar text style :: _ =>
    let tag := tag.filter (· ≠ "!")
    some (.scalar anchor ⟨String.ofList text, style, tag⟩, g.pop.advance)
  | .flowListStart :: _ => some (.listStart anchor tag, g.expecting .flowListFirst)
  | .flowMapStart :: _ => some (.mapStart anchor tag, g.expecting .flowMapFirst)
  | t :: _ =>
    if bare && t = .blockEntry then some (.listStart anchor tag, g.expecting .bareListEntry)
    else if block && t = .blockListStart then
      some (.listStart anchor tag, g.expecting .blockListFirst)
    else if block && t = .blockMapStart then
      some (.mapStart anchor tag, g.expecting .blockMapFirst)
    else if anchor.isSome || tag.isSome then
      some (.scalar anchor { text := "", tag := tag }, g.pop)
    else none
  | [] => none

/-- The next node. -/
def node? (g : Grammar) (block bare : Bool) : Option (Event × Grammar) :=
  match g.tokens with
  | .alias name :: _ => some (.alias (String.ofList name), g.pop.advance)
  | ts =>
    let (p, rest) := properties ts
    match rest with
    | [] => none
    | _ => (g.tagOf? p).bind fun tag =>
      { g with tokens := rest }.content? block bare (p.anchor.map String.ofList) tag

/-! ## Documents -/

/-- Handles that every document knows. -/
def commonHandles : List (List Char × List Char) :=
  [(['!'], ['!']), (['!', '!'], "tag:yaml.org,2002:".toList)]

/-- The directives in front of a document: at most one version, which is 1.1 or 1.2,
    and handles of tags, none of them twice. -/
def directives? (versioned : Bool) (handles : List (List Char × List Char)) :
    List Token → Option (List (List Char × List Char) × List Token)
  | .version major minor :: ts =>
    if versioned || major ≠ 1 || (minor ≠ 1 && minor ≠ 2) then none
    else directives? true handles ts
  | .tagHandle handle stem :: ts =>
    if (handles.lookup handle).isSome then none
    else directives? versioned (handles ++ [(handle, stem)]) ts
  | [] => none
  | ts => some (handles ++ commonHandles, ts)

/-- A document that starts with its first node. -/
def bareDocument (g : Grammar) : Event × Grammar :=
  (.documentStart, { g with handles := commonHandles, expect := .blockNode }.push .documentEnd)

/-- A document that starts with a mark, or the end of the stream. -/
def markedDocument? (g : Grammar) : Option (Event × Grammar) :=
  match g.tokens with
  | .streamEnd :: _ => some (.streamEnd, (g.expecting .nothing).advance)
  | ts => (directives? false [] ts).bind fun (handles, ts) =>
    match ts with
    | .documentStart :: ts =>
      some (.documentStart,
        { g with tokens := ts, handles, expect := .documentContent }.push .documentEnd)
    | _ => none

/-- Whether a token belongs before a document's first node. -/
def isPrologue : Token → Bool
  | .version _ _ | .tagHandle _ _ | .documentStart | .streamEnd => true
  | _ => false

/-- Whether a token ends a document that has no node. -/
def endsDocument : Token → Bool
  | .version _ _ | .tagHandle _ _ | .documentStart | .documentEnd | .streamEnd => true
  | _ => false

/-! ## Collections -/

/-- An entry's node, unless the next token says that there is none. `back` is what
    comes after the entry. -/
def part? (g : Grammar) (block bare : Bool) (back : Expect) (isEnd : Token → Bool) :
    Option (Event × Grammar) :=
  match g.tokens with
  | [] => none
  | t :: _ => if isEnd t then some (empty, g.expecting back) else (g.push back).node? block bare

/-- Ends a collection with a token. -/
def close (g : Grammar) (e : Event) : Event × Grammar := (e, g.pop.advance)

/-- An entry of an indented list, or its end. -/
def blockItem? (g : Grammar) : Option (Event × Grammar) :=
  match g.tokens with
  | .blockEntry :: _ => g.advance.part? true false .blockListEntry fun t =>
      t = .blockEntry || t = .blockEnd
  | .blockEnd :: _ => some (g.close .listEnd)
  | _ => none

/-- An entry of a bare list, or its end. -/
def bareItem? (g : Grammar) : Option (Event × Grammar) :=
  match g.tokens with
  | .blockEntry :: _ => g.advance.part? true false .bareListEntry fun t =>
      t = .blockEntry || t = .key || t = .value || t = .blockEnd
  | [] => none
  | _ => some (.listEnd, g.pop)

/-- Whether a token says that a key or a value in a block has no node. -/
def endsBlockPart (t : Token) : Bool :=
  t = .key || t = .value || t = .blockEnd

/-- A key of an indented map, or its end. -/
def blockMapKey? (g : Grammar) : Option (Event × Grammar) :=
  match g.tokens with
  | .key :: _ => g.advance.part? true true .blockMapValue endsBlockPart
  | .blockEnd :: _ => some (g.close .mapEnd)
  | _ => none

/-- A value of an indented map. -/
def blockMapValue? (g : Grammar) : Option (Event × Grammar) :=
  match g.tokens with
  | .value :: _ => g.advance.part? true true .blockMapKey endsBlockPart
  | [] => none
  | _ => some (empty, g.expecting .blockMapKey)

/-- The tokens from an entry of a collection on one line on: after a comma, unless it
    is the first. -/
def afterComma? (g : Grammar) (first : Bool) (isEnd : Token → Bool) : Option Grammar :=
  match g.tokens with
  | [] => none
  | t :: _ =>
    if first || isEnd t then some g
    else if t = .flowEntry then some g.advance
    else none

/-- An entry of a list on one line, or its end. -/
def flowItem? (g : Grammar) (first : Bool) : Option (Event × Grammar) :=
  (g.afterComma? first (· = .flowListEnd)).bind fun g =>
    match g.tokens with
    | [] => none
    | .flowListEnd :: _ => some (g.close .listEnd)
    | .key :: _ => some (.mapStart none none, (g.expecting .pairKey).advance)
    | _ => (g.push .flowListEntry).node? false false

/-- The key of a pair. The token after a missing key is passed. -/
def pairKey? (g : Grammar) : Option (Event × Grammar) :=
  match g.tokens with
  | [] => none
  | t :: _ =>
    if t = .value || t = .flowEntry || t = .flowListEnd then
      some (empty, (g.expecting .pairValue).advance)
    else (g.push .pairValue).node? false false

/-- The value of a pair. -/
def pairValue? (g : Grammar) : Option (Event × Grammar) :=
  match g.tokens with
  | .value :: _ => g.advance.part? false false .pairEnd fun t =>
      t = .flowEntry || t = .flowListEnd
  | [] => none
  | _ => some (empty, g.expecting .pairEnd)

/-- Whether a token says that a key or a value in a map on one line has no node. -/
def endsFlowPart (t : Token) : Bool :=
  t = .flowEntry || t = .flowMapEnd

/-- A key of a map on one line, or its end. -/
def flowMapKey? (g : Grammar) (first : Bool) : Option (Event × Grammar) :=
  (g.afterComma? first (· = .flowMapEnd)).bind fun g =>
    match g.tokens with
    | [] => none
    | .flowMapEnd :: _ => some (g.close .mapEnd)
    | .key :: _ => g.advance.part? false false .flowMapValue fun t =>
        t = .value || endsFlowPart t
    | _ => (g.push .flowMapNoValue).node? false false

/-- A value of a map on one line. -/
def flowMapValue? (g : Grammar) : Option (Event × Grammar) :=
  match g.tokens with
  | .value :: _ => g.advance.part? false false .flowMapKey endsFlowPart
  | [] => none
  | _ => some (empty, g.expecting .flowMapKey)

/-- A step that passes nothing but needs to know that there is a next token. -/
def silent? (g : Grammar) (e : Event) : Option (Event × Grammar) :=
  if g.tokens.isEmpty then none else some (e, g)

/-! ## All events -/

/-- The next event. -/
def next? (g : Grammar) : Option (Event × Grammar) :=
  match g.expect with
  | .firstDocument =>
    match g.tokens with
    | [] => none
    | t :: _ => if isPrologue t then g.markedDocument? else some g.bareDocument
  | .nextDocument => { g with tokens := g.tokens.dropWhile (· = Token.documentEnd) }.markedDocument?
  | .documentContent =>
    match g.tokens with
    | [] => none
    | t :: _ => if endsDocument t then some (empty, g.pop) else g.node? true false
  | .documentEnd =>
    match g.tokens with
    | [] => none
    | .documentEnd :: _ => some (.documentEnd, (g.expecting .nextDocument).advance)
    | _ => some (.documentEnd, g.expecting .nextDocument)
  | .blockNode => g.node? true false
  | .blockListFirst => g.advance.blockItem?
  | .blockListEntry => g.blockItem?
  | .bareListEntry => g.bareItem?
  | .blockMapFirst => g.advance.blockMapKey?
  | .blockMapKey => g.blockMapKey?
  | .blockMapValue => g.blockMapValue?
  | .flowListFirst => g.advance.flowItem? true
  | .flowListEntry => g.flowItem? false
  | .pairKey => g.pairKey?
  | .pairValue => g.pairValue?
  | .pairEnd => (g.expecting .flowListEntry).silent? .mapEnd
  | .flowMapFirst => g.advance.flowMapKey? true
  | .flowMapKey => g.flowMapKey? false
  | .flowMapValue => g.flowMapValue?
  | .flowMapNoValue => (g.expecting .flowMapKey).silent? empty
  | .nothing => none

/-- At most `fuel` events. -/
def run (done : List Event) : Nat → Grammar → List Event
  | 0, _ => done.reverse
  | fuel + 1, g => match g.next? with
    | none => done.reverse
    | some (e, g) => run (e :: done) fuel g

end Grammar

/-- The events of tokens, up to the first place that has no structure. Only if there
    is none, the last event is the end of the stream. Every token starts at most
    one collection, and gives at most two events of its own. -/
def Event.ofTokens (tokens : List Token) : List Event :=
  Grammar.run [] (4 * tokens.length + 4) { tokens := tokens }

end ErrorBudget.Yaml
