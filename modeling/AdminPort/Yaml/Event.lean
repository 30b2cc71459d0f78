import AdminPort.Yaml.Lexer

/-!
# From tokens to events

The structure of a stream of documents as events: where documents, sequences and
mappings begin and end, the scalars and aliases in them, and the anchors and tags
that they carry. A key or a value that is left out is an empty plain scalar.

The grammar is an automaton. It expects one thing next, keeps what it expects
afterwards on a stack, and turns the tokens at hand into one event per step.
-/

namespace AdminPort.Yaml

/-- What a node may carry. -/
structure Properties where
  anchor : Option String := none
  tag : Option String := none
deriving DecidableEq, Repr

/-- A scalar: its text, how it is written, and its tag. -/
structure Scalar where
  text : String
  style : ScalarStyle
  tag : Option String := none
deriving DecidableEq, Repr

/-- What an event says. -/
inductive EventKind where
  | streamFinish
  | documentBegin
  | documentFinish
  | alias (name : String)
  | scalar (anchor : Option String) (scalar : Scalar)
  | sequenceBegin (properties : Properties)
  | sequenceFinish
  | mappingBegin (properties : Properties)
  | mappingFinish
deriving DecidableEq, Repr

/-- An event and the place where it begins. -/
structure Event where
  kind : EventKind
  mark : Mark
deriving DecidableEq, Repr

/-- What the grammar expects. -/
inductive Expected where
  | firstDocument
  | document
  | content
  | documentFinish
  | blockNode
  | blockSequence
  | blockEntry
  | indentlessEntry
  | blockMapping
  | blockKey
  | blockValue
  | flowSequence
  | flowEntry
  | pairKey
  | pairValue
  | pairFinish
  | flowMapping
  | flowKey
  | flowValue
  | missingFlowValue
  | nothing
deriving DecidableEq, Repr

/-- The reading of tokens under way. -/
structure Grammar where
  tokens : List Token
  expected : Expected := .firstDocument
  /-- What is expected once the node at hand is complete. -/
  afterwards : List Expected := []
  /-- The tag handles of the document at hand. -/
  handles : List (String × String) := []
deriving Repr

/-- One event and the reading behind it. -/
abbrev Grammar.Step := Option (Event × Grammar)

namespace Grammar

/-- The handles that every document has. -/
def commonHandles : List (String × String) := [("!", "!"), ("!!", "tag:yaml.org,2002:")]

/-- The reading behind the next token. -/
def skip (g : Grammar) : Grammar := { g with tokens := g.tokens.tail }

/-- The reading with something expected next. -/
def expect (g : Grammar) (expected : Expected) : Grammar := { g with expected }

/-- The reading with something expected after the node at hand. -/
def push (g : Grammar) (afterwards : Expected) : Grammar :=
  { g with afterwards := afterwards :: g.afterwards }

/-- The reading after the node at hand. -/
def pop (g : Grammar) : Grammar :=
  match g.afterwards with
  | [] => g.expect .nothing
  | next :: afterwards => { g with expected := next, afterwards }

/-- What the next token says. -/
def kind? (g : Grammar) : Option TokenKind := g.tokens.head?.map (·.kind)

/-- One event. -/
def emit (g : Grammar) (kind : EventKind) (mark : Mark) : Step := some (⟨kind, mark⟩, g)

/-- An empty plain scalar in the place of a node that is left out. -/
def leftOut (g : Grammar) (mark : Mark) : Step := g.emit (.scalar none ⟨"", .plain, none⟩) mark

/-! ## Nodes -/

/-- The anchor and the tag in front of a node, in either order, and the tokens
behind them. -/
def readProperties : List Token → Option String × Option (String × String) × List Token
  | ⟨.anchor a, _, _⟩ :: ⟨.tag handle suffix, _, _⟩ :: rest => (some a, some (handle, suffix), rest)
  | ⟨.tag handle suffix, _, _⟩ :: ⟨.anchor a, _, _⟩ :: rest => (some a, some (handle, suffix), rest)
  | ⟨.anchor a, _, _⟩ :: rest => (some a, none, rest)
  | ⟨.tag handle suffix, _, _⟩ :: rest => (none, some (handle, suffix), rest)
  | tokens => (none, none, tokens)

/-- The full form of a tag. The outer option is empty if its handle is unknown. -/
def resolveTag (g : Grammar) : Option (String × String) → Option (Option String)
  | none => some none
  | some (handle, suffix) =>
    if handle.isEmpty then some (some suffix)
    else (g.handles.lookup handle).map fun uri => some (uri ++ suffix)

/-- A node. Block collections have no place in flow collections; a sequence need
not be indented further than the mapping that it is a value of. -/
def node (g : Grammar) (block indentless : Bool) : Step := do
  let first ← g.tokens.head?
  if let .alias name := first.kind then g.skip.pop.emit (.alias name) first.start
  else
    let (anchor, tag, tokens) := readProperties g.tokens
    let token ← tokens.head?
    let tag ← g.resolveTag tag
    let g := { g with tokens }
    let properties : Properties := { anchor, tag }
    match token.kind with
    | .scalar text style =>
      let tag := if tag == some "!" then none else tag
      g.skip.pop.emit (.scalar anchor { text, style, tag }) first.start
    | .flowSequenceBegin => (g.expect .flowSequence).emit (.sequenceBegin properties) first.start
    | .flowMappingBegin => (g.expect .flowMapping).emit (.mappingBegin properties) first.start
    | kind =>
      if indentless && kind == .blockEntry then
        (g.expect .indentlessEntry).emit (.sequenceBegin properties) first.start
      else if block && kind == .blockSequenceBegin then
        (g.expect .blockSequence).emit (.sequenceBegin properties) first.start
      else if block && kind == .blockMappingBegin then
        (g.expect .blockMapping).emit (.mappingBegin properties) first.start
      else if anchor.isSome || tag.isSome then
        g.pop.emit (.scalar anchor ⟨"", .plain, tag⟩) first.start
      else none

/-- A node, or an empty scalar if what comes next is one of the tokens that show
that it is left out; afterwards something else is expected. -/
def nodeUnless (g : Grammar) (absent : List TokenKind) (afterwards : Expected)
    (block indentless : Bool) (mark : Mark) : Step := do
  let next ← g.tokens.head?
  if absent.contains next.kind then (g.expect afterwards).leftOut mark
  else (g.push afterwards).node block indentless

/-! ## Documents -/

/-- The directives in front of a document: at most one version, which has to be
1.1 or 1.2, and at most one address for each handle. -/
def readDirectives : Bool → List (String × String) → List Token →
    Option (List (String × String) × List Token)
  | versioned, handles, ⟨.versionDirective major minor, _, _⟩ :: rest =>
    if versioned || major != 1 || (minor != 1 && minor != 2) then none
    else readDirectives true handles rest
  | versioned, handles, ⟨.tagDirective handle uri, _, _⟩ :: rest =>
    if (handles.lookup handle).isSome then none
    else readDirectives versioned (handles ++ [(handle, uri)]) rest
  | _, handles, tokens => some (handles, tokens)

/-- Whether a token stands in front of a document that is marked as one. -/
def marksDocument : TokenKind → Bool
  | .versionDirective .. => true
  | .tagDirective .. => true
  | .documentBegin => true
  | _ => false

/-- The beginning of a document or the end of the stream. Only the first document
may begin without a mark. -/
def documentStep (g : Grammar) (isFirst : Bool) : Step := do
  let finished (t : Token) := !isFirst && t.kind == .documentFinish
  let g := { g with tokens := g.tokens.dropWhile finished }
  let token ← g.tokens.head?
  if token.kind == .streamEnd then (g.skip.expect .nothing).emit .streamFinish token.start
  else if isFirst && !marksDocument token.kind then
    (({ g with handles := commonHandles }.push .documentFinish).expect .blockNode).emit
      .documentBegin token.start
  else
    let (handles, tokens) ← readDirectives false [] g.tokens
    let begin ← tokens.head?
    if begin.kind == .documentBegin then
      let g := { g with tokens := tokens.tail, handles := handles ++ commonHandles }
      ((g.push .documentFinish).expect .content).emit .documentBegin token.start
    else none

/-- The content of a document behind its mark, which may be left out. -/
def contentStep (g : Grammar) : Step := do
  let token ← g.tokens.head?
  if marksDocument token.kind || token.kind == .documentFinish || token.kind == .streamEnd then
    g.pop.leftOut token.start
  else g.node true false

/-- The end of a document, marked or not. -/
def documentFinishStep (g : Grammar) : Step := do
  let token ← g.tokens.head?
  let g := if token.kind == .documentFinish then g.skip else g
  ({ g with handles := [] }.expect .document).emit .documentFinish token.start

/-! ## Collections -/

/-- An entry of a block sequence, or its end. -/
def blockEntryStep (g : Grammar) : Step := do
  let token ← g.tokens.head?
  match token.kind with
  | .blockEntry =>
    g.skip.nodeUnless [.blockEntry, .blockFinish] .blockEntry true false token.stop
  | .blockFinish => g.skip.pop.emit .sequenceFinish token.start
  | _ => none

/-- An entry of a sequence that is not indented, or its end. -/
def indentlessEntryStep (g : Grammar) : Step := do
  let token ← g.tokens.head?
  match token.kind with
  | .blockEntry =>
    g.skip.nodeUnless [.blockEntry, .key, .value, .blockFinish] .indentlessEntry true false
      token.stop
  | _ => g.pop.emit .sequenceFinish token.start

/-- A key of a block mapping, or its end. -/
def blockKeyStep (g : Grammar) : Step := do
  let token ← g.tokens.head?
  match token.kind with
  | .key => g.skip.nodeUnless [.key, .value, .blockFinish] .blockValue true true token.stop
  | .blockFinish => g.skip.pop.emit .mappingFinish token.start
  | _ => none

/-- A value of a block mapping. -/
def blockValueStep (g : Grammar) : Step := do
  let token ← g.tokens.head?
  match token.kind with
  | .value => g.skip.nodeUnless [.key, .value, .blockFinish] .blockKey true true token.stop
  | _ => (g.expect .blockKey).leftOut token.start

/-- Moves over the sign between two entries of a flow collection. Only the first
entry and the end go without it. -/
def separate (g : Grammar) (isFirst : Bool) (finish : TokenKind) : Option Grammar := do
  let kind ← g.kind?
  if kind == finish || isFirst then g
  else if kind == .flowEntry then g.skip
  else none

/-- An entry of a flow sequence, a pair that is one, or the end of the sequence. -/
def flowEntryStep (g : Grammar) (isFirst : Bool) : Step := do
  let g ← g.separate isFirst .flowSequenceFinish
  let token ← g.tokens.head?
  match token.kind with
  | .flowSequenceFinish => g.skip.pop.emit .sequenceFinish token.start
  | .key => (g.skip.expect .pairKey).emit (.mappingBegin {}) token.start
  | _ => (g.push .flowEntry).node false false

/-- The key of a pair in a flow sequence. A token that shows that the key is left
out is passed over. -/
def pairKeyStep (g : Grammar) : Step := do
  let token ← g.tokens.head?
  if [TokenKind.value, .flowEntry, .flowSequenceFinish].contains token.kind then
    (g.skip.expect .pairValue).leftOut token.stop
  else (g.push .pairValue).node false false

/-- The value of a pair in a flow sequence. -/
def pairValueStep (g : Grammar) : Step := do
  let token ← g.tokens.head?
  let g := if token.kind == .value then g.skip else g
  let next ← g.tokens.head?
  if token.kind == .value && !(next.kind == .flowEntry || next.kind == .flowSequenceFinish) then
    (g.push .pairFinish).node false false
  else (g.expect .pairFinish).leftOut next.start

/-- The end of a pair in a flow sequence. -/
def pairFinishStep (g : Grammar) : Step := do
  let token ← g.tokens.head?
  (g.expect .flowEntry).emit .mappingFinish token.start

/-- A key of a flow mapping, with or without its sign, or the end of the mapping. -/
def flowKeyStep (g : Grammar) (isFirst : Bool) : Step := do
  let g ← g.separate isFirst .flowMappingFinish
  let token ← g.tokens.head?
  match token.kind with
  | .flowMappingFinish => g.skip.pop.emit .mappingFinish token.start
  | .key =>
    let next ← g.skip.tokens.head?
    g.skip.nodeUnless [.value, .flowEntry, .flowMappingFinish] .flowValue false false next.start
  | _ => (g.push .missingFlowValue).node false false

/-- A value of a flow mapping. -/
def flowValueStep (g : Grammar) : Step := do
  let token ← g.tokens.head?
  let g := if token.kind == .value then g.skip else g
  let next ← g.tokens.head?
  if token.kind == .value && !(next.kind == .flowEntry || next.kind == .flowMappingFinish) then
    (g.push .flowKey).node false false
  else (g.expect .flowKey).leftOut next.start

/-- The value of a key of a flow mapping that has no sign. -/
def missingFlowValueStep (g : Grammar) : Step := do
  let token ← g.tokens.head?
  (g.expect .flowKey).leftOut token.start

/-! ## Steps -/

/-- The next event, if there is one. -/
def step (g : Grammar) : Step :=
  match g.expected with
  | .firstDocument => g.documentStep true
  | .document => g.documentStep false
  | .content => g.contentStep
  | .documentFinish => g.documentFinishStep
  | .blockNode => g.node true false
  | .blockSequence => g.skip.blockEntryStep
  | .blockEntry => g.blockEntryStep
  | .indentlessEntry => g.indentlessEntryStep
  | .blockMapping => g.skip.blockKeyStep
  | .blockKey => g.blockKeyStep
  | .blockValue => g.blockValueStep
  | .flowSequence => g.skip.flowEntryStep true
  | .flowEntry => g.flowEntryStep false
  | .pairKey => g.pairKeyStep
  | .pairValue => g.pairValueStep
  | .pairFinish => g.pairFinishStep
  | .flowMapping => g.skip.flowKeyStep true
  | .flowKey => g.flowKeyStep false
  | .flowValue => g.flowValueStep
  | .missingFlowValue => g.missingFlowValueStep
  | .nothing => none

/-- Events up to the end of the stream or the place where it goes wrong, in at
most so many steps. -/
def run : Nat → Grammar → List Event
  | 0, _ => []
  | n + 1, g =>
    match g.step with
    | none => []
    | some (event, g) => event :: run n g

end Grammar

/-- The most events that a token can give rise to. -/
def eventsPerToken : Nat := 4

/-- The events of a text, up to its end or the place where it goes wrong. -/
def events (text : String) : List Event :=
  let tokens := tokens text
  Grammar.run (eventsPerToken * (tokens.length + 2)) { tokens }

end AdminPort.Yaml
