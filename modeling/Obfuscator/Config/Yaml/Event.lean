import Obfuscator.Config.Yaml.Token
/-!
# Configuration YAML: events

Tokens are grouped into the events of a stream: documents, sequences and mappings opening and
closing, scalars and aliases. The grammar is driven by a state and a stack of states to return
to, one state for each place in a document where a node, an entry, a key or a value may stand.
A place where a node may stand and none does gets an empty scalar, `~` without an anchor or tag,
and the empty text with one.

Anchors are numbered from one in the order they appear, over the whole stream; a name stands for
its latest anchor in the current document, and an alias to a name without one is a fault. Tag
directives are passed over. The first fault, of the grammar or of the tokens, ends the stream;
`Event.parse` gives the events before it.
-/

namespace Obfuscator
namespace Config
namespace Yaml

/-- The events of a stream. An anchor number of zero means no anchor. -/
inductive Event where
  | streamStart
  | streamEnd
  | documentStart
  | documentEnd
  | alias (anchor : Nat)
  | scalar (text : String) (style : Style) (anchor : Nat) (tag : Option (String × String))
  | sequenceStart (anchor : Nat)
  | sequenceEnd
  | mappingStart (anchor : Nat)
  | mappingEnd
  deriving Inhabited, DecidableEq, Repr

def Event.empty : Event := .scalar "~" .plain 0 none

/-- The places of the grammar. -/
inductive State where
  | streamStart
  | implicitDocumentStart
  | documentStart
  | documentContent
  | documentEnd
  | blockNode
  | blockSequenceFirstEntry
  | blockSequenceEntry
  | indentlessSequenceEntry
  | blockMappingFirstKey
  | blockMappingKey
  | blockMappingValue
  | flowSequenceFirstEntry
  | flowSequenceEntry
  | flowSequenceEntryMappingKey
  | flowSequenceEntryMappingValue
  | flowSequenceEntryMappingEnd
  | flowMappingFirstKey
  | flowMappingKey
  | flowMappingValue
  | flowMappingEmptyValue
  | finished
  deriving Inhabited, DecidableEq, Repr

/-- The parser's state: the tokens left and the fault after them, the place in the grammar and
the places to return to, the anchors of the current document and the next anchor number. -/
structure Parser where
  tokens : List Token
  fault : Option Fault
  state : State := .streamStart
  states : List State := []
  anchors : List (String × Nat) := []
  nextAnchor : Nat := 1
  deriving Inhabited

abbrev Step := Except Fault (Event × Parser)

namespace Parser

def peek (p : Parser) : Except Fault Token :=
  match p.tokens, p.fault with
  | t :: _, _ => .ok t
  | [], some f => .error f
  | [], none => .error ⟨{}, "unexpected eof"⟩

def skip (p : Parser) : Parser := { p with tokens := p.tokens.tail }

def goto (p : Parser) (s : State) : Parser := { p with state := s }

def pushState (p : Parser) (s : State) : Parser := { p with states := s :: p.states }

def popState (p : Parser) : Parser :=
  match p.states with
  | s :: ss => { p with state := s, states := ss }
  | [] => p

def register (p : Parser) (name : String) : Parser × Nat :=
  ({ p with anchors := (name, p.nextAnchor) :: p.anchors, nextAnchor := p.nextAnchor + 1 },
    p.nextAnchor)

def node (p : Parser) (block indentless : Bool) : Step := do
  let t ← p.peek
  match t.kind with
  | .alias name =>
    let p := p.skip.popState
    match p.anchors.find? (·.1 == name) with
    | some (_, id) => pure (.alias id, p)
    | none => .error ⟨t.mark, "while parsing node, found unknown anchor"⟩
  | _ =>
    let (p, anchor, tag) ← match t.kind with
      | .anchor name =>
        let (p, id) := p.skip.register name
        match (← p.peek).kind with
        | .tag h s => pure (p.skip, id, some (h, s))
        | _ => pure (p, id, none)
      | .tag h s =>
        let p := p.skip
        match (← p.peek).kind with
        | .anchor name =>
          let (p, id) := p.skip.register name
          pure (p, id, some (h, s))
        | _ => pure (p, 0, some (h, s))
      | _ => pure (p, 0, none)
    let t ← p.peek
    match t.kind with
    | .blockEntry =>
      if indentless then pure (.sequenceStart anchor, p.goto .indentlessSequenceEntry)
      else if tag.isSome || anchor > 0 then pure (.scalar "" .plain anchor tag, p.popState)
      else .error ⟨t.mark, "while parsing a node, did not find expected node content"⟩
    | .scalar style v => pure (.scalar v style anchor tag, p.skip.popState)
    | .flowSequenceStart => pure (.sequenceStart anchor, p.goto .flowSequenceFirstEntry)
    | .flowMappingStart => pure (.mappingStart anchor, p.goto .flowMappingFirstKey)
    | .blockSequenceStart =>
      if block then pure (.sequenceStart anchor, p.goto .blockSequenceFirstEntry)
      else if tag.isSome || anchor > 0 then pure (.scalar "" .plain anchor tag, p.popState)
      else .error ⟨t.mark, "while parsing a node, did not find expected node content"⟩
    | .blockMappingStart =>
      if block then pure (.mappingStart anchor, p.goto .blockMappingFirstKey)
      else if tag.isSome || anchor > 0 then pure (.scalar "" .plain anchor tag, p.popState)
      else .error ⟨t.mark, "while parsing a node, did not find expected node content"⟩
    | _ =>
      if tag.isSome || anchor > 0 then pure (.scalar "" .plain anchor tag, p.popState)
      else .error ⟨t.mark, "while parsing a node, did not find expected node content"⟩

def explicitDocumentStart (p : Parser) : Step := do
  let p := { p with tokens := p.tokens.dropWhile fun t =>
    match t.kind with
    | .versionDirective _ _ | .tagDirective _ _ => true
    | _ => false }
  let t ← p.peek
  match t.kind with
  | .documentStart => pure (.documentStart, ((p.pushState .documentEnd).goto .documentContent).skip)
  | _ => .error ⟨t.mark, "did not find expected <document start>"⟩

/-- The start of a document, or the end of the stream. An implicit document may begin without
DOCUMENT-START only first in the stream; later ones need it, after any DOCUMENT-END tokens. -/
def documentStart (p : Parser) (implicit : Bool) : Step := do
  let p := if implicit then p
    else { p with tokens := p.tokens.dropWhile fun t => t.kind == .documentEnd }
  let t ← p.peek
  match t.kind with
  | .streamEnd => pure (.streamEnd, (p.goto .finished).skip)
  | .versionDirective _ _ | .tagDirective _ _ | .documentStart => p.explicitDocumentStart
  | _ =>
    if implicit then pure (.documentStart, (p.pushState .documentEnd).goto .blockNode)
    else p.explicitDocumentStart

def documentContent (p : Parser) : Step := do
  let t ← p.peek
  match t.kind with
  | .versionDirective _ _ | .tagDirective _ _ | .documentStart | .documentEnd | .streamEnd =>
    pure (Event.empty, p.popState)
  | _ => p.node true false

def documentEnd (p : Parser) : Step := do
  let t ← p.peek
  let p := if t.kind == .documentEnd then p.skip else p
  pure (.documentEnd, p.goto .documentStart)

def blockSequenceEntry (p : Parser) (first : Bool) : Step := do
  let p := if first then p.skip else p
  let t ← p.peek
  match t.kind with
  | .blockEnd => pure (.sequenceEnd, p.popState.skip)
  | .blockEntry =>
    let p := p.skip
    match (← p.peek).kind with
    | .blockEntry | .blockEnd => pure (Event.empty, p.goto .blockSequenceEntry)
    | _ => (p.pushState .blockSequenceEntry).node true false
  | _ => .error ⟨t.mark, "while parsing a block collection, did not find expected '-' indicator"⟩

def indentlessSequenceEntry (p : Parser) : Step := do
  let t ← p.peek
  match t.kind with
  | .blockEntry =>
    let p := p.skip
    match (← p.peek).kind with
    | .blockEntry | .key | .value | .blockEnd => pure (Event.empty, p.goto .indentlessSequenceEntry)
    | _ => (p.pushState .indentlessSequenceEntry).node true false
  | _ => pure (.sequenceEnd, p.popState)

def blockMappingKey (p : Parser) (first : Bool) : Step := do
  let p := if first then p.skip else p
  let t ← p.peek
  match t.kind with
  | .key =>
    let p := p.skip
    match (← p.peek).kind with
    | .key | .value | .blockEnd => pure (Event.empty, p.goto .blockMappingValue)
    | _ => (p.pushState .blockMappingValue).node true true
  | .value => pure (Event.empty, p.goto .blockMappingValue)
  | .blockEnd => pure (.mappingEnd, p.popState.skip)
  | _ => .error ⟨t.mark, "while parsing a block mapping, did not find expected key"⟩

def blockMappingValue (p : Parser) : Step := do
  let t ← p.peek
  match t.kind with
  | .value =>
    let p := p.skip
    match (← p.peek).kind with
    | .key | .value | .blockEnd => pure (Event.empty, p.goto .blockMappingKey)
    | _ => (p.pushState .blockMappingKey).node true true
  | _ => pure (Event.empty, p.goto .blockMappingKey)

def flowSequenceEntry (p : Parser) (first : Bool) : Step := do
  let p := if first then p.skip else p
  let t ← p.peek
  let p ← match t.kind with
    | .flowSequenceEnd => pure p
    | .flowEntry => pure (if first then p else p.skip)
    | _ =>
      if first then pure p
      else .error ⟨t.mark, "while parsing a flow sequence, expected ',' or ']'"⟩
  let t ← p.peek
  match t.kind with
  | .flowSequenceEnd => pure (.sequenceEnd, p.popState.skip)
  | .key => pure (.mappingStart 0, (p.goto .flowSequenceEntryMappingKey).skip)
  | _ => (p.pushState .flowSequenceEntry).node false false

def flowSequenceEntryMappingKey (p : Parser) : Step := do
  let t ← p.peek
  match t.kind with
  | .value | .flowEntry | .flowSequenceEnd =>
    pure (Event.empty, p.skip.goto .flowSequenceEntryMappingValue)
  | _ => (p.pushState .flowSequenceEntryMappingValue).node false false

def flowSequenceEntryMappingValue (p : Parser) : Step := do
  let t ← p.peek
  match t.kind with
  | .value =>
    let p := p.skip
    match (← p.peek).kind with
    | .flowEntry | .flowSequenceEnd => pure (Event.empty, p.goto .flowSequenceEntryMappingEnd)
    | _ => (p.pushState .flowSequenceEntryMappingEnd).node false false
  | _ => pure (Event.empty, p.goto .flowSequenceEntryMappingEnd)

def flowMappingKey (p : Parser) (first : Bool) : Step := do
  let p := if first then p.skip else p
  let t ← p.peek
  if t.kind == .flowMappingEnd then pure (.mappingEnd, p.popState.skip)
  else
    let p ←
      if first then pure p
      else if t.kind == .flowEntry then pure p.skip
      else .error ⟨t.mark, "while parsing a flow mapping, did not find expected ',' or '\x7d'"⟩
    let t ← p.peek
    match t.kind with
    | .key =>
      let p := p.skip
      match (← p.peek).kind with
      | .value | .flowEntry | .flowMappingEnd => pure (Event.empty, p.goto .flowMappingValue)
      | _ => (p.pushState .flowMappingValue).node false false
    | .value => pure (Event.empty, p.goto .flowMappingValue)
    | .flowMappingEnd => pure (.mappingEnd, p.popState.skip)
    | _ => (p.pushState .flowMappingEmptyValue).node false false

def flowMappingValue (p : Parser) (empty : Bool) : Step := do
  if empty then
    let _ ← p.peek
    pure (Event.empty, p.goto .flowMappingKey)
  else
    let t ← p.peek
    match t.kind with
    | .value =>
      let p := p.skip
      match (← p.peek).kind with
      | .flowEntry | .flowMappingEnd => pure (Event.empty, p.goto .flowMappingKey)
      | _ => (p.pushState .flowMappingKey).node false false
    | _ => pure (Event.empty, p.goto .flowMappingKey)

/-- The next event, by the place in the grammar. -/
def step (p : Parser) : Step :=
  match p.state with
  | .streamStart => do
    let t ← p.peek
    match t.kind with
    | .streamStart => pure (.streamStart, (p.goto .implicitDocumentStart).skip)
    | _ => .error ⟨t.mark, "did not find expected <stream-start>"⟩
  | .implicitDocumentStart => p.documentStart true
  | .documentStart => p.documentStart false
  | .documentContent => p.documentContent
  | .documentEnd => p.documentEnd
  | .blockNode => p.node true false
  | .blockSequenceFirstEntry => p.blockSequenceEntry true
  | .blockSequenceEntry => p.blockSequenceEntry false
  | .indentlessSequenceEntry => p.indentlessSequenceEntry
  | .blockMappingFirstKey => p.blockMappingKey true
  | .blockMappingKey => p.blockMappingKey false
  | .blockMappingValue => p.blockMappingValue
  | .flowSequenceFirstEntry => p.flowSequenceEntry true
  | .flowSequenceEntry => p.flowSequenceEntry false
  | .flowSequenceEntryMappingKey => p.flowSequenceEntryMappingKey
  | .flowSequenceEntryMappingValue => p.flowSequenceEntryMappingValue
  | .flowSequenceEntryMappingEnd => pure (.mappingEnd, p.goto .flowSequenceEntry)
  | .flowMappingFirstKey => p.flowMappingKey true
  | .flowMappingKey => p.flowMappingKey false
  | .flowMappingValue => p.flowMappingValue false
  | .flowMappingEmptyValue => p.flowMappingValue true
  | .finished => pure (.streamEnd, p)

def eventsFuel : Nat → Parser → List Event → List Event × Option Fault
  | 0, _, acc => (acc.reverse, none)
  | n + 1, p, acc =>
    match p.step with
    | .error f => (acc.reverse, some f)
    | .ok (e, p) =>
      if e == .streamEnd then ((e :: acc).reverse, none)
      else
        let p := if e == .documentStart then { p with anchors := [] } else p
        eventsFuel n p (e :: acc)

end Parser

/-- The events of a text, up to STREAM-END or the first fault, which is given after them. -/
def Event.parse (text : List Char) : List Event × Option Fault :=
  let (tokens, fault) := Token.scan text
  Parser.eventsFuel (4 * tokens.length + 8) { tokens, fault } []

end Yaml
end Config
end Obfuscator
