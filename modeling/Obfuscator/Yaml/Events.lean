import Obfuscator.Yaml.Scanner
/-!
# Reading YAML: events

Tokens are read into a stream of events: the starts and ends of the stream, of documents, of
sequences and of mappings, scalars and aliases, each with the place where it starts. The reading
is a machine with a stack of states, one step per event, as the reference reader has it. Where a
node is left out, such as the value after a `:` with nothing behind it, an empty plain scalar
stands in its place.

A step that meets a token it cannot take is a fault; so is reaching the tokens that the scanner
did not hand on, which gives the scanner's own fault.
-/

namespace Obfuscator
namespace Yaml

/-- An event of the stream. Anchors and tags are kept as written; a tag is resolved against
the document's tag directives. -/
inductive Event where
  | streamStart
  | streamEnd
  | documentStart (implicit : Bool)
  | documentEnd (implicit : Bool)
  | alias (name : String)
  | scalar (anchor : Option String) (tag : Option String) (text : String) (style : ScalarStyle)
  | sequenceStart (anchor : Option String) (tag : Option String) (flow : Bool)
  | sequenceEnd
  | mappingStart (anchor : Option String) (tag : Option String) (flow : Bool)
  | mappingEnd
  deriving Inhabited, Repr

/-- The states of the reading machine. -/
inductive ParseState where
  | streamStart
  | implicitDocumentStart
  | documentStart
  | documentContent
  | documentEnd
  | blockNode
  | blockNodeOrIndentlessSequence
  | flowNode
  | blockSequenceFirstEntry
  | blockSequenceEntry
  | indentlessSequenceEntry
  | blockMappingFirstKey
  | blockMappingKey
  | blockMappingValue
  | flowSequenceFirstEntry
  | flowSequenceEntry
  | flowSequenceEntryMappingKey
  | flowSequenceEntryMappingValue
  | flowSequenceEntryMappingEnd
  | flowMappingFirstKey
  | flowMappingKey
  | flowMappingValue
  | flowMappingEmptyValue
  | finished
  deriving Inhabited, DecidableEq, Repr

def defaultTagDirectives : List (String × String) :=
  [("!", "!"), ("!!", "tag:yaml.org,2002:")]

/-- The reading machine: the tokens, how many were handed on, the scanner's fault, the place
in the tokens, the state and its stack, the stack of collection starts for faults, and the tag
directives in force. -/
structure Parser where
  tokens : Tokens
  pos : Nat := 0
  state : ParseState := .streamStart
  states : List ParseState := []
  marks : List Mark := []
  directives : List (String × String) := defaultTagDirectives

abbrev Step := Except Problem (Event × Mark × Parser)

def parseFault (ctx : Option (String × Mark)) (problem : String) (m : Mark) : Problem :=
  { stage := .parser, problem, mark := m, context := ctx }

namespace Parser

def peek (p : Parser) : Except Problem Token :=
  match p.tokens.tokens[p.pos]? with
  | some t =>
    if p.pos < p.tokens.delivered then .ok t
    else .error (p.tokens.failure.getD (parseFault none "unexpected end of tokens" t.start))
  | none => .error (p.tokens.failure.getD (parseFault none "unexpected end of tokens" {}))

def next (p : Parser) : Parser := { p with pos := p.pos + 1 }

def pop (p : Parser) : Parser :=
  match p.states with
  | s :: ss => { p with state := s, states := ss }
  | [] => { p with state := .finished }

def call (p : Parser) (ret : ParseState) : Parser := { p with states := ret :: p.states }

def popMark (p : Parser) : Mark × Parser :=
  match p.marks with
  | m :: ms => (m, { p with marks := ms })
  | [] => ({}, p)

def empty (p : Parser) (m : Mark) : Step := .ok (.scalar none none "" .plain, m, p)

def emptyThen (p : Parser) (s : ParseState) (m : Mark) : Step := empty { p with state := s } m

def isKind (t : Token) (k : TokenKind) : Bool :=
  match t.kind, k with
  | .streamEnd, .streamEnd | .documentStart, .documentStart | .documentEnd, .documentEnd
  | .blockSequenceStart, .blockSequenceStart | .blockMappingStart, .blockMappingStart
  | .blockEnd, .blockEnd | .flowSequenceStart, .flowSequenceStart
  | .flowSequenceEnd, .flowSequenceEnd | .flowMappingStart, .flowMappingStart
  | .flowMappingEnd, .flowMappingEnd | .blockEntry, .blockEntry | .flowEntry, .flowEntry
  | .key, .key | .value, .value => true
  | _, _ => false

def isDirective (t : Token) : Bool :=
  match t.kind with
  | .versionDirective _ _ | .tagDirective _ _ => true
  | _ => false

/-! ## Nodes -/

/-- An anchor and a tag read before a node, in either order, with where they start and where
the tag stands. -/
structure Properties where
  anchor : Option String := none
  tag : Option (String × String) := none
  start : Mark
  tagMark : Mark

def properties (p : Parser) (t : Token) : Except Problem (Properties × Parser × Token) := do
  match t.kind with
  | .anchor name =>
    let p := p.next
    let t2 ← p.peek
    match t2.kind with
    | .tag h s => do
      let p := p.next
      let t3 ← p.peek
      pure ({ anchor := some name, tag := some (h, s), start := t.start, tagMark := t2.start }, p, t3)
    | _ => pure ({ anchor := some name, start := t.start, tagMark := t.start }, p, t2)
  | .tag h s =>
    let p := p.next
    let t2 ← p.peek
    match t2.kind with
    | .anchor name => do
      let p := p.next
      let t3 ← p.peek
      pure ({ anchor := some name, tag := some (h, s), start := t.start, tagMark := t.start }, p, t3)
    | _ => pure ({ tag := some (h, s), start := t.start, tagMark := t.start }, p, t2)
  | _ => pure ({ start := t.start, tagMark := t.start }, p, t)

def resolveTag (p : Parser) (props : Properties) : Except Problem (Option String) :=
  match props.tag with
  | none => .ok none
  | some (handle, suffix) =>
    if handle.isEmpty then .ok (some suffix)
    else
      match p.directives.find? fun d => d.1 == handle with
      | some (_, pfx) => .ok (some (pfx ++ suffix))
      | none => .error (parseFault (some ("while parsing a node", props.start))
          "found undefined tag handle" props.tagMark)

/-- Reads a node: an alias, a scalar, or the start of a collection. In block context a block
collection may start here, and after a mapping key a sequence may go without indentation. -/
def node (p : Parser) (block indentless : Bool) : Step := do
  let t ← p.peek
  match t.kind with
  | .alias name => pure (.alias name, t.start, p.pop.next)
  | _ =>
    let (props, p, t) ← p.properties t
    let tag ← p.resolveTag props
    match t.kind with
    | .scalar text style => pure (.scalar props.anchor tag text style, props.start, p.pop.next)
    | .blockEntry =>
      if indentless then
        pure (.sequenceStart props.anchor tag false, props.start,
          { p with state := .indentlessSequenceEntry })
      else fallback p props tag t
    | .flowSequenceStart =>
      pure (.sequenceStart props.anchor tag true, props.start, { p with state := .flowSequenceFirstEntry })
    | .flowMappingStart =>
      pure (.mappingStart props.anchor tag true, props.start, { p with state := .flowMappingFirstKey })
    | .blockSequenceStart =>
      if block then
        pure (.sequenceStart props.anchor tag false, props.start,
          { p with state := .blockSequenceFirstEntry })
      else fallback p props tag t
    | .blockMappingStart =>
      if block then
        pure (.mappingStart props.anchor tag false, props.start, { p with state := .blockMappingFirstKey })
      else fallback p props tag t
    | _ => fallback p props tag t
where
  fallback (p : Parser) (props : Properties) (tag : Option String) (t : Token) : Step :=
    if props.anchor.isSome || props.tag.isSome then
      .ok (.scalar props.anchor tag "" .plain, props.start, p.pop)
    else
      .error (parseFault
        (some (if block then "while parsing a block node" else "while parsing a flow node", props.start))
        "did not find expected node content" t.start)

/-! ## Documents -/

def directivesFuel : Nat → Parser → Bool → List (String × String) → Except Problem Parser
  | 0, p, _, tags => .ok { p with directives := tags ++ defaultTagDirectives }
  | n + 1, p, seenVersion, tags => do
    let t ← p.peek
    match t.kind with
    | .versionDirective major minor =>
      if seenVersion then .error (parseFault none "found duplicate %YAML directive" t.start)
      else if major != 1 || (minor != 1 && minor != 2) then
        .error (parseFault none "found incompatible YAML document" t.start)
      else directivesFuel n p.next true tags
    | .tagDirective handle pfx =>
      if tags.any (fun d => d.1 == handle) then
        .error (parseFault none "found duplicate %TAG directive" t.start)
      else directivesFuel n p.next seenVersion (tags ++ [(handle, pfx)])
    | _ =>
      let extra := defaultTagDirectives.filter fun d => !tags.any fun e => e.1 == d.1
      .ok { p with directives := tags ++ extra }

def readDirectives (p : Parser) : Except Problem Parser :=
  directivesFuel (p.tokens.tokens.size + 1) p false []

def skipDocumentEnds : Nat → Parser → Except Problem Parser
  | 0, p => .ok p
  | n + 1, p => do
    let t ← p.peek
    if isKind t .documentEnd then skipDocumentEnds n p.next else pure p

/-- Starts a document, or ends the stream. A document without `---` is implicit and may only
come first or after a document end marker. -/
def documentStart (p : Parser) (implicit : Bool) : Step := do
  let p ← if implicit then pure p else skipDocumentEnds (p.tokens.tokens.size + 1) p
  let t ← p.peek
  if implicit && !isDirective t && !isKind t .documentStart && !isKind t .streamEnd then
    let p ← p.readDirectives
    pure (.documentStart true, t.start, { p.call .documentEnd with state := .blockNode })
  else if !isKind t .streamEnd then
    let start := t.start
    let p ← p.readDirectives
    let t ← p.peek
    if !isKind t .documentStart then
      .error (parseFault none "did not find expected <document start>" t.start)
    else
      pure (.documentStart false, start, { (p.call .documentEnd).next with state := .documentContent })
  else pure (.streamEnd, t.start, { p.next with state := .finished })

def documentContent (p : Parser) : Step := do
  let t ← p.peek
  if isDirective t || isKind t .documentStart || isKind t .documentEnd || isKind t .streamEnd then
    p.pop.empty t.start
  else p.node true false

def documentEnd (p : Parser) : Step := do
  let t ← p.peek
  if isKind t .documentEnd then
    pure (.documentEnd false, t.start, { p.next with state := .documentStart })
  else pure (.documentEnd true, t.start, { p with state := .documentStart })

/-! ## Block collections -/

def blockSequenceEntry (p : Parser) (first : Bool) : Step := do
  let p ← if first then do let t ← p.peek; pure { p.next with marks := t.start :: p.marks } else pure p
  let t ← p.peek
  if isKind t .blockEntry then
    let p := p.next
    let t2 ← p.peek
    if !isKind t2 .blockEntry && !isKind t2 .blockEnd then
      (p.call .blockSequenceEntry).node true false
    else p.emptyThen .blockSequenceEntry t.stop
  else if isKind t .blockEnd then
    let (_, p) := p.popMark
    pure (.sequenceEnd, t.start, p.pop.next)
  else
    let (m, _) := p.popMark
    .error (parseFault (some ("while parsing a block collection", m))
      "did not find expected '-' indicator" t.start)

def indentlessSequenceEntry (p : Parser) : Step := do
  let t ← p.peek
  if isKind t .blockEntry then
    let p := p.next
    let t2 ← p.peek
    if !isKind t2 .blockEntry && !isKind t2 .key && !isKind t2 .value && !isKind t2 .blockEnd then
      (p.call .indentlessSequenceEntry).node true false
    else p.emptyThen .indentlessSequenceEntry t.stop
  else pure (.sequenceEnd, t.start, p.pop)

def blockMappingKey (p : Parser) (first : Bool) : Step := do
  let p ← if first then do let t ← p.peek; pure { p.next with marks := t.start :: p.marks } else pure p
  let t ← p.peek
  if isKind t .key then
    let p := p.next
    let t2 ← p.peek
    if !isKind t2 .key && !isKind t2 .value && !isKind t2 .blockEnd then
      (p.call .blockMappingValue).node true true
    else p.emptyThen .blockMappingValue t.stop
  else if isKind t .blockEnd then
    let (_, p) := p.popMark
    pure (.mappingEnd, t.start, p.pop.next)
  else
    let (m, _) := p.popMark
    .error (parseFault (some ("while parsing a block mapping", m)) "did not find expected key" t.start)

def blockMappingValue (p : Parser) : Step := do
  let t ← p.peek
  if isKind t .value then
    let p := p.next
    let t2 ← p.peek
    if !isKind t2 .key && !isKind t2 .value && !isKind t2 .blockEnd then
      (p.call .blockMappingKey).node true true
    else p.emptyThen .blockMappingKey t.stop
  else p.emptyThen .blockMappingKey t.start

/-! ## Flow collections -/

def flowSequenceEntry (p : Parser) (first : Bool) : Step := do
  let p ← if first then do let t ← p.peek; pure { p.next with marks := t.start :: p.marks } else pure p
  let t ← p.peek
  if isKind t .flowSequenceEnd then
    let (_, p) := p.popMark
    pure (.sequenceEnd, t.start, p.pop.next)
  else
    let (p, t) ←
      if first then pure (p, t)
      else if isKind t .flowEntry then do
        let p := p.next
        let t ← p.peek
        pure (p, t)
      else
        let (m, _) := p.popMark
        .error (parseFault (some ("while parsing a flow sequence", m))
          "did not find expected ',' or ']'" t.start)
    if isKind t .key then
      pure (.mappingStart none none true, t.start, { p.next with state := .flowSequenceEntryMappingKey })
    else if !isKind t .flowSequenceEnd then
      (p.call .flowSequenceEntry).node false false
    else
      let (_, p) := p.popMark
      pure (.sequenceEnd, t.start, p.pop.next)

def flowSequenceEntryMappingKey (p : Parser) : Step := do
  let t ← p.peek
  if !isKind t .value && !isKind t .flowEntry && !isKind t .flowSequenceEnd then
    (p.call .flowSequenceEntryMappingValue).node false false
  else p.emptyThen .flowSequenceEntryMappingValue t.stop

def flowSequenceEntryMappingValue (p : Parser) : Step := do
  let t ← p.peek
  if isKind t .value then
    let p := p.next
    let t2 ← p.peek
    if !isKind t2 .flowEntry && !isKind t2 .flowSequenceEnd then
      (p.call .flowSequenceEntryMappingEnd).node false false
    else p.emptyThen .flowSequenceEntryMappingEnd t2.start
  else p.emptyThen .flowSequenceEntryMappingEnd t.start

def flowSequenceEntryMappingEnd (p : Parser) : Step := do
  let t ← p.peek
  pure (.mappingEnd, t.start, { p with state := .flowSequenceEntry })

def flowMappingKey (p : Parser) (first : Bool) : Step := do
  let p ← if first then do let t ← p.peek; pure { p.next with marks := t.start :: p.marks } else pure p
  let t ← p.peek
  if isKind t .flowMappingEnd then
    let (_, p) := p.popMark
    pure (.mappingEnd, t.start, p.pop.next)
  else
    let (p, t) ←
      if first then pure (p, t)
      else if isKind t .flowEntry then do
        let p := p.next
        let t ← p.peek
        pure (p, t)
      else
        let (m, _) := p.popMark
        .error (parseFault (some ("while parsing a flow mapping", m))
          "did not find expected ',' or '\x7d'" t.start)
    if isKind t .key then
      let p := p.next
      let t2 ← p.peek
      if !isKind t2 .value && !isKind t2 .flowEntry && !isKind t2 .flowMappingEnd then
        (p.call .flowMappingValue).node false false
      else p.emptyThen .flowMappingValue t2.start
    else if !isKind t .flowMappingEnd then
      (p.call .flowMappingEmptyValue).node false false
    else
      let (_, p) := p.popMark
      pure (.mappingEnd, t.start, p.pop.next)

def flowMappingValue (p : Parser) (empty : Bool) : Step := do
  let t ← p.peek
  if empty then p.emptyThen .flowMappingKey t.start
  else if isKind t .value then
    let p := p.next
    let t2 ← p.peek
    if !isKind t2 .flowEntry && !isKind t2 .flowMappingEnd then
      (p.call .flowMappingKey).node false false
    else p.emptyThen .flowMappingKey t2.start
  else p.emptyThen .flowMappingKey t.start

/-! ## The machine -/

/-- One step of reading, from the current state. -/
def step (p : Parser) : Step :=
  match p.state with
  | .streamStart => do
    let t ← p.peek
    match t.kind with
    | .streamStart => pure (.streamStart, t.start, { p.next with state := .implicitDocumentStart })
    | _ => .error (parseFault none "did not find expected <stream-start>" t.start)
  | .implicitDocumentStart => p.documentStart true
  | .documentStart => p.documentStart false
  | .documentContent => p.documentContent
  | .documentEnd => p.documentEnd
  | .blockNode => p.node true false
  | .blockNodeOrIndentlessSequence => p.node true true
  | .flowNode => p.node false false
  | .blockSequenceFirstEntry => p.blockSequenceEntry true
  | .blockSequenceEntry => p.blockSequenceEntry false
  | .indentlessSequenceEntry => p.indentlessSequenceEntry
  | .blockMappingFirstKey => p.blockMappingKey true
  | .blockMappingKey => p.blockMappingKey false
  | .blockMappingValue => p.blockMappingValue
  | .flowSequenceFirstEntry => p.flowSequenceEntry true
  | .flowSequenceEntry => p.flowSequenceEntry false
  | .flowSequenceEntryMappingKey => p.flowSequenceEntryMappingKey
  | .flowSequenceEntryMappingValue => p.flowSequenceEntryMappingValue
  | .flowSequenceEntryMappingEnd => p.flowSequenceEntryMappingEnd
  | .flowMappingFirstKey => p.flowMappingKey true
  | .flowMappingKey => p.flowMappingKey false
  | .flowMappingValue => p.flowMappingValue false
  | .flowMappingEmptyValue => p.flowMappingValue true
  | .finished => .error (parseFault none "no more events" {})

end Parser

/-- The events of a stream, each with its place, and the fault that stopped the reading, if
one did. -/
structure EventStream where
  events : List (Event × Mark)
  failure : Option Problem

def readEvents : Nat → Parser → List (Event × Mark) → EventStream
  | 0, _, acc => { events := acc.reverse, failure := none }
  | n + 1, p, acc =>
    if p.state == .finished then { events := acc.reverse, failure := none }
    else
      match p.step with
      | .ok (e, m, p) => readEvents n p ((e, m) :: acc)
      | .error f => { events := acc.reverse, failure := some f }

/-- The events of a YAML text. -/
def events (text : List Char) : EventStream :=
  let tokens := tokenize text
  readEvents (4 * tokens.tokens.size + 8) { tokens } []

end Yaml
end Obfuscator
