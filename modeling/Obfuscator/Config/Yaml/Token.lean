/-!
# Configuration YAML: tokens

Configuration files in YAML are read by a reader of their own, older and looser than the one
for settings files. It cuts the text into tokens as follows.

Only carriage return and line feed break lines, and a carriage return alone moves along the line
rather than to the next one; every other character, NEL and the Unicode separators included, is
text. A NUL character, or the end of the text, ends the stream. Between tokens, spaces, comments
and line breaks are passed, and tabs as well inside a flow collection or where no simple key may
start; elsewhere a tab begins a plain scalar.

A scalar that may turn out to be a mapping key is remembered as a *simple key*; when a `:` follows
on the same line and within 1024 characters, a KEY token is put in front of it (and, when it
opens a mapping, a BLOCK-MAPPING-START placed at the `:`). Only inside a flow collection, at the
current indentation, must a simple key be a key. Indentation deeper than the current one opens a
block collection, and shallower indentation closes it with BLOCK-END tokens.

Places count characters, lines from one and columns from zero. The first fault ends the reading;
`Token.scan` gives the tokens handed on before it. A token is handed on once nothing after it can
still put a KEY token in front of it, so a fault found while looking ahead for a `:` hides the
tokens waiting for it.
-/

namespace Obfuscator
namespace Config
namespace Yaml

/-- A place in the text: characters read, the line counted from one and the column from zero. -/
structure Mark where
  index : Nat := 0
  line : Nat := 1
  column : Nat := 0
  deriving Inhabited, DecidableEq, Repr

/-- A fault of reading: what went wrong and where. -/
structure Fault where
  mark : Mark
  info : String
  deriving Inhabited, DecidableEq, Repr

def Fault.text (f : Fault) : String :=
  s!"{f.info} at line {f.mark.line} column {f.mark.column + 1}"

/-- How a scalar was written. -/
inductive Style where
  | plain
  | singleQuoted
  | doubleQuoted
  | literal
  | folded
  deriving Inhabited, DecidableEq, Repr

/-- The kinds of token. -/
inductive TokenKind where
  | streamStart
  | streamEnd
  | versionDirective (major minor : Nat)
  | tagDirective (handle pfx : String)
  | documentStart
  | documentEnd
  | blockSequenceStart
  | blockMappingStart
  | blockEnd
  | flowSequenceStart
  | flowSequenceEnd
  | flowMappingStart
  | flowMappingEnd
  | blockEntry
  | flowEntry
  | key
  | value
  | alias (name : String)
  | anchor (name : String)
  | tag (handle suffix : String)
  | scalar (style : Style) (text : String)
  deriving Inhabited, DecidableEq, Repr

/-- A token and the place where it stands. -/
structure Token where
  mark : Mark
  kind : TokenKind
  deriving Inhabited, DecidableEq, Repr

/-! ## Characters -/

def isBreak (c : Char) : Bool := c == '\n' || c == '\r'

def isBlank (c : Char) : Bool := c == ' ' || c == '\t'

def isBreakOrEnd (c : Char) : Bool := isBreak c || c == '\x00'

def isBlankOrEnd (c : Char) : Bool := isBlank c || isBreakOrEnd c

def isNameChar (c : Char) : Bool := c.isAlphanum || c == '_' || c == '-'

def isFlowChar (c : Char) : Bool := c == ',' || c == '[' || c == ']' || c == '{' || c == '}'

def isUriChar (c : Char) : Bool := isNameChar c || ";/?:@&=+$,.!~*\x27()[]%".contains c

def hexValue? (c : Char) : Option Nat :=
  if c.isDigit then some (c.toNat - '0'.toNat)
  else if 'a' ≤ c && c ≤ 'f' then some (c.toNat - 'a'.toNat + 10)
  else if 'A' ≤ c && c ≤ 'F' then some (c.toNat - 'A'.toNat + 10)
  else none

def isScalarCode (n : Nat) : Bool := n ≤ 0x10FFFF && !(0xD800 ≤ n && n ≤ 0xDFFF)

def Mark.advance (m : Mark) (c : Char) : Mark :=
  if c == '\n' then { index := m.index + 1, line := m.line + 1, column := 0 }
  else { m with index := m.index + 1, column := m.column + 1 }

/-! ## The scanner -/

/-- A scalar that may turn out to be a mapping key: whether it still may, whether it must, the
number its token got and where it stands. -/
structure SimpleKey where
  possible : Bool := false
  required : Bool := false
  number : Nat := 0
  mark : Mark := ⟨0, 0, 0⟩
  deriving Inhabited

/-- The scanner's state: the text left and the place reached, the tokens made and not yet handed
on, how many have been, one simple-key slot for each flow level (innermost first), the
indentation and the columns it had before, and the depth of flow collections. -/
structure Scanner where
  rest : List Char
  mark : Mark := {}
  queue : List Token := []
  handed : Nat := 0
  started : Bool := false
  keyAllowed : Bool := true
  keys : List SimpleKey := []
  indent : Int := -1
  indents : List Int := []
  flowLevel : Nat := 0
  adjacentValueAt : Nat := 0
  deriving Inhabited

abbrev Scan := Except Fault

namespace Scanner

def peekAt (s : Scanner) (k : Nat) : Char := s.rest.getD k '\x00'

def ch (s : Scanner) : Char := s.peekAt 0

def inFlow (s : Scanner) : Bool := s.flowLevel != 0

def skip (s : Scanner) : Scanner := { s with rest := s.rest.tail, mark := s.mark.advance s.ch }

def skipN (s : Scanner) : Nat → Scanner
  | 0 => s
  | n + 1 => s.skip.skipN n

def skipLine (s : Scanner) : Scanner :=
  if s.ch == '\r' && s.peekAt 1 == '\n' then s.skip.skip
  else if isBreak s.ch then s.skip else s

def skipWhileFuel (p : Char → Bool) : Nat → Scanner → Scanner
  | 0, s => s
  | n + 1, s => if p s.ch && !s.rest.isEmpty then skipWhileFuel p n s.skip else s

def skipWhile (p : Char → Bool) (s : Scanner) : Scanner := skipWhileFuel p s.rest.length s

def readWhileFuel (p : Char → Bool) : Nat → Scanner → List Char → Scanner × List Char
  | 0, s, acc => (s, acc.reverse)
  | n + 1, s, acc =>
    if p s.ch && !s.rest.isEmpty then readWhileFuel p n s.skip (s.ch :: acc) else (s, acc.reverse)

def readWhile (p : Char → Bool) (s : Scanner) : Scanner × List Char :=
  readWhileFuel p s.rest.length s []

def atDocumentMarker (s : Scanner) : Bool :=
  s.mark.column == 0 &&
    ((s.ch == '-' && s.peekAt 1 == '-' && s.peekAt 2 == '-') ||
      (s.ch == '.' && s.peekAt 1 == '.' && s.peekAt 2 == '.')) &&
    isBlankOrEnd (s.peekAt 3)

def push (s : Scanner) (kind : TokenKind) (m : Mark) : Scanner :=
  { s with queue := s.queue ++ [⟨m, kind⟩] }

def removeKey (s : Scanner) : Scan Scanner :=
  match s.keys with
  | k :: ks =>
    if k.possible && k.required then .error ⟨s.mark, "simple key expected"⟩
    else .ok { s with keys := { k with possible := false } :: ks }
  | [] => .ok s

def saveKey (s : Scanner) : Scan Scanner :=
  if s.keyAllowed then do
    let key : SimpleKey :=
      { possible := true, required := s.inFlow && s.indent == (s.mark.column : Int),
        number := s.handed + s.queue.length, mark := s.mark }
    let s ← s.removeKey
    pure { s with keys := key :: s.keys.tail }
  else .ok s

def isStale (s : Scanner) (k : SimpleKey) : Bool :=
  k.possible && (decide (k.mark.line < s.mark.line) || decide (k.mark.index + 1024 < s.mark.index))

def dropStaleKeys (s : Scanner) : Scan Scanner :=
  if s.keys.any fun k => s.isStale k && k.required then .error ⟨s.mark, "simple key expect ':'"⟩
  else .ok { s with keys := s.keys.map fun k => if s.isStale k then { k with possible := false } else k }

def rollIndent (s : Scanner) (column : Nat) (number : Option Nat) (kind : TokenKind) (m : Mark) :
    Scanner :=
  if s.inFlow || (column : Int) ≤ s.indent then s
  else
    let t : Token := ⟨m, kind⟩
    { s with
      indents := s.indent :: s.indents
      indent := column
      queue := match number with
        | some n => let i := n - s.handed; s.queue.take i ++ t :: s.queue.drop i
        | none => s.queue ++ [t] }

def unrollLevels (column : Int) (s : Scanner) : List Int → Scanner
  | [] => s
  | i :: is =>
    if s.indent > column then
      unrollLevels column { s.push .blockEnd s.mark with indent := i, indents := is } is
    else s

def unrollIndent (s : Scanner) (column : Int) : Scanner :=
  if s.inFlow then s else unrollLevels column s s.indents

def allowKey (s : Scanner) (b : Bool) : Scanner := { s with keyAllowed := b }

/-! ### Between tokens -/

def toNextTokenFuel : Nat → Scanner → Scanner
  | 0, s => s
  | n + 1, s =>
    let c := s.ch
    if c == ' ' || (c == '\t' && (s.inFlow || !s.keyAllowed)) then toNextTokenFuel n s.skip
    else if isBreak c then
      let s := s.skipLine
      toNextTokenFuel n (if s.inFlow then s else s.allowKey true)
    else if c == '#' then toNextTokenFuel n (s.skipWhile fun c => !isBreakOrEnd c)
    else s

def toNextToken (s : Scanner) : Scanner := toNextTokenFuel (s.rest.length + 1) s

/-! ### Directives -/

def skipBlanks (s : Scanner) : Scanner := s.skipWhile isBlank

def directiveName (s : Scanner) : Scan (Scanner × String) :=
  let start := s.mark
  let (s, name) := s.readWhile isNameChar
  if name.isEmpty then
    .error ⟨start, "while scanning a directive, could not find expected directive name"⟩
  else if !isBlankOrEnd s.ch then
    .error ⟨start, "while scanning a directive, found unexpected non-alphabetical character"⟩
  else .ok (s, String.ofList name)

def versionNumber (s : Scanner) (start : Mark) : Scan (Scanner × Nat) :=
  let (s', ds) := s.readWhile Char.isDigit
  if 9 < ds.length then
    .error ⟨start, "while scanning a YAML directive, found extremely long version number"⟩
  else if ds.isEmpty then
    .error ⟨start, "while scanning a YAML directive, did not find expected version number"⟩
  else .ok (s', ds.foldl (fun n d => n * 10 + (d.toNat - '0'.toNat)) 0)

def versionValue (s : Scanner) (start : Mark) : Scan (Scanner × Token) := do
  let (s, major) ← versionNumber s.skipBlanks start
  if s.ch != '.' then
    .error ⟨start, "while scanning a YAML directive, did not find expected digit or '.' character"⟩
  else
    let (s, minor) ← versionNumber s.skip start
    pure (s, ⟨start, .versionDirective major minor⟩)

def tagHandle (s : Scanner) (directive : Bool) (start : Mark) : Scan (Scanner × String) :=
  if s.ch != '!' then .error ⟨start, "while scanning a tag, did not find expected '!'"⟩
  else
    let (s, name) := s.skip.readWhile isNameChar
    let handle := "!" ++ String.ofList name
    if s.ch == '!' then .ok (s.skip, handle ++ "!")
    else if directive && handle != "!" then
      .error ⟨start, "while parsing a tag directive, did not find expected '!'"⟩
    else .ok (s, handle)

def leadingWidth? (octet : Nat) : Option Nat :=
  if octet &&& 0x80 == 0 then some 1
  else if octet &&& 0xE0 == 0xC0 then some 2
  else if octet &&& 0xF0 == 0xE0 then some 3
  else if octet &&& 0xF8 == 0xF0 then some 4
  else none

def uriOctet (s : Scanner) (start : Mark) : Scan (Scanner × Nat) :=
  match s.ch, hexValue? (s.peekAt 1), hexValue? (s.peekAt 2) with
  | '%', some h, some l => .ok (s.skipN 3, h * 16 + l)
  | _, _, _ => .error ⟨start, "while parsing a tag, did not find URI escaped octet"⟩

def uriContinuation (start : Mark) : Nat → Scanner → Nat → Scan (Scanner × Nat)
  | 0, s, code => .ok (s, code)
  | n + 1, s, code => do
    let (s, octet) ← uriOctet s start
    if octet &&& 0xC0 != 0x80 then
      .error ⟨start, "while parsing a tag, found an incorrect trailing UTF-8 octet"⟩
    else uriContinuation start n s (code * 256 + octet)

def uriEscape (s : Scanner) (start : Mark) : Scan (Scanner × Char) := do
  let (s, octet) ← uriOctet s start
  match leadingWidth? octet with
  | none => .error ⟨start, "while parsing a tag, found an incorrect leading UTF-8 octet"⟩
  | some w =>
    let (s, code) ← uriContinuation start (w - 1) s octet
    if isScalarCode code then pure (s, Char.ofNat code)
    else .error ⟨start, "while parsing a tag, found an invalid UTF-8 codepoint"⟩

def uriCharsFuel (start : Mark) : Nat → Scanner → List Char → Nat → Scan (Scanner × List Char × Nat)
  | 0, s, acc, n => .ok (s, acc.reverse, n)
  | fuel + 1, s, acc, n =>
    let c := s.ch
    if !isUriChar c then .ok (s, acc.reverse, n)
    else if c == '%' then do
      let (s, d) ← uriEscape s start
      uriCharsFuel start fuel s (d :: acc) (n + 1)
    else uriCharsFuel start fuel s.skip (c :: acc) (n + 1)

def tagUri (s : Scanner) (head : String) (start : Mark) : Scan (Scanner × String) := do
  let headChars := if 1 < head.length then head.toList.tail else []
  let (s, cs, n) ← uriCharsFuel start (s.rest.length + 1) s headChars.reverse head.length
  if n == 0 then .error ⟨start, "while parsing a tag, did not find expected tag URI"⟩
  else pure (s, String.ofList cs)

def tagDirectiveValue (s : Scanner) (start : Mark) : Scan (Scanner × Token) := do
  let (s, handle) ← tagHandle s.skipBlanks true start
  let (s, pfx) ← tagUri s.skipBlanks "" start
  if isBlankOrEnd s.ch then pure (s, ⟨start, .tagDirective handle pfx⟩)
  else .error ⟨start, "while scanning TAG, did not find expected whitespace or line break"⟩

def scanDirective (s : Scanner) : Scan (Scanner × Token) := do
  let start := s.mark
  let (s, name) ← directiveName s.skip
  let (s, t) ←
    if name == "YAML" then versionValue s start
    else if name == "TAG" then tagDirectiveValue s start
    else pure (s.skipWhile (fun c => !isBreakOrEnd c), ⟨start, .tagDirective "" ""⟩)
  let s := s.skipBlanks
  let s := if s.ch == '#' then s.skipWhile (fun c => !isBreakOrEnd c) else s
  if !isBreakOrEnd s.ch then
    .error ⟨start, "while scanning a directive, did not find expected comment or line break"⟩
  else pure (s.skipLine, t)

/-! ### Tags and anchors -/

def scanTag (s : Scanner) : Scan (Scanner × Token) := do
  let start := s.mark
  let (s, handle, suffix) ←
    if s.peekAt 1 == '<' then do
      let (s, suffix) ← tagUri (s.skipN 2) "" start
      if s.ch != '>' then .error ⟨start, "while scanning a tag, did not find the expected '>'"⟩
      else pure (s.skip, "", suffix)
    else do
      let (s, handle) ← tagHandle s false start
      if 2 ≤ handle.length && handle.endsWith "!" then
        let (s, suffix) ← tagUri s "" start
        pure (s, handle, suffix)
      else
        let (s, suffix) ← tagUri s handle start
        pure (if suffix.isEmpty then (s, "", "!") else (s, "!", suffix))
  if isBlankOrEnd s.ch then pure (s, ⟨start, .tag handle suffix⟩)
  else .error ⟨start, "while scanning a tag, did not find expected whitespace or line break"⟩

def scanAnchor (s : Scanner) (isAlias : Bool) : Scan (Scanner × Token) :=
  let start := s.mark
  let (s, name) := s.skip.readWhile isNameChar
  if name.isEmpty || !(isBlankOrEnd s.ch || "?:,]\x7d%@\x60".contains s.ch) then
    .error ⟨start,
      "while scanning an anchor or alias, did not find expected alphabetic or numeric character"⟩
  else
    let n := String.ofList name
    .ok (s, ⟨start, if isAlias then .alias n else .anchor n⟩)

/-! ### Folding lines -/

/-- Joins the line breaks read between two parts of a flow or plain scalar: a single break is a
space, more breaks stay as breaks. -/
def joinBreaks (leadingBreak trailingBreaks : String) : String :=
  if leadingBreak.isEmpty then trailingBreaks
  else if trailingBreaks.isEmpty then " " else trailingBreaks

/-- What a flow or plain scalar has read between two runs of characters: the blanks kept before
any break, whether a break came, the first break and the ones after it. -/
structure Gap where
  blanks : String := ""
  broken : Bool := false
  leadingBreak : String := ""
  trailingBreaks : String := ""
  deriving Inhabited

def Gap.text (g : Gap) : String :=
  if g.broken then joinBreaks g.leadingBreak g.trailingBreaks else g.blanks

def readGapFuel (tabLimit : Option (Int × Mark)) : Nat → Scanner → Gap → Scan (Scanner × Gap)
  | 0, s, g => .ok (s, g)
  | n + 1, s, g =>
    let c := s.ch
    if isBlank c then
      match tabLimit with
      | some (indent, start) =>
        if g.broken && (s.mark.column : Int) < indent && c == '\t' then
          .error ⟨start, "while scanning a plain scalar, found a tab"⟩
        else readGapFuel tabLimit n s.skip (if g.broken then g else { g with blanks := g.blanks.push c })
      | none => readGapFuel tabLimit n s.skip (if g.broken then g else { g with blanks := g.blanks.push c })
    else if isBreak c then
      let s' := s.skipLine
      if g.broken then readGapFuel tabLimit n s' { g with trailingBreaks := g.trailingBreaks.push '\n' }
      else readGapFuel tabLimit n s' { g with blanks := "", broken := true, leadingBreak := "\n" }
    else .ok (s, g)

def readGap (tabLimit : Option (Int × Mark)) (s : Scanner) (g : Gap) : Scan (Scanner × Gap) :=
  readGapFuel tabLimit (s.rest.length + 1) s g

/-! ### Quoted scalars -/

def escapeOf (c : Char) : Option (Char ⊕ Nat) :=
  match c with
  | '0' => some (.inl '\x00')
  | 'a' => some (.inl '\x07')
  | 'b' => some (.inl '\x08')
  | 't' | '\t' => some (.inl '\t')
  | 'n' => some (.inl '\n')
  | 'v' => some (.inl '\x0b')
  | 'f' => some (.inl '\x0c')
  | 'r' => some (.inl '\r')
  | 'e' => some (.inl '\x1b')
  | ' ' => some (.inl ' ')
  | '"' => some (.inl '"')
  | '\'' => some (.inl '\'')
  | '\\' => some (.inl '\\')
  | 'N' => some (.inl '\x85')
  | '_' => some (.inl '\xa0')
  | 'L' => some (.inl '\u2028')
  | 'P' => some (.inl '\u2029')
  | 'x' => some (.inr 2)
  | 'u' => some (.inr 4)
  | 'U' => some (.inr 8)
  | _ => none

def hexAhead (s : Scanner) (n : Nat) : Option Nat :=
  (List.range n).foldl (fun acc i => acc.bind fun v => (hexValue? (s.peekAt i)).map (v * 16 + ·))
    (some 0)

def quotedRunFuel (single : Bool) (start : Mark) : Nat → Scanner → String →
    Scan (Scanner × String × Bool)
  | 0, s, acc => .ok (s, acc, false)
  | n + 1, s, acc =>
    let c := s.ch
    if isBlankOrEnd c then .ok (s, acc, false)
    else if single && c == '\'' && s.peekAt 1 == '\'' then
      quotedRunFuel single start n (s.skipN 2) (acc.push '\'')
    else if single && c == '\'' then .ok (s, acc, false)
    else if !single && c == '"' then .ok (s, acc, false)
    else if !single && c == '\\' && isBreak (s.peekAt 1) then .ok (s.skip.skipLine, acc, true)
    else if !single && c == '\\' then
      match escapeOf (s.peekAt 1) with
      | none => .error ⟨start, "while parsing a quoted scalar, found unknown escape character"⟩
      | some (.inl e) => quotedRunFuel single start n (s.skipN 2) (acc.push e)
      | some (.inr k) =>
        let s := s.skipN 2
        match hexAhead s k with
        | none =>
          .error ⟨start, "while parsing a quoted scalar, did not find expected hexadecimal number"⟩
        | some v =>
          if isScalarCode v then quotedRunFuel single start n (s.skipN k) (acc.push (Char.ofNat v))
          else .error ⟨start,
            "while parsing a quoted scalar, found invalid Unicode character escape code"⟩
    else quotedRunFuel single start n s.skip (acc.push c)

def quotedFuel (single : Bool) (start : Mark) : Nat → Scanner → String → Scan (Scanner × String)
  | 0, s, acc => .ok (s, acc)
  | n + 1, s, acc =>
    if s.atDocumentMarker then
      .error ⟨start, "while scanning a quoted scalar, found unexpected document indicator"⟩
    else if s.ch == '\x00' then
      .error ⟨start, "while scanning a quoted scalar, found unexpected end of stream"⟩
    else do
      let (s, acc, escapedBreak) ← quotedRunFuel single start (s.rest.length + 1) s acc
      if (single && s.ch == '\'') || (!single && s.ch == '"') then pure (s, acc)
      else
        let (s, g) ← readGap none s { broken := escapedBreak }
        quotedFuel single start n s (acc ++ g.text)

def scanQuoted (s : Scanner) (single : Bool) : Scan (Scanner × Token) := do
  let start := s.mark
  let (s, text) ← quotedFuel single start (s.rest.length + 1) s.skip ""
  pure (s.skip, ⟨start, .scalar (if single then .singleQuoted else .doubleQuoted) text⟩)

/-! ### Plain scalars -/

def plainRunFuel : Nat → Scanner → String → Scanner × String
  | 0, s, acc => (s, acc)
  | n + 1, s, acc =>
    let c := s.ch
    if isBlankOrEnd c then (s, acc)
    else if c == ':' && (isBlankOrEnd (s.peekAt 1) || (s.inFlow && isFlowChar (s.peekAt 1))) then
      (s, acc)
    else if s.inFlow && isFlowChar c then (s, acc)
    else plainRunFuel n s.skip (acc.push c)

def plainFuel (indent : Int) (start : Mark) : Nat → Scanner → String → Gap →
    Scan (Scanner × String × Bool)
  | 0, s, acc, g => .ok (s, acc, g.broken)
  | n + 1, s, acc, g =>
    if s.atDocumentMarker || s.ch == '#' then .ok (s, acc, g.broken)
    else
      let (s', run) := plainRunFuel (s.rest.length + 1) s ""
      let (acc, g) := if run.isEmpty then (acc, g) else (acc ++ g.text ++ run, {})
      let s := s'
      if !(isBlank s.ch || isBreak s.ch) then .ok (s, acc, g.broken)
      else do
        let (s, g) ← readGap (some (indent, start)) s g
        if !s.inFlow && (s.mark.column : Int) < indent then pure (s, acc, g.broken)
        else plainFuel indent start n s acc g

def scanPlain (s : Scanner) : Scan (Scanner × Token) := do
  let start := s.mark
  let (s, text, broken) ← plainFuel (s.indent + 1) start (s.rest.length + 1) s "" {}
  pure (if broken then s.allowKey true else s, ⟨start, .scalar .plain text⟩)

/-! ### Block scalars -/

def indentSpacesFuel (indent : Nat) : Nat → Scanner → Scanner
  | 0, s => s
  | n + 1, s =>
    if (indent == 0 || s.mark.column < indent) && s.ch == ' ' then indentSpacesFuel indent n s.skip
    else s

def blockBreaksFuel (indent : Nat) : Nat → Scanner → String → Nat → Scan (Scanner × String × Nat)
  | 0, s, breaks, deepest => .ok (s, breaks, deepest)
  | n + 1, s, breaks, deepest =>
    let within := fun (s : Scanner) => indent == 0 || s.mark.column < indent
    let s := indentSpacesFuel indent s.rest.length s
    let deepest := max deepest s.mark.column
    if within s && s.ch == '\t' then
      .error ⟨s.mark,
        "while scanning a block scalar, found a tab character where an indentation space is expected"⟩
    else if !isBreak s.ch then .ok (s, breaks, deepest)
    else blockBreaksFuel indent n s.skipLine (breaks.push '\n') deepest

def blockBreaks (s : Scanner) (indent : Nat) : Scan (Scanner × String × Nat) := do
  let (s', breaks, deepest) ← blockBreaksFuel indent (s.rest.length + 1) s "" 0
  let indent := if indent == 0 then max (max deepest (s.indent + 1).toNat) 1 else indent
  pure (s', breaks, indent)

def blockLinesFuel (literal : Bool) (indent : Nat) : Nat → Scanner → String → String → String →
    Bool → Scan (Scanner × String × String × String)
  | 0, s, acc, leading, trailing, _ => .ok (s, acc, leading, trailing)
  | n + 1, s, acc, leading, trailing, leadingBlank =>
    if s.mark.column != indent || s.ch == '\x00' then .ok (s, acc, leading, trailing)
    else
      let trailingBlank := isBlank s.ch
      let acc :=
        if !literal && !leading.isEmpty && !leadingBlank && !trailingBlank then
          if trailing.isEmpty then acc.push ' ' else acc
        else acc ++ leading
      let acc := acc ++ trailing
      let leadingBlank := isBlank s.ch
      let (s, line) := s.readWhile fun c => !isBreakOrEnd c
      let acc := acc ++ String.ofList line
      if s.ch == '\x00' then .ok (s, acc, "", "")
      else do
        let s := s.skipLine
        let (s, trailing, _) ← blockBreaks s indent
        blockLinesFuel literal indent n s acc "\n" trailing leadingBlank

/-- Reads a literal (`|`) or folded (`>`) block scalar: a header with an optional chomping
indicator and indentation digit, then lines at the indentation. The token stands at the start
of the content. -/
def scanBlock (s : Scanner) (literal : Bool) : Scan (Scanner × Token) := do
  let start := s.mark
  let s := s.skip
  let chompOf := fun (c : Char) => if c == '+' then some (1 : Int) else if c == '-' then some (-1) else none
  let zeroFault : Fault :=
    ⟨start, "while scanning a block scalar, found an indentation indicator equal to 0"⟩
  let (s, chomping, increment) ←
    match chompOf s.ch with
    | some c =>
      let s := s.skip
      if s.ch.isDigit then
        if s.ch == '0' then .error zeroFault else pure (s.skip, c, s.ch.toNat - '0'.toNat)
      else pure (s, c, 0)
    | none =>
      if s.ch.isDigit then
        if s.ch == '0' then .error zeroFault
        else
          let inc := s.ch.toNat - '0'.toNat
          let s := s.skip
          match chompOf s.ch with
          | some c => pure (s.skip, c, inc)
          | none => pure (s, 0, inc)
      else pure (s, 0, 0)
  let s := s.skipBlanks
  let s := if s.ch == '#' then s.skipWhile (fun c => !isBreakOrEnd c) else s
  if !isBreakOrEnd s.ch then
    .error ⟨start, "while scanning a block scalar, did not find expected comment or line break"⟩
  else
    let s := s.skipLine
    let indent : Nat :=
      if increment > 0 then (if s.indent ≥ 0 then (s.indent + increment).toNat else increment)
      else 0
    let (s, trailing, indent) ← blockBreaks s indent
    let mark := s.mark
    let (s, acc, leading, trailing) ←
      blockLinesFuel literal indent (s.rest.length + 1) s "" "" trailing false
    let acc := if chomping != -1 then acc ++ leading else acc
    let acc := if chomping == 1 then acc ++ trailing else acc
    pure (s, ⟨mark, .scalar (if literal then .literal else .folded) acc⟩)

/-! ### Tokens -/

def fetchStreamStart (s : Scanner) : Scanner :=
  { s.push .streamStart s.mark with
    indent := -1, started := true, keyAllowed := true, keys := [{}] }

def fetchStreamEnd (s : Scanner) : Scan Scanner := do
  let s := if s.mark.column != 0 then
    { s with mark := { s.mark with column := 0, line := s.mark.line + 1 } } else s
  let s := s.unrollIndent (-1)
  let s ← s.removeKey
  pure ((s.allowKey false).push .streamEnd s.mark)

def fetchDirective (s : Scanner) : Scan Scanner := do
  let s ← (s.unrollIndent (-1)).removeKey
  let (s, t) ← scanDirective (s.allowKey false)
  pure { s with queue := s.queue ++ [t] }

def fetchDocumentIndicator (s : Scanner) (kind : TokenKind) : Scan Scanner := do
  let s ← (s.unrollIndent (-1)).removeKey
  let s := s.allowKey false
  pure ((s.skipN 3).push kind s.mark)

def fetchFlowStart (s : Scanner) (kind : TokenKind) : Scan Scanner := do
  let s ← s.saveKey
  if s.flowLevel == 255 then .error ⟨s.mark, "recursion limit exceeded"⟩
  else
    let s := { s with keys := {} :: s.keys, flowLevel := s.flowLevel + 1 }
    pure (((s.allowKey true).skip).push kind s.mark)

def fetchFlowEnd (s : Scanner) (kind : TokenKind) : Scan Scanner := do
  let s ← s.removeKey
  let s := if s.inFlow then { s with flowLevel := s.flowLevel - 1, keys := s.keys.tail } else s
  pure (((s.allowKey false).skip).push kind s.mark)

def fetchFlowEntry (s : Scanner) : Scan Scanner := do
  let s ← s.removeKey
  pure (((s.allowKey true).skip).push .flowEntry s.mark)

def fetchBlockEntry (s : Scanner) : Scan Scanner := do
  if s.inFlow then .error ⟨s.mark, "\"-\" is only valid inside a block"⟩
  else if !s.keyAllowed then
    .error ⟨s.mark, "block sequence entries are not allowed in this context"⟩
  else
    let s := s.rollIndent s.mark.column none .blockSequenceStart s.mark
    let s ← s.removeKey
    pure (((s.allowKey true).skip).push .blockEntry s.mark)

def fetchKey (s : Scanner) : Scan Scanner := do
  let start := s.mark
  let s ←
    if s.inFlow then pure s
    else if !s.keyAllowed then .error ⟨s.mark, "mapping keys are not allowed in this context"⟩
    else pure (s.rollIndent start.column none .blockMappingStart start)
  let s ← s.removeKey
  pure ((s.allowKey (!s.inFlow)).skip.push .key start)

/-- Makes a VALUE token. A possible simple key becomes a key: a KEY token goes in front of it,
and a BLOCK-MAPPING-START at the `:` when it opens a mapping. -/
def fetchValue (s : Scanner) : Scan Scanner := do
  let start := s.mark
  let s ← match s.keys with
    | k :: ks =>
      if k.possible then
        let i := k.number - s.handed
        let s := { s with queue := s.queue.take i ++ (⟨k.mark, .key⟩ : Token) :: s.queue.drop i }
        let s := s.rollIndent k.mark.column (some k.number) .blockMappingStart start
        pure ({ s with keys := { k with possible := false } :: ks }.allowKey false)
      else if s.inFlow then pure (s.allowKey false)
      else if !s.keyAllowed then
        .error ⟨start, "mapping values are not allowed in this context"⟩
      else pure ((s.rollIndent start.column none .blockMappingStart start).allowKey true)
    | [] => pure s
  pure (s.skip.push .value start)

def fetchWith (s : Scanner) (allow : Bool) (scan : Scanner → Scan (Scanner × Token)) :
    Scan Scanner := do
  let s ← s.saveKey
  let (s, t) ← scan (s.allowKey allow)
  pure { s with queue := s.queue ++ [t] }

def fetchNext (s : Scanner) : Scan Scanner := do
  if !s.started then return s.fetchStreamStart
  let s := s.toNextToken
  let s ← s.dropStaleKeys
  let s := s.unrollIndent s.mark.column
  let c := s.ch
  let nc := s.peekAt 1
  if c == '\x00' then s.fetchStreamEnd
  else if s.mark.column == 0 && c == '%' then s.fetchDirective
  else if s.mark.column == 0 && c == '-' && s.atDocumentMarker then
    s.fetchDocumentIndicator .documentStart
  else if s.mark.column == 0 && c == '.' && s.atDocumentMarker then
    s.fetchDocumentIndicator .documentEnd
  else if c == '[' then s.fetchFlowStart .flowSequenceStart
  else if c == '{' then s.fetchFlowStart .flowMappingStart
  else if c == ']' then s.fetchFlowEnd .flowSequenceEnd
  else if c == '}' then s.fetchFlowEnd .flowMappingEnd
  else if c == ',' then s.fetchFlowEntry
  else if c == '-' && isBlankOrEnd nc then s.fetchBlockEntry
  else if c == '?' && isBlankOrEnd nc then s.fetchKey
  else if c == ':' && (isBlankOrEnd nc ||
      (s.inFlow && (isFlowChar nc || s.mark.index == s.adjacentValueAt))) then s.fetchValue
  else if c == '*' then s.fetchWith false (scanAnchor · true)
  else if c == '&' then s.fetchWith false (scanAnchor · false)
  else if c == '!' then s.fetchWith false scanTag
  else if c == '|' && !s.inFlow then s.fetchWith true (scanBlock · true)
  else if c == '>' && !s.inFlow then s.fetchWith true (scanBlock · false)
  else if c == '\'' || c == '"' then do
    let s ← s.fetchWith false (scanQuoted · (c == '\''))
    pure { s with adjacentValueAt := s.mark.index }
  else if c == '%' || c == '@' || c == '`' then
    .error ⟨s.mark, "unexpected character: \x60" ++ c.toString ++ "\x27"⟩
  else s.fetchWith false scanPlain

/-- Whether a token must wait: a possible simple key may still put a KEY token in front of the
next one to hand on. -/
def waiting (s : Scanner) : Bool := s.keys.any fun k => k.possible && k.number == s.handed

def fetchMoreFuel : Nat → Scanner → Scan Scanner
  | 0, s => .ok s
  | n + 1, s => do
    let (s, more) ←
      if s.queue.isEmpty then pure (s, true)
      else do
        let s ← s.dropStaleKeys
        pure (s, s.waiting)
    if more then fetchMoreFuel n (← s.fetchNext) else pure s

def handOutFuel : Nat → Scanner → List Token → List Token × Option Fault
  | 0, _, acc => (acc.reverse, none)
  | n + 1, s, acc =>
    match fetchMoreFuel (s.rest.length + 2 * s.indents.length + 8) s with
    | .error f => (acc.reverse, some f)
    | .ok s =>
      match s.queue with
      | t :: rest =>
        let s := { s with queue := rest, handed := s.handed + 1 }
        if t.kind == .streamEnd then ((t :: acc).reverse, none)
        else handOutFuel n s (t :: acc)
      | [] => (acc.reverse, none)

end Scanner

/-- The tokens of a text, up to STREAM-END or the first fault, which is given after them. -/
def Token.scan (text : List Char) : List Token × Option Fault :=
  Scanner.handOutFuel (4 * text.length + 8) { rest := text } []

end Yaml
end Config
end Obfuscator
