/-!
# Reading YAML: tokens

A YAML text is first cut into tokens, as the reference reader cuts it. Blanks and comments
separate tokens. In block context an indentation deeper than the current one opens a block
collection, and a shallower one closes it with BLOCK-END tokens. A scalar that may turn out to
be a mapping key is remembered as a *simple key*; when a `:` follows on the same line, a KEY
token is put in front of it (and, when it opens a mapping, a BLOCK-MAPPING-START), at the
number the key was given when it was seen. A simple key that must be a key, because it stands
at the indentation of a block mapping, and is not followed by `:` is a fault.

Places are counted in bytes, and in lines and columns (of characters) from zero; a simple key
goes stale on a later line or more than 1024 bytes on. The first fault ends the reading.
Tokens that the reader still holds back at that point, waiting for a simple key to be decided,
are not handed on: `Tokens.delivered` counts those that are.
-/

namespace Obfuscator
namespace Yaml

/-- A place in the text: bytes read, and line and column (in characters) counted from zero. -/
structure Mark where
  index : Nat := 0
  line : Nat := 0
  column : Nat := 0
  deriving Inhabited, DecidableEq, Repr

namespace Mark

def isStart (m : Mark) : Bool := m.line == 0 && m.column == 0

def text (m : Mark) : String := s!"line {m.line + 1} column {m.column + 1}"

end Mark

/-- How a scalar was written. -/
inductive ScalarStyle where
  | plain
  | singleQuoted
  | doubleQuoted
  | literal
  | folded
  deriving Inhabited, DecidableEq, Repr

/-- The kinds of token. -/
inductive TokenKind where
  | streamStart
  | streamEnd
  | versionDirective (major minor : Nat)
  | tagDirective (handle pfx : String)
  | documentStart
  | documentEnd
  | blockSequenceStart
  | blockMappingStart
  | blockEnd
  | flowSequenceStart
  | flowSequenceEnd
  | flowMappingStart
  | flowMappingEnd
  | blockEntry
  | flowEntry
  | key
  | value
  | alias (name : String)
  | anchor (name : String)
  | tag (handle suffix : String)
  | scalar (text : String) (style : ScalarStyle)
  deriving Inhabited, Repr

/-- A token and the places where it starts and stops. -/
structure Token where
  kind : TokenKind
  start : Mark
  stop : Mark
  deriving Inhabited, Repr

/-- Which stage of reading found a fault. -/
inductive Stage where
  | reader
  | scanner
  | parser
  deriving Inhabited, DecidableEq, Repr

/-- A fault in the form the reference reader reports it: what went wrong and where, and the
construct being read when it did. -/
structure Problem where
  stage : Stage := .scanner
  problem : String
  mark : Mark
  context : Option (String × Mark) := none
  offset : Nat := 0
  staleKey : Bool := false
  deriving Inhabited, DecidableEq, Repr

namespace Problem

def text (p : Problem) : String :=
  let head :=
    if !p.mark.isStart then p.problem ++ " at " ++ p.mark.text
    else if p.offset != 0 then p.problem ++ s!" at position {p.offset}"
    else p.problem
  match p.context with
  | none => head
  | some (ctx, m) =>
    if !m.isStart && (m.line != p.mark.line || m.column != p.mark.column) then
      head ++ ", " ++ ctx ++ " at " ++ m.text
    else head ++ ", " ++ ctx

def scanning (ctx : String) (start : Mark) (problem : String) (m : Mark) : Problem :=
  { problem, mark := m, context := some (ctx, start) }

end Problem

/-! ## Characters -/

def isBreak (c : Char) : Bool :=
  c == '\r' || c == '\n' || c == '\x85' || c == '\u2028' || c == '\u2029'

def isBlank (c : Char) : Bool := c == ' ' || c == '\t'

def blankOrEnd : Option Char → Bool
  | none => true
  | some c => isBlank c || isBreak c

def breakOrEnd : Option Char → Bool
  | none => true
  | some c => isBreak c

def isNameChar (c : Char) : Bool := c.isAlphanum || c == '_' || c == '-'

/-- Whether the reader accepts a character at all: tab, line feed, carriage return, the
printable ASCII characters, NEL, and the rest of Unicode but the C1 controls, the surrogates
and U+FFFE, U+FFFF. -/
def isAccepted (c : Char) : Bool :=
  let v := c.toNat
  v == 0x09 || v == 0x0A || v == 0x0D || (0x20 ≤ v && v ≤ 0x7E) || v == 0x85 ||
    (0xA0 ≤ v && v ≤ 0xD7FF) || (0xE000 ≤ v && v ≤ 0xFFFD) || (0x10000 ≤ v && v ≤ 0x10FFFF)

def hexValue? (c : Char) : Option Nat :=
  if c.isDigit then some (c.toNat - '0'.toNat)
  else if 'a' ≤ c && c ≤ 'f' then some (c.toNat - 'a'.toNat + 10)
  else if 'A' ≤ c && c ≤ 'F' then some (c.toNat - 'A'.toNat + 10)
  else none

/-! ## The cursor -/

/-- The text still to read, and the place reached. -/
structure Cursor where
  rest : List Char
  mark : Mark := {}
  deriving Inhabited

namespace Cursor

def peek (c : Cursor) : Option Char := c.rest.head?

def ahead (c : Cursor) (k : Nat) : Option Char := c.rest[k]?

def is (c : Cursor) (ch : Char) : Bool := c.peek == some ch

def isAhead (c : Cursor) (k : Nat) (ch : Char) : Bool := c.ahead k == some ch

def atBlank (c : Cursor) : Bool := match c.peek with | some ch => isBlank ch | none => false

def atBreak (c : Cursor) : Bool := match c.peek with | some ch => isBreak ch | none => false

def skip (c : Cursor) : Cursor :=
  match c.rest with
  | [] => c
  | x :: r =>
    { rest := r, mark := { c.mark with index := c.mark.index + x.utf8Size, column := c.mark.column + 1 } }

def nextLine (m : Mark) (n : Nat) : Mark := { index := m.index + n, line := m.line + 1, column := 0 }

def skipLine (c : Cursor) : Cursor :=
  match c.rest with
  | '\r' :: '\n' :: r => { rest := r, mark := nextLine c.mark 2 }
  | x :: r => if isBreak x then { rest := r, mark := nextLine c.mark x.utf8Size } else c
  | [] => c

/-- Reads a line break as the break it stands for: CR LF, CR, LF and NEL are a line feed, the
separators stand for themselves. -/
def readLine (c : Cursor) : Cursor × List Char :=
  match c.rest with
  | '\r' :: '\n' :: _ => (c.skipLine, ['\n'])
  | x :: _ =>
    if x == '\r' || x == '\n' || x == '\x85' then (c.skipLine, ['\n'])
    else if isBreak x then (c.skipLine, [x])
    else (c, [])
  | [] => (c, [])

def atMarker (c : Cursor) (ch : Char) : Bool :=
  c.mark.column == 0 && c.isAhead 0 ch && c.isAhead 1 ch && c.isAhead 2 ch && blankOrEnd (c.ahead 3)

def atDocumentMarker (c : Cursor) : Bool := c.atMarker '-' || c.atMarker '.'

def skipWhileFuel (p : Char → Bool) : Nat → Cursor → Cursor
  | 0, c => c
  | n + 1, c =>
    match c.peek with
    | some ch => if p ch then skipWhileFuel p n c.skip else c
    | none => c

def skipWhile (p : Char → Bool) (c : Cursor) : Cursor := skipWhileFuel p c.rest.length c

def readWhileFuel (p : Char → Bool) : Nat → Cursor → List Char → Cursor × List Char
  | 0, c, acc => (c, acc.reverse)
  | n + 1, c, acc =>
    match c.peek with
    | some ch => if p ch then readWhileFuel p n c.skip (ch :: acc) else (c, acc.reverse)
    | none => (c, acc.reverse)

def readWhile (p : Char → Bool) (c : Cursor) : Cursor × List Char :=
  readWhileFuel p c.rest.length c []

def skipToBreak (c : Cursor) : Cursor := c.skipWhile fun ch => !isBreak ch

end Cursor

/-! ## The scanner -/

/-- A scalar that may turn out to be a mapping key: the number its token got, where it stands,
and whether it must be a key. -/
structure SimpleKey where
  possible : Bool := false
  required : Bool := false
  number : Nat := 0
  mark : Mark := {}
  deriving Inhabited

/-- The scanner's state: the cursor, the tokens so far, whether a simple key may start here,
one simple-key slot for each flow level, the indentation stack and the flow depth. -/
structure Scanner where
  cursor : Cursor
  tokens : Array Token := #[]
  keyAllowed : Bool := false
  keys : List SimpleKey := []
  indent : Int := -1
  indents : List Int := []
  flowLevel : Nat := 0
  started : Bool := false
  finished : Bool := false
  deriving Inhabited

abbrev Scan := Except Problem

namespace Scanner

def mark (s : Scanner) : Mark := s.cursor.mark

def inFlow (s : Scanner) : Bool := s.flowLevel != 0

def emit (s : Scanner) (kind : TokenKind) (start stop : Mark) : Scanner :=
  { s with tokens := s.tokens.push ⟨kind, start, stop⟩ }

def keyFault (k : SimpleKey) (m : Mark) : Problem :=
  Problem.scanning "while scanning a simple key" k.mark "could not find expected ':'" m

def removeKey (s : Scanner) : Scan Scanner :=
  match s.keys with
  | k :: ks =>
    if k.possible && k.required then .error (keyFault k s.mark)
    else .ok { s with keys := { k with possible := false } :: ks }
  | [] => .ok s

def saveKey (s : Scanner) : Scan Scanner :=
  if s.keyAllowed then do
    let key : SimpleKey :=
      { possible := true, required := !s.inFlow && s.indent == (s.mark.column : Int),
        number := s.tokens.size, mark := s.mark }
    let s ← s.removeKey
    match s.keys with
    | _ :: ks => pure { s with keys := key :: ks }
    | [] => pure { s with keys := [key] }
  else .ok s

def isStale (s : Scanner) (k : SimpleKey) : Bool :=
  k.possible && (decide (k.mark.line < s.mark.line) || decide (k.mark.index + 1024 < s.mark.index))

def dropStaleKeys (s : Scanner) : Scan Scanner :=
  match s.keys.reverse.find? fun k => s.isStale k && k.required with
  | some k => .error { keyFault k s.mark with staleKey := true }
  | none => .ok { s with keys := s.keys.map fun k => if s.isStale k then { k with possible := false } else k }

def rollIndent (s : Scanner) (column : Int) (number : Option Nat) (kind : TokenKind)
    (m : Mark) : Scanner :=
  if s.inFlow || column ≤ s.indent then s
  else
    let t : Token := ⟨kind, m, m⟩
    { s with
      indents := s.indent :: s.indents
      indent := column
      tokens := match number with
        | none => s.tokens.push t
        | some n => s.tokens.insertIdxIfInBounds n t }

def unrollLevels (column : Int) (s : Scanner) : List Int → Scanner
  | [] => s
  | i :: is =>
    if s.indent > column then
      unrollLevels column { s.emit .blockEnd s.mark s.mark with indent := i, indents := is } is
    else s

def unrollIndent (s : Scanner) (column : Int) : Scanner :=
  if s.inFlow then s else unrollLevels column s s.indents

def skip (s : Scanner) : Scanner := { s with cursor := s.cursor.skip }

def skipN (s : Scanner) : Nat → Scanner
  | 0 => s
  | n + 1 => (s.skip).skipN n

/-! ### Between tokens -/

def toNextTokenFuel : Nat → Scanner → Scanner
  | 0, s => s
  | n + 1, s =>
    let c := s.cursor
    let c := if c.mark.column == 0 && c.is '\uFEFF' then c.skip else c
    let tabsOk := s.inFlow || !s.keyAllowed
    let c := c.skipWhile fun ch => ch == ' ' || (tabsOk && ch == '\t')
    let c := if c.is '#' then c.skipToBreak else c
    if c.atBreak then
      let s := { s with cursor := c.skipLine }
      toNextTokenFuel n (if s.inFlow then s else { s with keyAllowed := true })
    else { s with cursor := c }

def toNextToken (s : Scanner) : Scanner := toNextTokenFuel (s.cursor.rest.length + 1) s

/-! ### Plain scalars -/

/-- What a plain or quoted scalar has read so far: its text, the breaks and blanks after the
last character, and where it stops. -/
structure Folding where
  cursor : Cursor
  text : Array Char := #[]
  leadingBreak : List Char := []
  trailingBreaks : List Char := []
  blanks : List Char := []
  inBreaks : Bool := false
  stop : Mark := {}
  deriving Inhabited

namespace Folding

def add (f : Folding) (cs : List Char) : Folding := { f with text := cs.foldl Array.push f.text }

/-- Folds the blanks and breaks read since the last character into the text: a single line feed
becomes a space, more line feeds stay as line feeds, other breaks are kept, and blanks within
a line are kept. -/
def fold (f : Folding) : Folding :=
  if f.inBreaks then
    let f :=
      if f.leadingBreak.head? == some '\n' then
        if f.trailingBreaks.isEmpty then f.add [' '] else f.add f.trailingBreaks
      else (f.add f.leadingBreak).add f.trailingBreaks
    { f with leadingBreak := [], trailingBreaks := [] }
  else { f.add f.blanks with blanks := [] }

def readBlanks (tabIndent : Option (Int × Mark)) : Nat → Folding → Scan Folding
  | 0, f => .ok f
  | n + 1, f =>
    let c := f.cursor
    match c.peek with
    | some ch =>
      if isBlank ch then
        match tabIndent with
        | some (indent, start) =>
          if f.inBreaks && (c.mark.column : Int) < indent && ch == '\t' then
            .error (Problem.scanning "while scanning a plain scalar" start
              "found a tab character that violates indentation" c.mark)
          else if f.inBreaks then readBlanks tabIndent n { f with cursor := c.skip }
          else readBlanks tabIndent n { f with cursor := c.skip, blanks := f.blanks ++ [ch] }
        | none =>
          if f.inBreaks then readBlanks tabIndent n { f with cursor := c.skip }
          else readBlanks tabIndent n { f with cursor := c.skip, blanks := f.blanks ++ [ch] }
      else if isBreak ch then
        let (c, br) := c.readLine
        if f.inBreaks then readBlanks tabIndent n { f with cursor := c, trailingBreaks := f.trailingBreaks ++ br }
        else readBlanks tabIndent n { f with cursor := c, blanks := [], leadingBreak := br, inBreaks := true }
      else .ok f
    | none => .ok f

end Folding

def endsPlain (flow : Bool) (c : Cursor) : Bool :=
  (c.is ':' && blankOrEnd (c.ahead 1)) ||
    (flow && (c.is ',' || c.is '[' || c.is ']' || c.is '\x7b' || c.is '\x7d'))

def badColon (flow : Bool) (c : Cursor) : Bool :=
  flow && c.is ':' &&
    (c.isAhead 1 ',' || c.isAhead 1 '?' || c.isAhead 1 '[' || c.isAhead 1 ']' ||
      c.isAhead 1 '\x7b' || c.isAhead 1 '\x7d')

def plainRun (flow : Bool) (start : Mark) : Nat → Folding → Scan Folding
  | 0, f => .ok f
  | n + 1, f =>
    let c := f.cursor
    match c.peek with
    | none => .ok f
    | some ch =>
      if isBlank ch || isBreak ch then .ok f
      else if badColon flow c then
        .error (Problem.scanning "while scanning a plain scalar" start "found unexpected ':'" c.mark)
      else if endsPlain flow c then .ok f
      else
        let f := f.fold.add [ch]
        plainRun flow start n { f with cursor := c.skip, stop := c.skip.mark }

def plainLines (flow : Bool) (indent : Int) (start : Mark) : Nat → Folding → Scan Folding
  | 0, f => .ok f
  | n + 1, f =>
    let c := f.cursor
    if c.atDocumentMarker || c.is '#' then .ok f
    else do
      let f ← plainRun flow start (c.rest.length + 1) f
      let c := f.cursor
      if !(c.atBlank || c.atBreak) then .ok f
      else
        let f ← Folding.readBlanks (some (indent, start)) (c.rest.length + 1) f
        if !flow && (f.cursor.mark.column : Int) < indent then .ok f
        else plainLines flow indent start n f

def fetchPlain (s : Scanner) : Scan Scanner := do
  let s ← s.saveKey
  let s := { s with keyAllowed := false }
  let start := s.mark
  let f ← plainLines s.inFlow (s.indent + 1) start (s.cursor.rest.length + 1)
    { cursor := s.cursor, stop := start }
  let s := { s with cursor := f.cursor }
  let s := s.emit (.scalar (String.ofList f.text.toList) .plain) start f.stop
  pure (if f.inBreaks then { s with keyAllowed := true } else s)

/-! ### Quoted scalars -/

def shortEscape : Char → Option Char
  | '0' => some '\x00'
  | 'a' => some '\x07'
  | 'b' => some '\x08'
  | 't' => some '\t'
  | '\t' => some '\t'
  | 'n' => some '\n'
  | 'v' => some '\x0B'
  | 'f' => some '\x0C'
  | 'r' => some '\r'
  | 'e' => some '\x1B'
  | ' ' => some ' '
  | '"' => some '"'
  | '/' => some '/'
  | '\'' => some '\''
  | '\\' => some '\\'
  | 'N' => some '\x85'
  | '_' => some '\xA0'
  | 'L' => some '\u2028'
  | 'P' => some '\u2029'
  | _ => none

def codeLength : Char → Nat
  | 'x' => 2
  | 'u' => 4
  | 'U' => 8
  | _ => 0

def hexCode (c : Cursor) : Nat → Nat → Option Nat
  | 0, acc => some acc
  | k + 1, acc =>
    match c.peek.bind hexValue? with
    | some d => hexCode c.skip k (acc * 16 + d)
    | none => none

def quotedFault (start : Mark) (problem : String) (m : Mark) : Problem :=
  Problem.scanning "while parsing a quoted scalar" start problem m

def readEscape (start : Mark) (c : Cursor) : Scan (Char × Cursor) :=
  match c.ahead 1 with
  | none => .error (quotedFault start "found unknown escape character" c.mark)
  | some e =>
    match shortEscape e with
    | some ch => .ok (ch, c.skip.skip)
    | none =>
      let k := codeLength e
      if k == 0 then .error (quotedFault start "found unknown escape character" c.mark)
      else
        let c := c.skip.skip
        match hexCode c k 0 with
        | none => .error (quotedFault start "did not find expected hexadecimal number" c.mark)
        | some v =>
          if (0xD800 ≤ v && v ≤ 0xDFFF) || v > 0x10FFFF then
            .error (quotedFault start "found invalid Unicode character escape code" c.mark)
          else .ok (Char.ofNat v, skipN c k)
where
  skipN (c : Cursor) : Nat → Cursor
    | 0 => c
    | n + 1 => skipN c.skip n

def quotedRun (single : Bool) (start : Mark) : Nat → Folding → Scan Folding
  | 0, f => .ok f
  | n + 1, f =>
    let c := f.cursor
    match c.peek with
    | none => .ok f
    | some ch =>
      if isBlank ch || isBreak ch then .ok f
      else if single && ch == '\'' && c.isAhead 1 '\'' then
        quotedRun single start n { f.add ['\''] with cursor := c.skip.skip }
      else if ch == (if single then '\'' else '"') then .ok f
      else if !single && ch == '\\' && breakOrEnd (c.ahead 1) && (c.ahead 1).isSome then
        .ok { f with cursor := c.skip.skipLine, inBreaks := true }
      else if !single && ch == '\\' then do
        let (e, c) ← readEscape start c
        quotedRun single start n { f.add [e] with cursor := c }
      else quotedRun single start n { f.add [ch] with cursor := c.skip }

def quotedLines (single : Bool) (start : Mark) : Nat → Folding → Scan Folding
  | 0, f => .ok f
  | n + 1, f =>
    let c := f.cursor
    if c.atDocumentMarker then
      .error (Problem.scanning "while scanning a quoted scalar" start
        "found unexpected document indicator" c.mark)
    else if c.peek.isNone then
      .error (Problem.scanning "while scanning a quoted scalar" start
        "found unexpected end of stream" c.mark)
    else do
      let f ← quotedRun single start (c.rest.length + 1) { f with inBreaks := false }
      if f.cursor.is (if single then '\'' else '"') then .ok f
      else
        let f ← Folding.readBlanks none (f.cursor.rest.length + 1) f
        quotedLines single start n f.fold

def fetchQuoted (s : Scanner) (single : Bool) : Scan Scanner := do
  let s ← s.saveKey
  let s := { s with keyAllowed := false }
  let start := s.mark
  let f ← quotedLines single start (s.cursor.rest.length + 1) { cursor := s.cursor.skip }
  let c := f.cursor.skip
  let style := if single then ScalarStyle.singleQuoted else .doubleQuoted
  pure ({ s with cursor := c }.emit (.scalar (String.ofList f.text.toList) style) start c.mark)

/-! ### Block scalars -/

def skipIndent (indent : Nat) : Nat → Cursor → Cursor
  | 0, c => c
  | n + 1, c => if (indent == 0 || c.mark.column < indent) && c.is ' ' then skipIndent indent n c.skip else c

def blockBreaks (indent : Nat) (start : Mark) :
    Nat → Cursor → List Char → Mark → Nat → Scan (Cursor × List Char × Mark × Nat)
  | 0, c, brs, stop, deepest => .ok (c, brs, stop, deepest)
  | n + 1, c, brs, stop, deepest =>
    let c := skipIndent indent (c.rest.length + 1) c
    let deepest := max deepest c.mark.column
    if (indent == 0 || c.mark.column < indent) && c.is '\t' then
      .error (Problem.scanning "while scanning a block scalar" start
        "found a tab character where an indentation space is expected" c.mark)
    else if c.atBreak then
      let (c, br) := c.readLine
      blockBreaks indent start n c (brs ++ br) c.mark deepest
    else .ok (c, brs, stop, deepest)

/-- The lines of a block scalar, with what was read so far. -/
structure BlockLines where
  cursor : Cursor
  text : Array Char := #[]
  leadingBreak : List Char := []
  trailingBreaks : List Char := []
  leadingBlank : Bool := false
  stop : Mark

def blockLines (literal : Bool) (indent : Nat) (start : Mark) : Nat → BlockLines → Scan BlockLines
  | 0, b => .ok b
  | n + 1, b =>
    let c := b.cursor
    if c.mark.column != indent || c.peek.isNone then .ok b
    else do
      let trailingBlank := c.atBlank
      let text :=
        if !literal && b.leadingBreak.head? == some '\n' && !b.leadingBlank && !trailingBlank then
          if b.trailingBreaks.isEmpty then b.text.push ' ' else b.text
        else b.leadingBreak.foldl Array.push b.text
      let text := b.trailingBreaks.foldl Array.push text
      let leadingBlank := c.atBlank
      let (c, line) := c.readWhile fun ch => !isBreak ch
      let text := line.foldl Array.push text
      let (c, br) := c.readLine
      let (c, trailing, stop, _) ← blockBreaks indent start (c.rest.length + 1) c [] b.stop 0
      blockLines literal indent start n
        { cursor := c, text, leadingBreak := br, trailingBreaks := trailing, leadingBlank, stop }

def blockHeader (start : Mark) (c : Cursor) : Scan (Int × Nat × Cursor) :=
  let chompOf (c : Cursor) : Option Int :=
    if c.is '+' then some 1 else if c.is '-' then some (-1) else none
  let digitOf (c : Cursor) : Scan (Option Nat) :=
    match c.peek with
    | some d =>
      if d.isDigit then
        if d == '0' then
          .error (Problem.scanning "while scanning a block scalar" start
            "found an indentation indicator equal to 0" c.mark)
        else .ok (some (d.toNat - '0'.toNat))
      else .ok none
    | none => .ok none
  match chompOf c with
  | some ch => do
    let c := c.skip
    match ← digitOf c with
    | some d => pure (ch, d, c.skip)
    | none => pure (ch, 0, c)
  | none => do
    match ← digitOf c with
    | some d =>
      let c := c.skip
      match chompOf c with
      | some ch => pure (ch, d, c.skip)
      | none => pure (0, d, c)
    | none => pure (0, 0, c)

def fetchBlockScalar (s : Scanner) (literal : Bool) : Scan Scanner := do
  let s ← s.removeKey
  let s := { s with keyAllowed := true }
  let start := s.mark
  let (chomp, increment, c) ← blockHeader start s.cursor.skip
  let c := c.skipWhile isBlank
  let c := if c.is '#' then c.skipToBreak else c
  if !breakOrEnd c.peek then
    .error (Problem.scanning "while scanning a block scalar" start
      "did not find expected comment or line break" c.mark)
  else
    let c := if c.atBreak then c.skipLine else c
    let fixed : Nat :=
      if increment == 0 then 0
      else if (0 : Int) ≤ s.indent then s.indent.toNat + increment else increment
    let (c, trailing, stop, deepest) ← blockBreaks fixed start (c.rest.length + 1) c [] c.mark 0
    let indent :=
      if fixed != 0 then fixed else max (max deepest (s.indent + 1).toNat) 1
    let b ← blockLines literal indent start (c.rest.length + 1)
      { cursor := c, trailingBreaks := trailing, stop }
    let text := if chomp != -1 then b.leadingBreak.foldl Array.push b.text else b.text
    let text := if chomp == 1 then b.trailingBreaks.foldl Array.push text else text
    let style := if literal then ScalarStyle.literal else .folded
    pure ({ s with cursor := b.cursor }.emit (.scalar (String.ofList text.toList) style) start b.stop)

/-! ### Anchors, aliases and tags -/

def fetchAnchor (s : Scanner) (isAlias : Bool) : Scan Scanner := do
  let s ← s.saveKey
  let s := { s with keyAllowed := false }
  let start := s.mark
  let (c, name) := s.cursor.skip.readWhile isNameChar
  let ends := blankOrEnd c.peek || c.is '?' || c.is ':' || c.is ',' || c.is ']' ||
    c.is '\x7d' || c.is '%' || c.is '@' || c.is '\x60'
  if name.isEmpty || !ends then
    .error (Problem.scanning (if isAlias then "while scanning an alias" else "while scanning an anchor")
      start "did not find expected alphabetic or numeric character" c.mark)
  else
    let name := String.ofList name
    pure ({ s with cursor := c }.emit (if isAlias then .alias name else .anchor name) start c.mark)

def isTagChar (verbatim : Bool) (c : Char) : Bool :=
  isNameChar c || ";/?:@&=+$.%!~*'()".contains c || (verbatim && (c == ',' || c == '[' || c == ']'))

def tagChars (verbatim : Bool) (ctx : String) (start : Mark) :
    Nat → Cursor → List Char → Scan (Cursor × List Char)
  | 0, c, acc => .ok (c, acc.reverse)
  | n + 1, c, acc =>
    match c.peek with
    | some '%' =>
      match (c.ahead 1).bind hexValue?, (c.ahead 2).bind hexValue? with
      | some a, some b => tagChars verbatim ctx start n c.skip.skip.skip (Char.ofNat (a * 16 + b) :: acc)
      | _, _ => .error (Problem.scanning ctx start "did not find URI escaped octet" c.mark)
    | some ch => if isTagChar verbatim ch then tagChars verbatim ctx start n c.skip (ch :: acc) else .ok (c, acc.reverse)
    | none => .ok (c, acc.reverse)

def fetchTag (s : Scanner) : Scan Scanner := do
  let s ← s.saveKey
  let s := { s with keyAllowed := false }
  let start := s.mark
  let c := s.cursor
  let ctx := "while parsing a tag"
  let (handle, suffix, c) ←
    if c.isAhead 1 '<' then do
      let (c, uri) ← tagChars true ctx start (c.rest.length + 1) c.skip.skip []
      if uri.isEmpty then
        .error (Problem.scanning ctx start "did not find expected tag URI" c.mark)
      else if !c.is '>' then
        .error (Problem.scanning "while scanning a tag" start "did not find the expected '>'" c.mark)
      else pure ("", String.ofList uri, c.skip)
    else
      let (c1, name) := c.skip.readWhile isNameChar
      if c1.is '!' then do
        let (c2, rest) ← tagChars false ctx start (c1.rest.length + 1) c1.skip []
        if rest.isEmpty && name.isEmpty then
          pure ("!", "!", c2)
        else if rest.isEmpty then
          .error (Problem.scanning ctx start "did not find expected tag URI" c2.mark)
        else pure (String.ofList ('!' :: name ++ ['!']), String.ofList rest, c2)
      else do
        let (c2, rest) ← tagChars false ctx start (c1.rest.length + 1) c1 []
        let suffix := name ++ rest
        if suffix.isEmpty then pure ("", "!", c2) else pure ("!", String.ofList suffix, c2)
  if !blankOrEnd c.peek && !(s.inFlow && c.is ',') then
    .error (Problem.scanning "while scanning a tag" start
      "did not find expected whitespace or line break" c.mark)
  else pure ({ s with cursor := c }.emit (.tag handle suffix) start c.mark)

/-! ### Directives -/

def fetchDirective (s : Scanner) : Scan Scanner := do
  let s := s.unrollIndent (-1)
  let s ← s.removeKey
  let s := { s with keyAllowed := false }
  let start := s.mark
  let ctx := "while scanning a directive"
  let (c, name) := s.cursor.skip.readWhile isNameChar
  if name.isEmpty then
    .error (Problem.scanning ctx start "could not find expected directive name" c.mark)
  else if !blankOrEnd c.peek then
    .error (Problem.scanning ctx start "found unexpected non-alphabetical character" c.mark)
  else do
    let (kind, c) ← directiveBody (String.ofList name) start c
    let c := c.skipWhile isBlank
    let c := if c.is '#' then c.skipToBreak else c
    if !breakOrEnd c.peek then
      .error (Problem.scanning ctx start "did not find expected comment or line break" c.mark)
    else
      let stop := c.mark
      pure ({ s with cursor := c.skipLine }.emit kind start stop)
where
  number (start : Mark) (c : Cursor) : Scan (Nat × Cursor) :=
    let (c', ds) := c.readWhile Char.isDigit
    if ds.length > 9 then
      .error (Problem.scanning "while scanning a %YAML directive" start
        "found extremely long version number" c'.mark)
    else if ds.isEmpty then
      .error (Problem.scanning "while scanning a %YAML directive" start
        "did not find expected version number" c'.mark)
    else .ok (ds.foldl (fun n d => n * 10 + (d.toNat - '0'.toNat)) 0, c')
  directiveBody (name : String) (start : Mark) (c : Cursor) : Scan (TokenKind × Cursor) := do
    let ctx := "while scanning a directive"
    if name == "YAML" then
      let c := c.skipWhile isBlank
      let (major, c) ← number start c
      if !c.is '.' then
        .error (Problem.scanning "while scanning a %YAML directive" start
          "did not find expected digit or '.' character" c.mark)
      else
        let (minor, c) ← number start c.skip
        pure (.versionDirective major minor, c)
    else if name == "TAG" then
      let c := c.skipWhile isBlank
      if !c.is '!' then
        .error (Problem.scanning "while scanning a tag directive" start "did not find expected '!'" c.mark)
      else
        let (c1, hname) := c.skip.readWhile isNameChar
        let (handle, c1) ←
          if c1.is '!' then pure (String.ofList ('!' :: hname ++ ['!']), c1.skip)
          else if hname.isEmpty then pure ("!", c1)
          else .error (Problem.scanning "while parsing a tag directive" start
            "did not find expected '!'" c1.mark)
        if !c1.atBlank then
          .error (Problem.scanning "while scanning a %TAG directive" start
            "did not find expected whitespace" c1.mark)
        else
          let c2 := c1.skipWhile isBlank
          let (c3, pfx) ← tagChars true "while parsing a %TAG directive" start (c2.rest.length + 1) c2 []
          if pfx.isEmpty then
            .error (Problem.scanning "while parsing a %TAG directive" start
              "did not find expected tag URI" c3.mark)
          else if !blankOrEnd c3.peek then
            .error (Problem.scanning "while scanning a %TAG directive" start
              "did not find expected whitespace or line break" c3.mark)
          else pure (.tagDirective handle (String.ofList pfx), c3)
    else
      .error (Problem.scanning ctx start "found unknown directive name" c.mark)

/-! ### Indicators -/

def fetchDocumentMarker (s : Scanner) (kind : TokenKind) : Scan Scanner := do
  let s := s.unrollIndent (-1)
  let s ← s.removeKey
  let start := s.mark
  let s := { s with keyAllowed := false }.skipN 3
  pure (s.emit kind start s.mark)

def fetchFlowStart (s : Scanner) (kind : TokenKind) : Scan Scanner := do
  let s ← s.saveKey
  let s := { s with keys := {} :: s.keys, flowLevel := s.flowLevel + 1, keyAllowed := true }
  let start := s.mark
  let s := s.skip
  pure (s.emit kind start s.mark)

def fetchFlowEnd (s : Scanner) (kind : TokenKind) : Scan Scanner := do
  let s ← s.removeKey
  let s :=
    if s.inFlow then { s with flowLevel := s.flowLevel - 1, keys := s.keys.tail } else s
  let s := { s with keyAllowed := false }
  let start := s.mark
  let s := s.skip
  pure (s.emit kind start s.mark)

def fetchFlowEntry (s : Scanner) : Scan Scanner := do
  let s ← s.removeKey
  let s := { s with keyAllowed := true }
  let start := s.mark
  let s := s.skip
  pure (s.emit .flowEntry start s.mark)

def fetchBlockEntry (s : Scanner) : Scan Scanner := do
  let s ←
    if !s.inFlow then
      if !s.keyAllowed then
        .error { problem := "block sequence entries are not allowed in this context", mark := s.mark }
      else pure (s.rollIndent s.mark.column none .blockSequenceStart s.mark)
    else pure s
  let s ← s.removeKey
  let s := { s with keyAllowed := true }
  let start := s.mark
  let s := s.skip
  pure (s.emit .blockEntry start s.mark)

def fetchKey (s : Scanner) : Scan Scanner := do
  let s ←
    if !s.inFlow then
      if !s.keyAllowed then
        .error { problem := "mapping keys are not allowed in this context", mark := s.mark }
      else pure (s.rollIndent s.mark.column none .blockMappingStart s.mark)
    else pure s
  let s ← s.removeKey
  let s := { s with keyAllowed := !s.inFlow }
  let start := s.mark
  let s := s.skip
  pure (s.emit .key start s.mark)

/-- Reads `:`. After a possible simple key, the key's KEY token (and the start of a block
mapping, when the key is deeper) goes in front of the key; otherwise the value follows a
complex key. -/
def fetchValue (s : Scanner) : Scan Scanner := do
  let s ←
    match s.keys with
    | k :: ks =>
      if k.possible then
        let s := { s with tokens := s.tokens.insertIdxIfInBounds k.number ⟨.key, k.mark, k.mark⟩ }
        let s := s.rollIndent k.mark.column (some k.number) .blockMappingStart k.mark
        pure { s with keys := { k with possible := false } :: ks, keyAllowed := false }
      else complex s
    | [] => complex s
  let start := s.mark
  let s := s.skip
  pure (s.emit .value start s.mark)
where
  complex (s : Scanner) : Scan Scanner :=
    if !s.inFlow then
      if !s.keyAllowed then
        .error { problem := "mapping values are not allowed in this context", mark := s.mark }
      else
        let s := s.rollIndent s.mark.column none .blockMappingStart s.mark
        .ok { s with keyAllowed := true }
    else .ok { s with keyAllowed := false }

def fetchStreamStart (s : Scanner) : Scanner :=
  { s.emit .streamStart s.mark s.mark with
    started := true, indent := -1, keyAllowed := true, keys := [{}] }

def fetchStreamEnd (s : Scanner) : Scan Scanner := do
  let s :=
    if s.mark.column != 0 then
      { s with cursor := { s.cursor with mark := { s.mark with column := 0, line := s.mark.line + 1 } } }
    else s
  let s := s.unrollIndent (-1)
  let s ← s.removeKey
  pure { s.emit .streamEnd s.mark s.mark with keyAllowed := false, finished := true }

def startsPlain (s : Scanner) (c : Cursor) (ch : Char) : Bool :=
  !(blankOrEnd (some ch) || "-?:,[]\x7b\x7d#&*!|>'\"%@\x60".contains ch) ||
    (ch == '-' && !(match c.ahead 1 with | some x => isBlank x | none => false)) ||
    (!s.inFlow && (ch == '?' || ch == ':') && !blankOrEnd (c.ahead 1))

def fetchNext (s : Scanner) : Scan Scanner := do
  if !s.started then return s.fetchStreamStart
  let s := s.toNextToken
  let s ← s.dropStaleKeys
  let s := s.unrollIndent s.mark.column
  let c := s.cursor
  match c.peek with
  | none => s.fetchStreamEnd
  | some ch =>
    if c.mark.column == 0 && ch == '%' then s.fetchDirective
    else if c.atMarker '-' then s.fetchDocumentMarker .documentStart
    else if c.atMarker '.' then s.fetchDocumentMarker .documentEnd
    else if ch == '[' then s.fetchFlowStart .flowSequenceStart
    else if ch == '\x7b' then s.fetchFlowStart .flowMappingStart
    else if ch == ']' then s.fetchFlowEnd .flowSequenceEnd
    else if ch == '\x7d' then s.fetchFlowEnd .flowMappingEnd
    else if ch == ',' then s.fetchFlowEntry
    else if ch == '-' && blankOrEnd (c.ahead 1) then s.fetchBlockEntry
    else if ch == '?' && (s.inFlow || blankOrEnd (c.ahead 1)) then s.fetchKey
    else if ch == ':' && (s.inFlow || blankOrEnd (c.ahead 1)) then s.fetchValue
    else if ch == '*' then s.fetchAnchor true
    else if ch == '&' then s.fetchAnchor false
    else if ch == '!' then s.fetchTag
    else if ch == '|' && !s.inFlow then s.fetchBlockScalar true
    else if ch == '>' && !s.inFlow then s.fetchBlockScalar false
    else if ch == '\'' then s.fetchQuoted true
    else if ch == '"' then s.fetchQuoted false
    else if s.startsPlain c ch then s.fetchPlain
    else .error (Problem.scanning "while scanning for the next token" c.mark
      "found character that cannot start any token" c.mark)

/-- How many tokens the reader has handed on: those before the first possible simple key. -/
def delivered (s : Scanner) : Nat :=
  s.keys.foldl (fun n k => if k.possible then min n k.number else n) s.tokens.size

/-- Makes tokens until the stream ends or a fault stops it. Before each token the reader drops
the simple keys that have gone stale at the end of the token before, so the tokens they held
back are handed on even when making the next token fails. -/
def run : Nat → Scanner → Scanner × Option Problem
  | 0, s => (s, none)
  | n + 1, s =>
    if s.finished then (s, none)
    else
      match s.dropStaleKeys with
      | .error p => (s, some p)
      | .ok s =>
        match s.fetchNext with
        | .ok s => run n s
        | .error p => (s, some p)

end Scanner

/-- The tokens of a text as the reader hands them on: the tokens, how many of them are handed
on, and the fault that stopped the reading, if one did. -/
structure Tokens where
  tokens : Array Token
  delivered : Nat
  failure : Option Problem

def refused? (text : List Char) : Option (Char × Nat) :=
  go text 0
where
  go : List Char → Nat → Option (Char × Nat)
    | [], _ => none
    | c :: cs, n => if isAccepted c then go cs (n + c.utf8Size) else some (c, n)

/-- Cuts a text into tokens. A byte order mark at the very start is dropped; a character the
reader refuses is a fault before any token. -/
def tokenize (text : List Char) : Tokens :=
  let (body, bom) := match text with
    | '\uFEFF' :: rest => (rest, 3)
    | _ => (text, 0)
  match refused? body with
  | some (_, offset) =>
    let p : Problem :=
      { stage := .reader, problem := "control characters are not allowed", mark := {},
        offset := offset + bom }
    { tokens := #[], delivered := 0, failure := some p }
  | none =>
    let (s, failure) := Scanner.run (2 * body.length + 8) { cursor := { rest := body } }
    match failure with
    | none => { tokens := s.tokens, delivered := s.tokens.size, failure := none }
    | some p => { tokens := s.tokens, delivered := s.delivered, failure := some p }

end Yaml
end Obfuscator
