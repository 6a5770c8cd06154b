import Obfuscator.Config.Value
import Obfuscator.Text.GeneralCategory
import Obfuscator.Number.Binary64
/-!
# JSON5 configuration files

JSON5 extends JSON with comments (`//` and `/* … */`), unquoted keys (names starting with a
letter, `$`, `_` or a `\u` escape), single-quoted strings, line continuations in strings, more
escapes, trailing commas, hexadecimal integers, numbers with a leading or trailing point or a
sign, and `Infinity` and `NaN`. Blanks are the Unicode space separators, tab, vertical tab, form
feed, the byte order mark and the line terminators (line feed, carriage return and the two
Unicode separators).

The character classes of names are those of a later Unicode version than the Unicode 17.0
tables here, which adds letters where these tables leave code points open. So a code point
that they leave open for new characters (unassigned, in the first four planes, and not a
noncharacter) counts as a letter: it may start a name as well as continue one.

The text is read by a grammar of ordered choices that backtracks. A fault is reported where the
furthest attempt of a named rule failed, with the rules attempted there, in the grammar's order,
and the line of the text under a caret, the way the grammar engine draws it. A rule that fails
after exactly one of its own inner rules failed at its start leaves that inner rule to stand for
it; otherwise the rule stands for all the attempts inside it at its start.

A number whose text has neither a point nor an exponent (or is hexadecimal) is an integer, a
hexadecimal one of 32 bits and a decimal one of 64, signed; `+Infinity` and `+NaN` count as
such texts too, and fail as integers. Any other number is a double, and one too large for a
double is a fault. A `\u` escape of a high surrogate joins the next piece of its string as the
low one. Faults of numbers and escapes come after reading, in the order of the text. A
configuration is the object the text stands for; any other value is a fault that names what it
is.
-/

namespace Obfuscator
namespace Config
namespace Json5

/-- The rules whose failures a fault names, in the grammar's order. -/
inductive Rule where
  | eoi
  | array
  | boolean
  | charEscapeSequence
  | charLiteral
  | hexEscapeSequence
  | identifier
  | nulEscapeSequence
  | null
  | number
  | object
  | string
  | unicodeEscapeSequence
  deriving Inhabited, DecidableEq, Repr

namespace Rule

def name : Rule → String
  | eoi => "EOI"
  | array => "array"
  | boolean => "boolean"
  | charEscapeSequence => "char_escape_sequence"
  | charLiteral => "char_literal"
  | hexEscapeSequence => "hex_escape_sequence"
  | identifier => "identifier"
  | nulEscapeSequence => "nul_escape_sequence"
  | null => "null"
  | number => "number"
  | object => "object"
  | string => "string"
  | unicodeEscapeSequence => "unicode_escape_sequence"

def rank : Rule → Nat
  | eoi => 0
  | array => 1
  | boolean => 2
  | charEscapeSequence => 3
  | charLiteral => 4
  | hexEscapeSequence => 5
  | identifier => 6
  | nulEscapeSequence => 7
  | null => 8
  | number => 9
  | object => 10
  | string => 11
  | unicodeEscapeSequence => 12

end Rule

/-- The furthest place where a named rule failed, and the rules that failed there. -/
structure Tracker where
  pos : Nat := 0
  rules : List Rule := []
  deriving Inhabited

def Tracker.countAt (t : Tracker) (p : Nat) : Nat := if t.pos == p then t.rules.length else 0

/-- Records that rule `r`, started at `p`, failed: `index` is the number of failures recorded
at `p` when it started and `before` the count at `p` then. Exactly one new failure inside it at
its start stands for it; otherwise it replaces the failures inside it at its start. -/
def Tracker.record (t : Tracker) (r : Rule) (p index before : Nat) : Tracker :=
  let now := t.countAt p
  if now > before && now - before == 1 then t
  else
    let t := if p == t.pos then { t with rules := t.rules.take index } else t
    let t := if p > t.pos then { pos := p, rules := [] } else t
    if p == t.pos then { t with rules := t.rules ++ [r] } else t

abbrev Parse (α : Type) := Tracker → Nat → Option (Nat × α) × Tracker

def rule {α : Type} (r : Rule) (p : Parse α) : Parse α := fun t pos =>
  let index := if pos == t.pos then t.rules.length else 0
  let before := t.countAt pos
  match p t pos with
  | (some x, t') => (some x, t')
  | (none, t') => (none, t'.record r pos index before)

/-- A JSON5 value as read, before its numbers and escapes are taken. -/
inductive Tree where
  | null
  | bool (b : Bool)
  | number (text : String)
  | string (text : Except String String)
  | array (items : List Tree)
  | object (members : List (Except String String × Tree))
  deriving Inhabited

def isLineTerminator (c : Char) : Bool := c == '\n' || c == '\r' || c == '\u2028' || c == '\u2029'

def isBlank (c : Char) : Bool :=
  c == '\t' || c == '\x0b' || c == '\x0c' || c == ' ' || c == '\xa0' || c == '\uFEFF' ||
    Text.isSpaceSeparator c || isLineTerminator c

def isSingleEscape (c : Char) : Bool := "'\"\\bfnrtv".contains c

def isEscapeChar (c : Char) : Bool := isSingleEscape c || c.isDigit || c == 'x' || c == 'u'

def escaped (c : Char) : Char :=
  match c with
  | 'b' => '\x08'
  | 'f' => '\x0c'
  | 'n' => '\n'
  | 'r' => '\r'
  | 't' => '\t'
  | 'v' => '\x0b'
  | c => c

def hexValue? (c : Char) : Option Nat :=
  if c.isDigit then some (c.toNat - '0'.toNat)
  else if 'a' ≤ c && c ≤ 'f' then some (c.toNat - 'a'.toNat + 10)
  else if 'A' ≤ c && c ≤ 'F' then some (c.toNat - 'A'.toNat + 10)
  else none

/-- A piece of a string or name as read: a character as written, the letter of a one-letter
escape, the escape `\0`, or the value of the digits of a `\x` or `\u` escape. -/
inductive Piece where
  | literal (c : Char)
  | letter (c : Char)
  | nul
  | hex (v : Nat)
  | unicode (v : Nat)
  deriving Inhabited, DecidableEq, Repr

namespace Piece

def hexNumber? : Piece → Option Nat
  | literal c => hexValue? c
  | letter c => hexValue? c
  | nul => some 0
  | hex v => some v
  | unicode v => some v

def joinSurrogates (high low : Nat) : Nat :=
  ((high - 0xD800) <<< 10) ||| (low - 0xDC00 + 0x10000)

def decode : List Piece → Except String (List Char)
  | [] => .ok []
  | literal c :: rest => (c :: ·) <$> decode rest
  | letter c :: rest => (escaped c :: ·) <$> decode rest
  | nul :: rest => ('\x00' :: ·) <$> decode rest
  | hex v :: rest => (Char.ofNat v :: ·) <$> decode rest
  | unicode v :: rest =>
    if 0xDC00 ≤ v && v ≤ 0xDFFF then .error "unexpected unicode trail surrogate"
    else if 0xD800 ≤ v && v ≤ 0xDBFF then
      match rest with
      | [] => .error "missing unicode trail surrogate"
      | next :: rest =>
        match next.hexNumber? with
        | none => .error "error parsing hex"
        | some w =>
          if 0xDC00 ≤ w && w ≤ 0xDFFF then (Char.ofNat (joinSurrogates v w) :: ·) <$> decode rest
          else .error "expecting unicode trail surrogate"
    else (Char.ofNat v :: ·) <$> decode rest

def text (ps : List Piece) : Except String String := (decode ps).map String.ofList

end Piece

section Grammar

variable (s : Array Char)

def at? (p : Nat) : Option Char := s[p]?

def startsWith (p : Nat) (w : String) : Bool :=
  (w.toList.zipIdx.all fun (c, i) => at? s (p + i) == some c)

def endsLine (p : Nat) : Bool :=
  match at? s p with
  | some c => isLineTerminator c
  | none => true

def comment (p : Nat) : Option Nat :=
  if startsWith s p "/*" then
    ((List.range (s.size + 1)).find? fun i => p + 2 ≤ i && startsWith s i "*/").map (· + 2)
  else if startsWith s p "//" then
    some (((List.range (s.size + 1)).find? fun i => p + 2 ≤ i && endsLine s i).getD s.size)
  else none

def skipFuel : Nat → Nat → Nat
  | 0, p => p
  | n + 1, p =>
    match at? s p with
    | some c =>
      if isBlank c then skipFuel n (p + 1)
      else match comment s p with
        | some q => skipFuel n q
        | none => p
    | none => p

def skip (p : Nat) : Nat := skipFuel s (s.size + 1) p

def charLiteral : Parse Char := rule .charLiteral fun t p =>
  match at? s p with
  | some c => if c == '\\' || isLineTerminator c then (none, t) else (some (p + 1, c), t)
  | none => (none, t)

def charEscapeSequence : Parse Char := rule .charEscapeSequence fun t p =>
  match at? s p with
  | some c =>
    if isSingleEscape c || !(isEscapeChar c || isLineTerminator c) then (some (p + 1, c), t)
    else (none, t)
  | none => (none, t)

def nulEscapeSequence : Parse Unit := rule .nulEscapeSequence fun t p =>
  if at? s p == some '0' then (some (p + 1, ()), t) else (none, t)

def hexRun (n : Nat) (p : Nat) : Option (Nat × Nat) :=
  ((List.range n).foldlM (fun v i => (at? s (p + i)).bind hexValue? |>.map (v * 16 + ·)) 0).map
    fun v => (p + n, v)

def hexEscapeSequence : Parse Nat := rule .hexEscapeSequence fun t p => (hexRun s 2 p, t)

def unicodeEscapeSequence : Parse Nat := rule .unicodeEscapeSequence fun t p => (hexRun s 4 p, t)

def escapeSequence : Parse Piece := fun t p =>
  match charEscapeSequence s t p with
  | (some (q, c), t) => (some (q, .letter c), t)
  | (none, t) =>
    match nulEscapeSequence s t p with
    | (some (q, _), t) => (some (q, .nul), t)
    | (none, t) =>
      if at? s p == some 'x' then
        match hexEscapeSequence s t (p + 1) with
        | (some (q, v), t) => (some (q, .hex v), t)
        | (none, t) => (none, t)
      else if at? s p == some 'u' then
        match unicodeEscapeSequence s t (p + 1) with
        | (some (q, v), t) => (some (q, .unicode v), t)
        | (none, t) => (none, t)
      else (none, t)

def lineContinuation (p : Nat) : Option Nat :=
  if at? s p == some '\\' then
    if at? s (p + 1) == some '\r' && at? s (p + 2) == some '\n' then some (p + 3)
    else match at? s (p + 1) with
      | some c => if isLineTerminator c then some (p + 2) else none
      | none => none
  else none

def quotedChar (q : Char) : Parse (Option Piece) := fun t p =>
  let first := if at? s p == some '\\' then escapeSequence s t (p + 1) else (none, t)
  match first with
  | (some (r, c), t) => (some (r, some c), t)
  | (none, t) =>
    match lineContinuation s p with
    | some r => (some (r, none), t)
    | none =>
      if at? s p == some q then (none, t)
      else
        match charLiteral s t p with
        | (some (r, c), t) => (some (r, some (.literal c)), t)
        | (none, t) => (none, t)

def quotedCharsFuel (q : Char) : Nat → Tracker → Nat → List Piece → Nat × List Piece × Tracker
  | 0, t, p, acc => (p, acc.reverse, t)
  | n + 1, t, p, acc =>
    match quotedChar s q t p with
    | (some (r, some c), t) => quotedCharsFuel q n t r (c :: acc)
    | (some (r, none), t) => quotedCharsFuel q n t r acc
    | (none, t) => (p, acc.reverse, t)

def string : Parse (Except String String) := rule .string fun t p =>
  match at? s p with
  | some q =>
    if q == '"' || q == '\'' then
      let (r, cs, t) := quotedCharsFuel s q (s.size + 1) t (p + 1) []
      if at? s r == some q then (some (r + 1, Piece.text cs), t) else (none, t)
    else (none, t)
  | none => (none, t)

/-- The start of a name: a letter or letter number (a code point open for new characters
counting as a letter), `$` or `_`, or a `\u` escape. -/
def nameStart : Parse Piece := fun t p =>
  match at? s p with
  | some c =>
    if Text.isLetter c || Text.isOpen c || Text.isLetterNumber c || c == '$' || c == '_' then
      match charLiteral s t p with
      | (some (r, c), t) => (some (r, .literal c), t)
      | (none, t) => (none, t)
    else if c == '\\' && at? s (p + 1) == some 'u' then
      match unicodeEscapeSequence s t (p + 2) with
      | (some (r, v), t) => (some (r, .unicode v), t)
      | (none, t) => (none, t)
    else (none, t)
  | none => (none, t)

def namePart : Parse Piece := fun t p =>
  match nameStart s t p with
  | (some x, t) => (some x, t)
  | (none, t) =>
    match at? s p with
    | some c =>
      if Text.isNonspacingMark c || Text.isDiacritic c || Text.isDecimalNumber c ||
          Text.isConnector c || c == '\u200C' || c == '\u200D' then
        match charLiteral s t p with
        | (some (r, c), t) => (some (r, .literal c), t)
        | (none, t) => (none, t)
      else (none, t)
    | none => (none, t)

def namePartsFuel : Nat → Tracker → Nat → List Piece → Nat × List Piece × Tracker
  | 0, t, p, acc => (p, acc.reverse, t)
  | n + 1, t, p, acc =>
    match namePart s t p with
    | (some (r, c), t) => namePartsFuel n t r (c :: acc)
    | (none, t) => (p, acc.reverse, t)

def identifier : Parse (Except String String) := rule .identifier fun t p =>
  match nameStart s t p with
  | (some (r, c), t) =>
    let (r, cs, t) := namePartsFuel s (s.size + 1) t r []
    (some (r, Piece.text (c :: cs)), t)
  | (none, t) => (none, t)

def digitsEnd (p : Nat) : Nat :=
  p + ((List.range (s.size - p)).find? fun i => !((at? s (p + i)).any Char.isDigit)).getD (s.size - p)

def exponent (p : Nat) : Option Nat :=
  if at? s p == some 'e' || at? s p == some 'E' then
    let q := if at? s (p + 1) == some '+' || at? s (p + 1) == some '-' then p + 2 else p + 1
    let r := digitsEnd s q
    if q < r then some r else none
  else none

def decimalInteger (p : Nat) : Option Nat :=
  match at? s p with
  | some '0' => some (p + 1)
  | some c => if c.isDigit then some (digitsEnd s (p + 1)) else none
  | none => none

def numeral (p : Nat) : Option Nat :=
  let hex :=
    if at? s p == some '0' && (at? s (p + 1) == some 'x' || at? s (p + 1) == some 'X') then
      let r := p + 2 + ((List.range (s.size - (p + 2))).find? fun i =>
        !((at? s (p + 2 + i)).any fun c => (hexValue? c).isSome)).getD (s.size - (p + 2))
      if p + 2 < r then some r else none
    else none
  let withExponent := fun (q : Nat) => (exponent s q).getD q
  let pointed := (decimalInteger s p).bind fun q =>
    if at? s q == some '.' then some (withExponent (digitsEnd s (q + 1))) else none
  let leadingPoint :=
    if at? s p == some '.' then
      let r := digitsEnd s (p + 1)
      if p + 1 < r then some (withExponent r) else none
    else none
  let plain := (decimalInteger s p).map withExponent
  let word :=
    if startsWith s p "Infinity" then some (p + 8)
    else if startsWith s p "NaN" then some (p + 3) else none
  hex <|> pointed <|> leadingPoint <|> plain <|> word

def number : Parse String := rule .number fun t p =>
  let q := if at? s p == some '+' || at? s p == some '-' then p + 1 else p
  match numeral s q with
  | some r => (some (r, String.ofList ((s.extract p r).toList)), t)
  | none => (none, t)

def word (r : Rule) (w : String) : Parse Unit := rule r fun t p =>
  if startsWith s p w then (some (p + w.length, ()), t) else (none, t)

mutual

/-- A value; one step of fuel is spent on each nested rule and each further item, which the
length of the text bounds. -/
def value : Nat → Parse Tree
  | 0, t, _ => (none, t)
  | n + 1, t, p =>
    match word s .null "null" t p with
    | (some (r, _), t) => (some (r, .null), t)
    | (none, t) =>
    match rule .boolean (fun t p =>
        if startsWith s p "true" then (some (p + 4, true), t)
        else if startsWith s p "false" then (some (p + 5, false), t)
        else (none, t)) t p with
    | (some (r, b), t) => (some (r, .bool b), t)
    | (none, t) =>
    match string s t p with
    | (some (r, x), t) => (some (r, .string x), t)
    | (none, t) =>
    match number s t p with
    | (some (r, x), t) => (some (r, .number x), t)
    | (none, t) =>
    match object n t p with
    | (some x, t) => (some x, t)
    | (none, t) => array n t p

def object : Nat → Parse Tree
  | 0, t, _ => (none, t)
  | n + 1, t, p => rule .object (fun t p =>
      if at? s p != some '{' then (none, t)
      else
        let q := skip s (p + 1)
        if at? s q == some '}' then (some (q + 1, .object []), t)
        else
          match pair n t q with
          | (none, t) => (none, t)
          | (some (r, kv), t) =>
            let (r, kvs, t) := morePairs n t (skip s r) [kv]
            let r := if at? s r == some ',' then skip s (r + 1) else r
            if at? s r == some '}' then (some (r + 1, .object kvs), t) else (none, t)) t p

def pair : Nat → Parse (Except String String × Tree)
  | 0, t, _ => (none, t)
  | n + 1, t, p =>
    let key := match identifier s t p with
      | (some x, t) => (some x, t)
      | (none, t) => string s t p
    match key with
    | (none, t) => (none, t)
    | (some (r, k), t) =>
      let r := skip s r
      if at? s r != some ':' then (none, t)
      else
        match value n t (skip s (r + 1)) with
        | (some (r, v), t) => (some (r, (k, v)), t)
        | (none, t) => (none, t)

def morePairs : Nat → Tracker → Nat → List (Except String String × Tree) →
    Nat × List (Except String String × Tree) × Tracker
  | 0, t, p, acc => (p, acc.reverse, t)
  | n + 1, t, p, acc =>
    if at? s p != some ',' then (p, acc.reverse, t)
    else
      match pair n t (skip s (p + 1)) with
      | (some (r, kv), t) => morePairs n t (skip s r) (kv :: acc)
      | (none, t) => (p, acc.reverse, t)

def array : Nat → Parse Tree
  | 0, t, _ => (none, t)
  | n + 1, t, p => rule .array (fun t p =>
      if at? s p != some '[' then (none, t)
      else
        let q := skip s (p + 1)
        if at? s q == some ']' then (some (q + 1, .array []), t)
        else
          match value n t q with
          | (none, t) => (none, t)
          | (some (r, v), t) =>
            let (r, vs, t) := moreValues n t (skip s r) [v]
            let r := if at? s r == some ',' then skip s (r + 1) else r
            if at? s r == some ']' then (some (r + 1, .array vs), t) else (none, t)) t p

def moreValues : Nat → Tracker → Nat → List Tree → Nat × List Tree × Tracker
  | 0, t, p, acc => (p, acc.reverse, t)
  | n + 1, t, p, acc =>
    if at? s p != some ',' then (p, acc.reverse, t)
    else
      match value n t (skip s (p + 1)) with
      | (some (r, v), t) => moreValues n t (skip s r) (v :: acc)
      | (none, t) => (p, acc.reverse, t)

end

def endOfInput : Parse Unit := rule .eoi fun t p =>
  if p == s.size then (some (p, ()), t) else (none, t)

end Grammar

/-! ## Faults -/

def lineColumn (s : Array Char) (p : Nat) : Nat × Nat :=
  let step := fun (acc : Nat × Nat × Bool) (i : Nat) =>
    let (line, col, skipNext) := acc
    if skipNext then (line, col, false)
    else
      match s[i]? with
      | some '\r' => if s[i + 1]? == some '\n' then (line + 1, 1, true) else (line, col + 1, false)
      | some '\n' => (line + 1, 1, false)
      | _ => (line, col + 1, false)
  let (line, col, _) := (List.range p).foldl step (1, 1, false)
  (line, col)

def lineAt (s : Array Char) (p : Nat) : String :=
  let cs := s.toList
  let start := ((List.range p).reverse.find? fun i => s[i]? == some '\n').map (· + 1) |>.getD 0
  let stop := ((List.range s.size).find? fun i => p ≤ i && s[i]? == some '\n').map (· + 1)
    |>.getD s.size
  let line := (cs.drop start).take (stop - start)
  let atBreak := s[p]? == some '\n' || s[p]? == some '\r'
  String.ofList (if atBreak then line.map fun c => if c == '\r' then '\u240D' else if c == '\n' then '\u240A' else c
    else line.filter fun c => c != '\r' && c != '\n')

def enumerate (names : List String) : String :=
  match names with
  | [a] => a
  | [a, b] => a ++ " or " ++ b
  | _ => ", ".intercalate names.dropLast ++ ", or " ++ names.getLastD ""

/-- A fault of the grammar as the engine draws it: the place, the line with a caret under the
column, and the rules expected there. -/
def faultText (s : Array Char) (t : Tracker) : String :=
  let (line, col) := lineColumn s t.pos
  let lineStr := toString line
  let pad := String.ofList (List.replicate lineStr.length ' ')
  let text := lineAt s t.pos
  let under := String.ofList ((text.toList.take (col - 1)).map fun c => if c == '\t' then '\t' else ' ')
  let rules := (t.rules.mergeSort fun a b => a.rank ≤ b.rank).eraseDups
  let message := if rules.isEmpty then "unknown parsing error"
    else "expected " ++ enumerate (rules.map Rule.name)
  s!"{pad}--> {line}:{col}\n{pad} |\n{lineStr} | {text}\n{pad} | {under}^---\n{pad} |\n{pad} = {message}"

/-- Reads a whole JSON5 text: one value between blanks and comments. -/
def Tree.parse (text : List Char) : Except String Tree :=
  let s := text.toArray
  match value s (2 * s.size + 4) {} (skip s 0) with
  | (some (r, v), t) =>
    match endOfInput s t (skip s r) with
    | (some _, _) => .ok v
    | (none, t) => .error (faultText s t)
  | (none, t) => .error (faultText s t)

/-! ## Values -/

def isHexText (cs : List Char) : Bool :=
  2 < cs.length && (cs.take 2 == ['0', 'x'] || cs.take 2 == ['0', 'X'])

def integerOf? (cs : List Char) : Option Int :=
  let (neg, ds) := match cs with
    | '-' :: r => (true, r)
    | '+' :: r => (false, r)
    | r => (false, r)
  if ds.isEmpty then none
  else
    (ds.foldlM (fun (v : Nat) (c : Char) =>
      if c.isDigit then some (v * 10 + (c.toNat - '0'.toNat)) else none) 0).bind
      fun v =>
        let i : Int := if neg then -(v : Int) else v
        if -Int.pow 2 63 ≤ i && i < Int.pow 2 63 then some i else none

def hexOf? (cs : List Char) : Option Nat :=
  let ds := match cs with
    | '+' :: r => r
    | r => r
  if ds.isEmpty then none
  else (ds.foldlM (fun (v : Nat) (c : Char) => (hexValue? c).map (v * 16 + ·)) 0).bind fun v =>
    if v < Nat.pow 2 32 then some v else none

/-- A number's value. A text with no point, that is hexadecimal or has no exponent, and that is
not `Infinity`, `-Infinity`, `NaN` or `-NaN`, is an integer: hexadecimal ones must fit in 32
bits, decimal ones in 64 signed bits. Any other text is a double, and one too large for a double
is a fault. -/
def numberValue (text : String) : Except String Value :=
  let cs := text.toList
  let infinite := text == "Infinity" || text == "-Infinity"
  let nan := text == "NaN" || text == "-NaN"
  let isInt := !cs.contains '.' && (isHexText cs || (!cs.contains 'e' && !cs.contains 'E')) &&
    !infinite && !nan
  if isInt then
    if isHexText cs then
      match hexOf? (cs.drop 2) with
      | some v => .ok (.int v)
      | none => .error "error parsing hex"
    else
      match integerOf? cs with
      | some i => .ok (.int i)
      | none => .error "error parsing integer"
  else if text == "Infinity" then .ok (.float (.infinite false))
  else if text == "-Infinity" then .ok (.float (.infinite true))
  else if nan then .ok (.float .nan)
  else
    match Binary64.parse? cs with
    | some f => if f.isFinite then .ok (.float f) else .error "error parsing number: too large"
    | none => .error "error parsing number"

mutual

def Tree.toValue : Tree → Except String Value
  | .null => .ok .nil
  | .bool b => .ok (.bool b)
  | .number text => numberValue text
  | .string text => text.map Value.str
  | .array items => return .array (← Tree.itemValues items)
  | .object members => return .table (← Tree.memberValues members [])

def Tree.itemValues : List Tree → Except String (List Value)
  | [] => .ok []
  | v :: rest => return (← v.toValue) :: (← Tree.itemValues rest)

def Tree.memberValues : List (Except String String × Tree) → List (String × Value) →
    Except String (List (String × Value))
  | [], acc => .ok acc
  | (k, v) :: rest, acc => do
    let key ← k
    Tree.memberValues rest (setKey acc key (← v.toValue))

end

/-- The configuration table of a JSON5 text from the file `uri`; a top value that is not an
object is a fault that names it. -/
def readTable (uri : String) (text : List Char) : Except LoadError (List (String × Value)) :=
  match Tree.parse text with
  | .error m => .error (.message m)
  | .ok tree =>
    match tree.toValue with
    | .error m => .error (.message m)
    | .ok (.table es) => .ok es
    | .ok v => .error (.message s!"invalid type: {v.unexpected}, expected a map in {uri}")

end Json5
end Config
end Obfuscator
