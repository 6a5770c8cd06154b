import Obfuscator.Number.Binary64
import Obfuscator.Toml.Datetime
import Obfuscator.Text.Utf8
/-!
# Reading TOML

TOML text is read in two stages. A lexer cuts it into tokens: blanks, line breaks (LF or CR
LF), comments, the punctuation `= . , : + { } [ ]`, bare words of letters, digits, `-` and `_`,
and strings, basic (`"…"`, with escapes) or literal (`'…'`), each on one line or, tripled,
over several. A reader then takes lines: a table header `[a.b]` or `[[a.b]]`, or `key = value`
with a possibly dotted key, each ended by a comment, a line break or the end.

Values are strings, integers (decimal with an optional sign, or `0x`, `0o`, `0b`, with single
underscores between digits, no leading zeros), floats (`1.5`, `1e3`, `inf`, `nan`), booleans,
dates and times, arrays and inline tables. A date or time is first taken as tokens: a word, then
after a single space another word, then the colon-separated parts of a time with its fraction
and offset; its text is checked as a date-time only when the document is assembled.

The lines give a list of tables: the values before the first header, when there are any, then
one table for each header, with the values of the lines under it. Dotted keys build tables
among those values as they are read; the tables of headers are assembled later (see
`Toml.Document`).

Faults tell their place as a line and a column counted in bytes, both from one. Faults of form
are found line by line; keys and tables defined twice, and dates that are no date-times, are
found when the document is assembled, and name the keys that lead to them.
-/

namespace Obfuscator
namespace Toml

/-- A TOML value. A date-time keeps its text. -/
inductive Value where
  | str (s : String)
  | int (i : Int)
  | float (f : Binary64)
  | bool (b : Bool)
  | datetime (text : String)
  | array (items : List Value)
  | table (entries : List (String × Value))
  deriving Inhabited, Repr

/-- What can be wrong in TOML text. -/
inductive Fault where
  | unexpectedEof
  | invalidCharInString (c : Char)
  | invalidEscape (c : Char)
  | invalidHexEscape (c : Char)
  | invalidEscapeValue (v : Nat)
  | newlineInString
  | unexpected (c : Char)
  | unterminatedString
  | wanted (expected found : String)
  | numberInvalid
  | dateInvalid
  | datetimeInvalid
  | duplicateTable (name : String)
  | redefineAsArray
  | multilineStringKey
  | dottedKeyInvalidType
  | unquotedString
  | duplicateKey (key : String)
  | invalidType (unexpected expected : String)
  deriving Inhabited, Repr

/-- A character as the standard library escapes it by default: ASCII printable characters but
quotes and backslash stand for themselves, tab, CR and LF have short escapes, all else is
`\u{…}` in hexadecimal. -/
def escapeDefault (c : Char) : String :=
  if c == '\t' then "\\t"
  else if c == '\r' then "\\r"
  else if c == '\n' then "\\n"
  else if c == '\\' then "\\\\"
  else if c == '\'' then "\\'"
  else if c == '"' then "\\\""
  else if 0x20 ≤ c.toNat && c.toNat < 0x7F then c.toString
  else "\\u\x7b" ++ String.ofList (Nat.toDigits 16 c.toNat) ++ "\x7d"

def Fault.message : Fault → String
  | .unexpectedEof => "unexpected eof encountered"
  | .invalidCharInString c => s!"invalid character in string: `{escapeDefault c}`"
  | .invalidEscape c => s!"invalid escape character in string: `{escapeDefault c}`"
  | .invalidHexEscape c => s!"invalid hex escape character in string: `{escapeDefault c}`"
  | .invalidEscapeValue v => s!"invalid escape value: `{v}`"
  | .newlineInString => "newline in string found"
  | .unexpected c => s!"unexpected character found: `{escapeDefault c}`"
  | .unterminatedString => "unterminated string"
  | .wanted e f => s!"expected {e}, found {f}"
  | .numberInvalid => "invalid number"
  | .dateInvalid => "invalid date"
  | .datetimeInvalid => "failed to parse datetime"
  | .duplicateTable name => s!"redefinition of table `{name}`"
  | .redefineAsArray => "table redefined as array"
  | .multilineStringKey => "multiline strings are not allowed for key"
  | .dottedKeyInvalidType => "dotted key attempted to extend non-table type"
  | .unquotedString => "invalid TOML value, did you mean to use a quoted string?"
  | .duplicateKey k => s!"duplicate key: `{k}`"
  | .invalidType u e => s!"invalid type: {u}, expected {e}"

/-- A fault, the keys that lead to the value it concerns, outermost first, and its byte
offset. A fault found while a document is assembled may have no offset of its own; it takes
the offset of the value or the table being read where it is found. -/
structure Error where
  fault : Fault
  keys : List String := []
  offset : Option Nat
  deriving Inhabited, Repr

/-- The line and byte column of an offset, both from zero; past the last line, the line after
it. -/
def lineColumn (text : List Char) (offset : Nat) : Nat × Nat :=
  go ((String.ofList text).splitOn "\n") 0 0
where
  go : List String → Nat → Nat → Nat × Nat
    | [], i, _ => (i, 0)
    | l :: ls, i, cur =>
      let len := l.utf8ByteSize
      if cur + len + 1 > offset then (i, offset - cur) else go ls (i + 1) (cur + len + 1)

def Error.text (text : List Char) (e : Error) : String :=
  let keyPart := if e.keys.isEmpty then "" else " for key `" ++ ".".intercalate e.keys ++ "`"
  let place := match e.offset with
    | some o =>
      let (l, c) := lineColumn text o
      s!" at line {l + 1} column {c + 1}"
    | none => ""
  e.fault.message ++ keyPart ++ place

/-! ## Tokens -/

/-- The tokens of TOML text. -/
inductive Token where
  | whitespace
  | newline
  | comment
  | equals
  | period
  | comma
  | colon
  | plus
  | leftBrace
  | rightBrace
  | leftBracket
  | rightBracket
  | keylike (text : String)
  | string (value : String) (multiline : Bool)
  deriving Inhabited, Repr, DecidableEq

def Token.describe : Token → String
  | .keylike _ => "an identifier"
  | .equals => "an equals"
  | .period => "a period"
  | .comment => "a comment"
  | .newline => "a newline"
  | .whitespace => "whitespace"
  | .comma => "a comma"
  | .rightBrace => "a right brace"
  | .leftBrace => "a left brace"
  | .rightBracket => "a right bracket"
  | .leftBracket => "a left bracket"
  | .string _ m => if m then "a multiline string" else "a string"
  | .colon => "a colon"
  | .plus => "a plus"

def isKeylike (c : Char) : Bool := c.isAlphanum || c == '-' || c == '_'

def isStringChar (c : Char) : Bool := c == '\t' || (0x20 ≤ c.toNat && c.toNat != 0x7F)

/-- The text still to cut, and its byte offset. -/
structure Lexer where
  rest : List Char
  offset : Nat := 0
  deriving Inhabited

def fault {α : Type} (at_ : Nat) (f : Fault) : Except Error α :=
  .error { fault := f, offset := some at_ }

namespace Lexer

def one (lx : Lexer) : Option (Nat × Char × Lexer) :=
  match lx.rest with
  | '\r' :: '\n' :: r => some (lx.offset, '\n', { rest := r, offset := lx.offset + 2 })
  | c :: r => some (lx.offset, c, { rest := r, offset := lx.offset + c.utf8Size })
  | [] => none

def nextIs (lx : Lexer) (c : Char) : Bool :=
  match lx.one with
  | some (_, d, _) => d == c
  | none => false

def skip (lx : Lexer) : Lexer :=
  match lx.one with
  | some (_, _, l) => l
  | none => lx

def skipWhileFuel (p : Char → Bool) : Nat → Lexer → Lexer
  | 0, lx => lx
  | n + 1, lx =>
    match lx.one with
    | some (_, c, l) => if p c then skipWhileFuel p n l else lx
    | none => lx

def skipWhile (p : Char → Bool) (lx : Lexer) : Lexer := skipWhileFuel p (lx.rest.length + 1) lx

def readWhileFuel (p : Char → Bool) : Nat → Lexer → List Char → List Char × Lexer
  | 0, lx, acc => (acc.reverse, lx)
  | n + 1, lx, acc =>
    match lx.one with
    | some (_, c, l) => if p c then readWhileFuel p n l (c :: acc) else (acc.reverse, lx)
    | none => (acc.reverse, lx)

def readWhile (p : Char → Bool) (lx : Lexer) : List Char × Lexer :=
  readWhileFuel p (lx.rest.length + 1) lx []

def hexDigits (start : Nat) : Nat → Lexer → Nat → Except Error (Nat × Lexer)
  | 0, lx, acc => .ok (acc, lx)
  | n + 1, lx, acc =>
    match lx.one with
    | some (i, c, l) =>
      if c.toNat < 0x80 && (c.isDigit || ('a' ≤ c && c ≤ 'f') || ('A' ≤ c && c ≤ 'F')) then
        let d := if c.isDigit then c.toNat - '0'.toNat
          else if 'a' ≤ c then c.toNat - 'a'.toNat + 10 else c.toNat - 'A'.toNat + 10
        hexDigits start n l (acc * 16 + d)
      else fault i (.invalidHexEscape c)
    | none => fault start .unterminatedString

def lineEndingBackslash (i : Nat) (c : Char) (lx : Lexer) : Except Error Lexer :=
  let afterBlanks : Except Error Lexer :=
    if c == '\n' then .ok lx
    else
      let l := lx.skipWhile fun ch => ch == ' ' || ch == '\t'
      match l.one with
      | some (_, '\n', l2) => .ok l2
      | some _ => fault i (.invalidEscape c)
      | none => .ok l
  afterBlanks.map fun l => l.skipWhile fun ch => ch == ' ' || ch == '\t' || ch == '\n'

def stringBody (basic multiline : Bool) (start : Nat) :
    Nat → Lexer → List Char → Bool → Except Error (String × Lexer)
  | 0, lx, acc, _ => .ok (String.ofList acc.reverse, lx)
  | n + 1, lx, acc, first =>
    let delim := if basic then '"' else '\''
    match lx.one with
    | none => fault start .unterminatedString
    | some (i, c, l) =>
      if c == '\n' then
        if multiline then stringBody basic multiline start n l (if first then acc else '\n' :: acc) false
        else fault i .newlineInString
      else if c == delim then
        if multiline then
          if !l.nextIs delim then stringBody basic multiline start n l (delim :: acc) false
          else if !l.skip.nextIs delim then stringBody basic multiline start n l.skip (delim :: delim :: acc) false
          else
            let l := l.skip.skip
            let (acc, l) := if l.nextIs delim then (delim :: acc, l.skip) else (acc, l)
            let (acc, l) := if l.nextIs delim then (delim :: acc, l.skip) else (acc, l)
            .ok (String.ofList acc.reverse, l)
        else .ok (String.ofList acc.reverse, l)
      else if basic && c == '\\' then
        match l.one with
        | none => fault start .unterminatedString
        | some (j, e, l2) =>
          let simple : Option Char := match e with
            | '"' => some '"'
            | '\\' => some '\\'
            | 'b' => some '\x08'
            | 'f' => some '\x0C'
            | 'n' => some '\n'
            | 'r' => some '\r'
            | 't' => some '\t'
            | _ => none
          match simple with
          | some ch => stringBody basic multiline start n l2 (ch :: acc) false
          | none =>
            if e == 'u' || e == 'U' then do
              let (v, l3) ← hexDigits start (if e == 'u' then 4 else 8) l2 0
              if (0xD800 ≤ v && v ≤ 0xDFFF) || v > 0x10FFFF then fault j (.invalidEscapeValue v)
              else stringBody basic multiline start n l3 (Char.ofNat v :: acc) false
            else if multiline && (e == ' ' || e == '\t' || e == '\n') then do
              let l3 ← lineEndingBackslash j e l2
              stringBody basic multiline start n l3 acc false
            else fault j (.invalidEscape e)
      else if isStringChar c then stringBody basic multiline start n l (c :: acc) false
      else fault i (.invalidCharInString c)

def string (basic : Bool) (start : Nat) (lx : Lexer) : Except Error (Token × Lexer) :=
  let delim := if basic then '"' else '\''
  if lx.nextIs delim then
    let l := lx.skip
    if l.nextIs delim then do
      let (v, l) ← stringBody basic true start (l.skip.rest.length + 1) l.skip [] true
      pure (.string v true, l)
    else .ok (.string "" false, l)
  else do
    let (v, l) ← stringBody basic false start (lx.rest.length + 1) lx [] false
    pure (.string v false, l)

def next (lx : Lexer) : Except Error (Option (Nat × Token) × Lexer) :=
  match lx.one with
  | none => .ok (none, lx)
  | some (start, c, l) =>
    let done := fun (t : Token) (l : Lexer) => Except.ok (some (start, t), l)
    match c with
    | '\n' => done .newline l
    | ' ' | '\t' => done .whitespace (l.skipWhile fun ch => ch == ' ' || ch == '\t')
    | '#' => done .comment (l.skipWhile fun ch => ch == '\t' || 0x20 ≤ ch.toNat)
    | '=' => done .equals l
    | '.' => done .period l
    | ',' => done .comma l
    | ':' => done .colon l
    | '+' => done .plus l
    | '\x7b' => done .leftBrace l
    | '\x7d' => done .rightBrace l
    | '[' => done .leftBracket l
    | ']' => done .rightBracket l
    | '\'' => do let (t, l) ← string false start l; done t l
    | '"' => do let (t, l) ← string true start l; done t l
    | _ =>
      if isKeylike c then
        let (w, l) := l.readWhile isKeylike
        done (.keylike (String.ofList (c :: w))) l
      else fault start (.unexpected c)

def peek (lx : Lexer) : Except Error (Option (Nat × Token)) := (lx.next).map Prod.fst

def eat (lx : Lexer) (t : Token) : Except Error (Bool × Lexer) := do
  match ← lx.next with
  | (some (_, u), l) => if u == t then pure (true, l) else pure (false, lx)
  | (none, _) => pure (false, lx)

def expect (lx : Lexer) (t : Token) : Except Error Lexer := do
  match ← lx.next with
  | (some (at_, u), l) => if u == t then pure l else fault at_ (.wanted t.describe u.describe)
  | (none, _) => fault (lx.offset + Text.byteSize lx.rest) (.wanted t.describe "eof")

def eatWhitespace (lx : Lexer) : Except Error Lexer := do
  let (_, l) ← lx.eat .whitespace
  pure l

def eatComment (lx : Lexer) : Except Error (Bool × Lexer) := do
  let (b, l) ← lx.eat .comment
  if !b then return (false, lx)
  let (_, l) ← l.eat .newline
  pure (true, l)

def eatNewlineOrEof (lx : Lexer) : Except Error Lexer := do
  match ← lx.next with
  | (none, l) => pure l
  | (some (_, .newline), l) => pure l
  | (some (at_, u), _) => fault at_ (.wanted "newline" u.describe)

def endOffset (lx : Lexer) : Nat := lx.offset + Text.byteSize lx.rest

end Lexer

/-! ## Lines -/

/-- A value as read on its line, with the byte offset where it starts. A date-time keeps its
text, to be checked when the document is assembled; an inline table keeps its entries in the
order written, and so does a table that dotted keys build, which starts where the value that
first made it starts. -/
inductive Item where
  | scalar (v : Value) (start : Nat)
  | datetime (text : String) (start : Nat)
  | array (items : List Item) (start : Nat)
  | inline (entries : List (String × Item)) (start : Nat)
  | dotted (entries : List (String × Item)) (start : Nat)
  deriving Inhabited

def Item.start : Item → Nat
  | .scalar _ s => s
  | .datetime _ s => s
  | .array _ s => s
  | .inline _ s => s
  | .dotted _ s => s

abbrev Key := Nat × String

def tableKey (lx : Lexer) : Except Error (Key × Lexer) := do
  match ← lx.next with
  | (some (at_, .keylike k), l) => pure ((at_, k), l)
  | (some (at_, .string v m), l) => if m then fault at_ .multilineStringKey else pure ((at_, v), l)
  | (some (at_, t), _) => fault at_ (.wanted "a table key" t.describe)
  | (none, _) => fault lx.endOffset (.wanted "a table key" "eof")

def dottedRest : Nat → Lexer → List Key → Except Error (List Key × Lexer)
  | 0, lx, acc => .ok (acc.reverse, lx)
  | n + 1, lx, acc => do
    let (b, l) ← lx.eat .period
    if !b then return (acc.reverse, lx)
    let l ← l.eatWhitespace
    let (k, l) ← tableKey l
    let l ← l.eatWhitespace
    dottedRest n l (k :: acc)

def dottedKey (lx : Lexer) : Except Error (List Key × Lexer) := do
  let (k, l) ← tableKey lx
  let l ← l.eatWhitespace
  dottedRest (l.rest.length + 1) l [k]

/-- Adds a value under a dotted key to a table's values. Only the last part of the key is
added as it is, even when it is there already; each part before it goes into the first entry
of its name, a table that dotted keys built, or makes such a table at the end. A part that
reaches any other value is a fault at that value. -/
def addDotted (value : Item) : List Key → List (String × Item) → Except Error (List (String × Item))
  | [], vs => .ok vs
  | [(_, k)], vs => .ok (vs ++ [(k, value)])
  | (_, k) :: rest, vs =>
    match vs.findIdx? (fun e => e.1 == k) with
    | some i =>
      match vs[i]? with
      | some (_, .dotted inner s) => do
        let inner ← addDotted value rest inner
        pure (vs.set i (k, .dotted inner s))
      | some (_, other) => fault other.start .dottedKeyInvalidType
      | none => .ok vs
    | none => do
      let inner ← addDotted value rest []
      pure (vs ++ [(k, .dotted inner value.start)])

def integerPart (allowSign leadingZeros : Bool) (radix : Nat) (s : List Char) (start : Nat) :
    Except Error (List Char × List Char) :=
  go s 0 true false false
where
  isDigitIn (c : Char) : Bool :=
    if radix == 16 then c.isDigit || ('a' ≤ c && c ≤ 'f') || ('A' ≤ c && c ≤ 'F')
    else c.isDigit && c.toNat - '0'.toNat < radix
  go : List Char → Nat → Bool → Bool → Bool → Except Error (List Char × List Char)
    | [], i, first, _, underscore =>
      if first || underscore then fault start .numberInvalid else .ok (s.take i, [])
    | c :: cs, i, first, firstZero, underscore =>
      if i == 0 && (c == '+' || c == '-') && allowSign then go cs (i + 1) first firstZero underscore
      else if c == '0' && first then go cs (i + 1) false true false
      else if isDigitIn c then
        if !first && firstZero && !leadingZeros then fault (start + i) .numberInvalid
        else go cs (i + 1) false firstZero false
      else if c == '_' && first then fault (start + i) .numberInvalid
      else if c == '_' && !underscore then go cs (i + 1) false firstZero true
      else if first || underscore then fault start .numberInvalid
      else .ok (s.take i, c :: cs)

def digitsIn (radix : Nat) (cs : List Char) : Nat :=
  cs.foldl (fun n c =>
    let d := if c.isDigit then c.toNat - '0'.toNat
      else if 'a' ≤ c then c.toNat - 'a'.toNat + 10 else c.toNat - 'A'.toNat + 10
    n * radix + d) 0

def integer (s : List Char) (start : Nat) (radix : Nat) : Except Error Int := do
  let (body, suffix) ← integerPart (radix == 10) (radix != 10) radix s start
  if !suffix.isEmpty then fault start .numberInvalid
  else
    let digits := body.filter (· != '_')
    let (neg, digits) := match digits with
      | '-' :: r => (true, r)
      | '+' :: r => (false, r)
      | r => (false, r)
    if digits.isEmpty then fault start .numberInvalid
    else
      let n := digitsIn radix digits
      let v : Int := if neg then -(n : Int) else n
      if v < -Int.pow 2 63 || v ≥ Int.pow 2 63 then fault start .numberInvalid else pure v

/-- Reads a float from the word `s` at offset `start`: its integral part, the fraction when the
word was cut off at a point (the word after the point, with its offset), and an exponent, which
may continue over a `+` and another word. A fault in a part of a word is placed in that word. -/
def float (s : List Char) (start : Nat) (afterPoint : Option (List Char × Nat)) (lx : Lexer) :
    Except Error (Binary64 × Lexer) := do
  let (integral, suffix) ← integerPart true false 10 s start
  -- the suffix left over, and where the word it ends lies and how long it is
  let (fraction, suffix, word) ← match afterPoint with
    | some (after, afterAt) =>
      if !suffix.isEmpty then fault start .numberInvalid
      else do
        let (a, b) ← integerPart false true 10 after afterAt
        pure (a, b, (afterAt, after.length))
    | none => pure ([], suffix, (start, s.length))
  let (exponent, lx) ← match suffix with
    | [] => pure (none, lx)
    | e :: rest =>
      if e == 'e' || e == 'E' then
        if rest.isEmpty then do
          let (_, l) ← lx.eat .plus
          match ← l.next with
          | (some (wordAt, .keylike w), l2) => do
            let (a, b) ← integerPart false true 10 w.toList wordAt
            if !b.isEmpty then fault start .numberInvalid else pure (some a, l2)
          | _ => fault start .numberInvalid
        else do
          let (a, b) ← integerPart true true 10 rest (word.1 + word.2 - rest.length)
          if !b.isEmpty then fault start .numberInvalid else pure (some a, lx)
      else fault start .numberInvalid
  let clean := fun (cs : List Char) => cs.filter (· != '_')
  let (neg, whole) := match clean integral with
    | '-' :: r => (true, r)
    | '+' :: r => (false, r)
    | r => (false, r)
  let frac := clean fraction
  let expo : Int := match exponent with
    | some e =>
      match clean e with
      | '-' :: r => -(digitsIn 10 r : Int)
      | '+' :: r => digitsIn 10 r
      | r => digitsIn 10 r
    | none => 0
  let f := Binary64.ofDecimal neg (digitsIn 10 (whole ++ frac)) (expo - frac.length)
  if f.isFinite then pure (f, lx) else fault start .numberInvalid

def dateWord (start : Nat) (lx : Lexer) : Except Error Lexer := do
  match ← lx.next with
  | (some (_, .keylike _), l) => pure l
  | _ => fault start .dateInvalid

def datePart (start : Nat) (t : Token) (lx : Lexer) : Except Error Lexer := do
  let (b, l) ← lx.eat t
  if b then dateWord start l else pure lx

def datetime (s : String) (start : Nat) (origin : Lexer) (colonTaken : Bool) (lx : Lexer) :
    Except Error (Item × Lexer) := do
  let lx := match lx.rest with
    | ' ' :: _ =>
      let l1 := lx.skip
      if l1.nextIs ' ' || l1.nextIs '\t' then lx
      else
        match l1.next with
        | .ok (some (_, .keylike _), l2) => l2
        | _ => lx
    | _ => lx
  let (colon, lx) ← if colonTaken then pure (true, lx) else lx.eat .colon
  let lx ← if colon then do
      let l ← dateWord start lx
      let l ← l.expect .colon
      let l ← dateWord start l
      let l ← datePart start .period l
      let l ← datePart start .plus l
      datePart start .colon l
    else pure lx
  let text := s ++ String.ofList (origin.rest.take (origin.rest.length - lx.rest.length))
  pure (.datetime text start, lx)

/-- Reads a number from the word `s` at offset `wordAt`, for a value that starts at `start`
(a sign `+` before the word starts it). A float whose fraction follows a point starts where
its fraction does. -/
def number (s : String) (wordAt start : Nat) (lx : Lexer) : Except Error (Item × Lexer) := do
  let cs := s.toList
  let number := fun (v : Value) (l : Lexer) => Except.ok (Item.scalar v start, l)
  if ['0', 'x'].isPrefixOf cs then
    number (.int (← integer (cs.drop 2) (wordAt + 2) 16)) lx
  else if ['0', 'o'].isPrefixOf cs then
    number (.int (← integer (cs.drop 2) (wordAt + 2) 8)) lx
  else if ['0', 'b'].isPrefixOf cs then
    number (.int (← integer (cs.drop 2) (wordAt + 2) 2)) lx
  else if cs.contains 'e' || cs.contains 'E' then do
    let (f, l) ← float cs wordAt none lx
    number (.float f) l
  else
    let (b, l) ← lx.eat .period
    if b then
      match ← l.next with
      | (some (afterAt, .keylike after), l2) => do
        let (f, l3) ← float cs wordAt (some (after.toList, afterAt)) l2
        pure (.scalar (.float f) afterAt, l3)
      | _ => fault l.offset .numberInvalid
    else if s == "inf" then number (.float (.infinite false)) lx
    else if s == "-inf" then number (.float (.infinite true)) lx
    else if s == "nan" || s == "-nan" then number (.float .nan) lx
    else number (.int (← integer cs wordAt 10)) lx

/-- Reads a number, a date or a time from a word starting at `start`. A word with a `T`, or
with a `-` after its first character that is not the sign of an exponent, or followed by a
colon, is a date or a time. -/
def numberOrDate (s : String) (start : Nat) (lx : Lexer) : Except Error (Item × Lexer) := do
  let cs := s.toList
  let hasDash := decide (cs.length > 1) && (cs.drop 1).contains '-' &&
    decide ((s.splitOn "e-").length ≤ 1) && decide ((s.splitOn "E-").length ≤ 1)
  if cs.contains 'T' || cs.contains 't' || hasDash then datetime s start lx false lx
  else if lx.nextIs ':' then datetime s start lx true lx.skip
  else number s start start lx

def arrayGap : Nat → Lexer → Except Error Lexer
  | 0, lx => .ok lx
  | n + 1, lx => do
    let l ← lx.eatWhitespace
    let (nl, l) ← l.eat .newline
    if nl then arrayGap n l
    else
      let (c, l) ← l.eatComment
      if c then arrayGap n l else pure l

mutual

/-- Reads a value. -/
def value : Nat → Lexer → Except Error (Item × Lexer)
  | 0, lx => fault lx.offset .unexpectedEof
  | n + 1, lx => do
    match ← lx.next with
    | (some (at_, .string v _), l) => pure (.scalar (.str v) at_, l)
    | (some (at_, .keylike "true"), l) => pure (.scalar (.bool true) at_, l)
    | (some (at_, .keylike "false"), l) => pure (.scalar (.bool false) at_, l)
    | (some (at_, .keylike w), l) =>
      if w == "inf" || w == "nan" then numberOrDate w at_ l
      else
        match w.toList.head? with
        | some c =>
          if c == '-' || c.isDigit then numberOrDate w at_ l
          else fault at_ .unquotedString
        | none => fault at_ .unquotedString
    | (some (at_, .plus), l) => do
      match ← l.next with
      | (some (wordAt, .keylike w), l2) => number w wordAt at_ l2
      | _ => fault l.offset .numberInvalid
    | (some (at_, .leftBrace), l) => do
      let (entries, l) ← inlineTable n l
      pure (.inline entries at_, l)
    | (some (at_, .leftBracket), l) => do
      let (items, l) ← array n l []
      pure (.array items at_, l)
    | (some (at_, t), _) => fault at_ (.wanted "a value" t.describe)
    | (none, _) => fault lx.endOffset .unexpectedEof

def array : Nat → Lexer → List Item → Except Error (List Item × Lexer)
  | 0, lx, _ => fault lx.offset .unexpectedEof
  | n + 1, lx, acc => do
    let l ← arrayGap (lx.rest.length + 1) lx
    let (close, l2) ← l.eat .rightBracket
    if close then return (acc.reverse, l2)
    let (v, l) ← value n l
    let l ← arrayGap (l.rest.length + 1) l
    let (comma, l) ← l.eat .comma
    if comma then array n l (v :: acc)
    else
      let l ← arrayGap (l.rest.length + 1) l
      let l ← l.expect .rightBracket
      pure ((v :: acc).reverse, l)

def inlineTable : Nat → Lexer → Except Error (List (String × Item) × Lexer)
  | 0, lx => fault lx.offset .unexpectedEof
  | n + 1, lx => do
    let l ← lx.eatWhitespace
    let (close, l2) ← l.eat .rightBrace
    if close then return ([], l2)
    inlineEntries n l []

def inlineEntries : Nat → Lexer → List (String × Item) →
    Except Error (List (String × Item) × Lexer)
  | 0, lx, _ => fault lx.offset .unexpectedEof
  | n + 1, lx, acc => do
    let (key, l) ← dottedKey lx
    let l ← l.eatWhitespace
    let l ← l.expect .equals
    let l ← l.eatWhitespace
    let (v, l) ← value n l
    let acc ← addDotted v key acc
    let l ← l.eatWhitespace
    let (close, l2) ← l.eat .rightBrace
    if close then return (acc, l2)
    let l ← l.expect .comma
    let l ← l.eatWhitespace
    inlineEntries n l acc

end

/-- A table as its lines give it: where its header stands, its keys, whether it is an
element of an array of tables, and its values; none before the first header when no line
gave a value there. -/
structure TableLines where
  at_ : Nat
  header : List Key
  isArray : Bool
  values : Option (List (String × Item))
  deriving Inhabited

def TableLines.names (t : TableLines) : List String := t.header.map Prod.snd

def headerKeys (isArray : Bool) : Nat → Lexer → List Key → Except Error (List Key × Lexer)
  | 0, lx, acc => .ok (acc.reverse, lx)
  | n + 1, lx, acc => do
    let l ← lx.eatWhitespace
    let (dot, l2) ← l.eat .period
    if acc.isEmpty || dot then
      let l := if acc.isEmpty then l else l2
      let l ← l.eatWhitespace
      let (k, l) ← tableKey l
      headerKeys isArray n l (k :: acc)
    else
      let l ← l.expect .rightBracket
      let l ← if isArray then l.expect .rightBracket else pure l
      let l ← l.eatWhitespace
      let (c, l) ← l.eatComment
      let l ← if c then pure l else l.eatNewlineOrEof
      pure (acc.reverse, l)

def skipEmptyLines : Nat → Lexer → Except Error Lexer
  | 0, lx => .ok lx
  | n + 1, lx => do
    let l ← lx.eatWhitespace
    let (c, l) ← l.eatComment
    if c then return ← skipEmptyLines n l
    let (nl, l) ← l.eat .newline
    if nl then skipEmptyLines n l else pure l

def keepTable (cur : TableLines) (acc : List TableLines) : List TableLines :=
  if !cur.header.isEmpty || cur.values.isSome then acc ++ [cur] else acc

/-- Reads all lines into tables: the values before the first header when there are any, then
one table for each header. -/
def tables : Nat → Lexer → TableLines → List TableLines → Except Error (List TableLines)
  | 0, _, cur, acc => .ok (keepTable cur acc)
  | n + 1, lx, cur, acc => do
    let l ← skipEmptyLines (lx.rest.length + 1) lx
    match ← l.peek with
    | none => pure (keepTable cur acc)
    | some (at_, .leftBracket) =>
      let l := (← l.next).2
      let (isArray, l) ← l.eat .leftBracket
      let (keys, l) ← headerKeys isArray (l.rest.length + 1) l []
      tables n l { at_, header := keys, isArray, values := some [] } (keepTable cur acc)
    | some _ => do
      let (key, l) ← dottedKey l
      let l ← l.eatWhitespace
      let l ← l.expect .equals
      let l ← l.eatWhitespace
      let (v, l) ← value (l.rest.length + 1) l
      let l ← l.eatWhitespace
      let (c, l) ← l.eatComment
      let l ← if c then pure l else l.eatNewlineOrEof
      let values ← addDotted v key (cur.values.getD [])
      tables n l { cur with values := some values } acc

/-- Reads the lines of TOML text into its tables. A byte order mark at the very start is passed
over; offsets still count its three bytes. -/
def tablesOf (text : List Char) : Except Error (List TableLines) :=
  let lx : Lexer := match text with
    | '\uFEFF' :: rest => { rest, offset := 3 }
    | _ => { rest := text }
  tables (text.length + 1) lx { at_ := 0, header := [], isArray := false, values := none } []

end Toml
end Obfuscator
