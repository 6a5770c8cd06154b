import Obfuscator.Json.Value
/-!
# Reading JSON text

A reader walks JSON text one character at a time and knows its line (from 1) and its column
(the bytes read since the line began). Faults carry the place where they were found, in one of
two ways: at the reader's place, after the characters it has taken, or at the character it is
looking at, one byte further on. Which of the two a fault uses is part of its definition below.

Blanks between tokens are spaces, tabs, line feeds and carriage returns. Strings may hold any
character but the controls below U+0020, and escapes: the short ones, and `\u` with four
hexadecimal digits, where a surrogate pair joins into one character. A number is an optional
minus, an integer part without leading zeros, and an optional fraction and exponent, each with at
least one digit. An integer within 64 bits, unsigned or negative, is an integer; any other number
is a double. The double is built in steps, each rounded: the digits that fit 64 bits are the
significand, later digits of the integer part scale it by ten each, and the significand is then
multiplied or divided by a power of ten (`scaleByTen`). Nesting goes at most 127 levels deep.
-/

namespace Obfuscator
namespace Json

/-- What can be wrong in JSON text. -/
inductive Fault where
  | eofWhileParsingList
  | eofWhileParsingObject
  | eofWhileParsingString
  | eofWhileParsingValue
  | expectedColon
  | expectedListCommaOrEnd
  | expectedObjectCommaOrEnd
  | expectedSomeIdent
  | expectedSomeValue
  | invalidEscape
  | invalidNumber
  | numberOutOfRange
  | controlCharacterWhileParsingString
  | keyMustBeAString
  | loneLeadingSurrogateInHexEscape
  | trailingComma
  | trailingCharacters
  | unexpectedEndOfHexEscape
  | recursionLimitExceeded
  deriving DecidableEq, Repr

def Fault.message : Fault → String
  | .eofWhileParsingList => "EOF while parsing a list"
  | .eofWhileParsingObject => "EOF while parsing an object"
  | .eofWhileParsingString => "EOF while parsing a string"
  | .eofWhileParsingValue => "EOF while parsing a value"
  | .expectedColon => "expected `:`"
  | .expectedListCommaOrEnd => "expected `,` or `]`"
  | .expectedObjectCommaOrEnd => "expected `,` or `\x7d`"
  | .expectedSomeIdent => "expected ident"
  | .expectedSomeValue => "expected value"
  | .invalidEscape => "invalid escape"
  | .invalidNumber => "invalid number"
  | .numberOutOfRange => "number out of range"
  | .controlCharacterWhileParsingString =>
    "control character (\\u0000-\\u001F) found while parsing a string"
  | .keyMustBeAString => "key must be a string"
  | .loneLeadingSurrogateInHexEscape => "lone leading surrogate in hex escape"
  | .trailingComma => "trailing comma"
  | .trailingCharacters => "trailing characters"
  | .unexpectedEndOfHexEscape => "unexpected end of hex escape"
  | .recursionLimitExceeded => "recursion limit exceeded"

/-- A place in a text: the line from 1 and the column in bytes from 0. -/
structure Place where
  line : Nat
  column : Nat
  deriving DecidableEq, Repr

/-- A fault in reading, or in turning what was read into a value of some type, with the place
where it was found when there is one. -/
structure Error where
  message : String
  place : Option Place := none
  deriving DecidableEq, Repr

def Error.text (e : Error) : String :=
  match e.place with
  | some p => s!"{e.message} at line {p.line} column {p.column}"
  | none => e.message

/-- A reader: the text not yet read, and the place it starts at. -/
structure Cursor where
  rest : List Char
  line : Nat := 1
  column : Nat := 0

namespace Cursor

def ofText (cs : List Char) : Cursor := { rest := cs }

def peek (c : Cursor) : Option Char := c.rest.head?

def advance (c : Cursor) : Cursor :=
  match c.rest with
  | [] => c
  | ch :: rest =>
    if ch = '\n' then { rest, line := c.line + 1, column := 0 }
    else { rest, line := c.line, column := c.column + ch.utf8Size }

def place (c : Cursor) : Place := ⟨c.line, c.column⟩

def peekPlace (c : Cursor) : Place :=
  match c.rest with
  | [] => ⟨c.line, c.column⟩
  | ch :: _ => if ch = '\n' then ⟨c.line + 1, 0⟩ else ⟨c.line, c.column + 1⟩

def fault {α : Type} (c : Cursor) (f : Fault) : Except Error α :=
  .error { message := f.message, place := some c.place }

def peekFault {α : Type} (c : Cursor) (f : Fault) : Except Error α :=
  .error { message := f.message, place := some c.peekPlace }

def isBlank (ch : Char) : Bool := ch == ' ' || ch == '\n' || ch == '\t' || ch == '\r'

def skipBlanks (c : Cursor) : Cursor :=
  go c.rest.length c
where
  go : Nat → Cursor → Cursor
    | 0, c => c
    | n + 1, c =>
      match c.peek with
      | some ch => if isBlank ch then go n c.advance else c
      | none => c

def expectWord (c : Cursor) : List Char → Except Error Cursor
  | [] => .ok c
  | w :: ws =>
    match c.peek with
    | none => c.fault .eofWhileParsingValue
    | some ch => if ch = w then expectWord c.advance ws else c.advance.fault .expectedSomeIdent

end Cursor

def hexValue? (c : Char) : Option Nat :=
  if '0' ≤ c && c ≤ '9' then some (c.toNat - 48)
  else if 'a' ≤ c && c ≤ 'f' then some (c.toNat - 87)
  else if 'A' ≤ c && c ≤ 'F' then some (c.toNat - 55)
  else none

def readHex4 (c : Cursor) : Except Error (Nat × Cursor) :=
  match c.rest with
  | a :: b :: d :: e :: _ =>
    let c' := c.advance.advance.advance.advance
    match hexValue? a, hexValue? b, hexValue? d, hexValue? e with
    | some va, some vb, some vd, some ve => .ok (((va * 16 + vb) * 16 + vd) * 16 + ve, c')
    | _, _, _, _ => c'.fault .invalidEscape
  | rest =>
    let c' := rest.foldl (fun c _ => c.advance) c
    c'.fault .eofWhileParsingString

def readUnicodeEscape (c : Cursor) : Except Error (Char × Cursor) := do
  let (n, c) ← readHex4 c
  if 0xDC00 ≤ n && n ≤ 0xDFFF then c.fault .loneLeadingSurrogateInHexEscape
  else if n < 0xD800 || 0xDBFF < n then .ok (Char.ofNat n, c)
  else
    match c.peek with
    | none => c.peekFault .eofWhileParsingString
    | some '\\' =>
      let c := c.advance
      match c.peek with
      | none => c.peekFault .eofWhileParsingString
      | some 'u' =>
        let (n2, c) ← readHex4 c.advance
        if n2 < 0xDC00 || 0xDFFF < n2 then c.fault .loneLeadingSurrogateInHexEscape
        else .ok (Char.ofNat (((n - 0xD800) * 1024 + (n2 - 0xDC00)) + 0x10000), c)
      | some _ => c.advance.fault .unexpectedEndOfHexEscape
    | some _ => c.advance.fault .unexpectedEndOfHexEscape

def readEscape (c : Cursor) : Except Error (Char × Cursor) :=
  match c.peek with
  | none => c.fault .eofWhileParsingString
  | some ch =>
    let c' := c.advance
    match ch with
    | '"' => .ok ('"', c')
    | '\\' => .ok ('\\', c')
    | '/' => .ok ('/', c')
    | 'b' => .ok ('\x08', c')
    | 'f' => .ok ('\x0c', c')
    | 'n' => .ok ('\n', c')
    | 'r' => .ok ('\r', c')
    | 't' => .ok ('\t', c')
    | 'u' => readUnicodeEscape c'
    | _ => c'.fault .invalidEscape

def readStringChars : Nat → Cursor → List Char → Except Error (String × Cursor)
  | 0, c, _ => c.fault .eofWhileParsingString
  | fuel + 1, c, acc =>
    match c.peek with
    | none => c.fault .eofWhileParsingString
    | some '"' => .ok (String.ofList acc.reverse, c.advance)
    | some '\\' => do
      let (ch, c') ← readEscape c.advance
      readStringChars fuel c' (ch :: acc)
    | some ch =>
      if ch.toNat < 0x20 then c.advance.fault .controlCharacterWhileParsingString
      else readStringChars fuel c.advance (ch :: acc)

def readString (c : Cursor) : Except Error (String × Cursor) :=
  readStringChars (c.rest.length + 1) c []

def takeDigits (c : Cursor) : List Char × Cursor :=
  let ds := c.rest.takeWhile Char.isDigit
  (ds, ds.foldl (fun c _ => c.advance) c)

def digitsValue (ds : List Char) : Nat := ds.foldl (fun n d => n * 10 + (d.toNat - 48)) 0

def maxSignificand : Nat := Nat.pow 2 64 - 1

def maxExponent : Nat := Nat.pow 2 31 - 1

def clampExponent (e : Int) : Int := max (-Int.pow 2 31) (min e maxExponent)

def powerOfTen (i : Nat) : Binary64 := Binary64.ofDecimal false 1 i

/-- A double scaled by `10 ^ e` as the reader scales it: multiplied by the double nearest to the
power of ten, or divided by it, each step rounded; an exponent below -308 first divides by
`10 ^ 308` as often as needed. None when the product overflows, or when the exponent is above
308 and the double is not zero. -/
def scaleByTen (f : Binary64) (e : Int) : Option Binary64 :=
  if 0 ≤ e then
    if e ≤ 308 then
      let r := f.mul (powerOfTen e.toNat)
      if r.isInfinite then none else some r
    else if f.isZero then some f else none
  else if -308 ≤ e then some (f.div (powerOfTen (-e).toNat))
  else if f.isZero then some f
  else scaleByTen (f.div (powerOfTen 308)) (e + 308)
termination_by (-e).toNat
decreasing_by omega

def floatOfParts (positive : Bool) (significand : Nat) (e : Int) (c : Cursor) :
    Except Error (Number × Cursor) :=
  match scaleByTen (Binary64.ofNat significand) e with
  | some f => .ok (.float (if positive then f else f.neg), c)
  | none => c.fault .numberOutOfRange

def takeSignificand : Nat → Cursor → Nat → Nat → Nat × Nat × Bool × Cursor
  | 0, c, sig, n => (sig, n, false, c)
  | fuel + 1, c, sig, n =>
    match c.peek with
    | some ch =>
      if ch.isDigit then
        let d := ch.toNat - 48
        if maxSignificand < sig * 10 + d then (sig, n, true, c)
        else takeSignificand fuel c.advance (sig * 10 + d) (n + 1)
      else (sig, n, false, c)
    | none => (sig, n, false, c)

def takeExponent : Nat → Cursor → Nat → Option Nat × Cursor
  | 0, c, x => (some x, c)
  | fuel + 1, c, x =>
    match c.peek with
    | some ch =>
      if ch.isDigit then
        let d := ch.toNat - 48
        if maxExponent < x * 10 + d then (none, c.advance)
        else takeExponent fuel c.advance (x * 10 + d)
      else (some x, c)
    | none => (some x, c)

def readExponent (positive : Bool) (significand : Nat) (e : Int) (c : Cursor) :
    Except Error (Number × Cursor) :=
  let c := c.advance
  let (expPositive, c) :=
    match c.peek with
    | some '+' => (true, c.advance)
    | some '-' => (false, c.advance)
    | _ => (true, c)
  match c.peek with
  | none => c.fault .eofWhileParsingValue
  | some ch =>
    if ch.isDigit then
      match takeExponent c.rest.length c.advance (ch.toNat - 48) with
      | (some x, c) =>
        floatOfParts positive significand (clampExponent (if expPositive then e + x else e - x)) c
      | (none, c) =>
        if significand != 0 && expPositive then c.fault .numberOutOfRange
        else .ok (.float (.finite (!positive) 0), (takeDigits c).2)
    else c.advance.fault .invalidNumber

def readFraction (positive : Bool) (significand : Nat) (e : Int) (c : Cursor) :
    Except Error (Number × Cursor) :=
  let c := c.advance
  let (sig, n, overflowed, c) := takeSignificand c.rest.length c significand 0
  let tail := fun (c : Cursor) =>
    match c.peek with
    | some 'e' | some 'E' => readExponent positive sig (e - n) c
    | _ => floatOfParts positive sig (e - n) c
  if overflowed then tail (takeDigits c).2
  else if n = 0 then
    match c.peek with
    | some _ => c.peekFault .invalidNumber
    | none => c.peekFault .eofWhileParsingValue
  else tail c

/-- Reads what follows the integer part of a number. An integer is unsigned, or negative within
64 signed bits; a negative zero and other negative integers are floats. -/
def readNumberTail (positive : Bool) (sig : Nat) (c : Cursor) : Except Error (Number × Cursor) :=
  match c.peek with
  | some '.' => readFraction positive sig 0 c
  | some 'e' | some 'E' => readExponent positive sig 0 c
  | _ =>
    if positive then .ok (.nat sig, c)
    else if sig = 0 then .ok (.float (.finite true 0), c)
    else if sig ≤ Nat.pow 2 63 then .ok (.neg (-(sig : Int)), c)
    else .ok (.float (Binary64.ofNat sig).neg, c)

/-- Reads the integer part of a number and what follows, the sign already taken. Digits beyond
what 64 bits hold scale the significand by ten each. -/
def readInteger (positive : Bool) (c : Cursor) : Except Error (Number × Cursor) :=
  match c.peek with
  | none => c.fault .eofWhileParsingValue
  | some '0' =>
    let c := c.advance
    match c.peek with
    | some ch => if ch.isDigit then c.peekFault .invalidNumber else readNumberTail positive 0 c
    | none => readNumberTail positive 0 c
  | some ch =>
    if ch.isDigit then
      let (sig, _, overflowed, c) := takeSignificand c.rest.length c 0 0
      if overflowed then
        let (ds, c) := takeDigits c
        match c.peek with
        | some '.' => readFraction positive sig ds.length c
        | some 'e' | some 'E' => readExponent positive sig ds.length c
        | _ => floatOfParts positive sig ds.length c
      else readNumberTail positive sig c
    else c.advance.fault .invalidNumber

def readNumber (c : Cursor) : Except Error (Number × Cursor) :=
  match c.peek with
  | some '-' => readInteger false c.advance
  | _ => readInteger true c

def maxDepth : Nat := 128

mutual
/-- Reads a value; `depth` counts the containers around it. -/
def readValue : Nat → Nat → Cursor → Except Error (Json × Cursor)
  | 0, _, c => c.peekFault .recursionLimitExceeded
  | fuel + 1, depth, c =>
    let c := c.skipBlanks
    match c.peek with
    | none => c.peekFault .eofWhileParsingValue
    | some 'n' => do let c ← c.advance.expectWord "ull".toList; pure (.null, c)
    | some 't' => do let c ← c.advance.expectWord "rue".toList; pure (.bool true, c)
    | some 'f' => do let c ← c.advance.expectWord "alse".toList; pure (.bool false, c)
    | some '"' => do let (s, c) ← readString c.advance; pure (.str s, c)
    | some '[' =>
      if depth + 1 ≥ maxDepth then c.peekFault .recursionLimitExceeded
      else do
        let (items, c) ← readItems fuel (depth + 1) c.advance true []
        pure (.arr items, c)
    | some '\x7b' =>
      if depth + 1 ≥ maxDepth then c.peekFault .recursionLimitExceeded
      else do
        let (members, c) ← readMembers fuel (depth + 1) c.advance true []
        pure (.obj members, c)
    | some ch =>
      if ch == '-' || ch.isDigit then do
        let (n, c) ← readNumber c
        pure (.num n, c)
      else c.peekFault .expectedSomeValue

def readItems : Nat → Nat → Cursor → Bool → List Json → Except Error (List Json × Cursor)
  | 0, _, c, _, _ => c.peekFault .recursionLimitExceeded
  | fuel + 1, depth, c, first, acc =>
    let c := c.skipBlanks
    match c.peek with
    | none => c.peekFault .eofWhileParsingList
    | some ']' => .ok (acc.reverse, c.advance)
    | some ',' =>
      if first then c.peekFault .expectedSomeValue
      else
        let c := c.advance.skipBlanks
        match c.peek with
        | some ']' => c.peekFault .trailingComma
        | none => c.peekFault .eofWhileParsingValue
        | some _ => do
          let (v, c) ← readValue fuel depth c
          readItems fuel depth c false (v :: acc)
    | some _ =>
      if first then do
        let (v, c) ← readValue fuel depth c
        readItems fuel depth c false (v :: acc)
      else c.peekFault .expectedListCommaOrEnd

def readMembers : Nat → Nat → Cursor → Bool → List (String × Json) →
    Except Error (List (String × Json) × Cursor)
  | 0, _, c, _, _ => c.peekFault .recursionLimitExceeded
  | fuel + 1, depth, c, first, acc =>
    let c := c.skipBlanks
    match c.peek with
    | none => c.peekFault .eofWhileParsingObject
    | some '\x7d' => .ok (acc.reverse, c.advance)
    | some ch =>
      if ch == ',' && first then c.peekFault .keyMustBeAString
      else if ch != ',' && !first then c.peekFault .expectedObjectCommaOrEnd
      else
        let c := if ch == ',' then c.advance.skipBlanks else c
        match c.peek with
        | none => c.peekFault .eofWhileParsingValue
        | some '\x7d' => c.peekFault .trailingComma
        | some '"' => do
          let (k, c) ← readString c.advance
          let c := c.skipBlanks
          match c.peek with
          | some ':' => do
            let (v, c) ← readValue fuel depth c.advance
            readMembers fuel depth c false ((k, v) :: acc)
          | some _ => c.peekFault .expectedColon
          | none => c.peekFault .eofWhileParsingObject
        | some _ => c.peekFault .keyMustBeAString
end

def skipStringChars : Nat → Cursor → Except Error Cursor
  | 0, c => c.fault .eofWhileParsingString
  | fuel + 1, c =>
    match c.peek with
    | none => c.fault .eofWhileParsingString
    | some '"' => .ok c.advance
    | some '\\' =>
      let c := c.advance
      match c.peek with
      | none => c.fault .eofWhileParsingString
      | some ch =>
        let c := c.advance
        if "\"\\/bfnrt".toList.contains ch then skipStringChars fuel c
        else if ch == 'u' then do
          let (_, c) ← readHex4 c
          skipStringChars fuel c
        else c.fault .invalidEscape
    | some ch =>
      if ch.toNat < 0x20 then c.fault .controlCharacterWhileParsingString
      else skipStringChars fuel c.advance

def skipExponent (c : Cursor) : Except Error Cursor :=
  let c := c.advance
  let c := match c.peek with
    | some '+' | some '-' => c.advance
    | _ => c
  match c.peek with
  | some ch => if ch.isDigit then .ok (takeDigits c).2 else c.advance.fault .invalidNumber
  | none => c.fault .invalidNumber

def skipNumberTail (c : Cursor) : Except Error Cursor :=
  match c.peek with
  | some '.' =>
    let (ds, c) := takeDigits c.advance
    if ds.isEmpty then c.peekFault .invalidNumber
    else
      match c.peek with
      | some 'e' | some 'E' => skipExponent c
      | _ => .ok c
  | some 'e' | some 'E' => skipExponent c
  | _ => .ok c

def skipInteger (c : Cursor) : Except Error Cursor :=
  match c.peek with
  | some '0' =>
    let c := c.advance
    match c.peek with
    | some ch => if ch.isDigit then c.peekFault .invalidNumber else skipNumberTail c
    | none => skipNumberTail c
  | some ch => if ch.isDigit then skipNumberTail (takeDigits c).2 else c.advance.fault .invalidNumber
  | none => c.fault .invalidNumber

def skipScalar (c : Cursor) : Except Error Cursor :=
  match c.peek with
  | some 'n' => c.advance.expectWord "ull".toList
  | some 't' => c.advance.expectWord "rue".toList
  | some 'f' => c.advance.expectWord "alse".toList
  | some '-' => skipInteger c.advance
  | some '"' => skipStringChars (c.rest.length + 1) c.advance
  | some ch => if ch.isDigit then skipInteger c else c.peekFault .expectedSomeValue
  | none => c.peekFault .eofWhileParsingValue

mutual
def skipNested : Nat → Cursor → List Char → Except Error Cursor
  | 0, c, _ => c.peekFault .recursionLimitExceeded
  | fuel + 1, c, frames =>
    let c := c.skipBlanks
    match c.peek with
    | none => c.peekFault .eofWhileParsingValue
    | some ch =>
      if ch == '[' || ch == '\x7b' then skipClosing fuel c.advance (ch :: frames) false
      else do
        let c ← skipScalar c
        match frames with
        | [] => pure c
        | _ => skipClosing fuel c frames true

def skipClosing : Nat → Cursor → List Char → Bool → Except Error Cursor
  | 0, c, _, _ => c.peekFault .recursionLimitExceeded
  | _, c, [], _ => .ok c
  | fuel + 1, c, frame :: outer, afterItem =>
    let c := c.skipBlanks
    let closes := fun ch => (ch == ']' && frame == '[') || (ch == '\x7d' && frame == '\x7b')
    match c.peek with
    | none => c.peekFault (if frame == '[' then .eofWhileParsingList else .eofWhileParsingObject)
    | some ch =>
      if ch == ',' && afterItem then skipNext fuel c.advance (frame :: outer)
      else if closes ch then
        match outer with
        | [] => .ok c.advance
        | _ => skipClosing fuel c.advance outer true
      else if afterItem then
        c.peekFault (if frame == '[' then .expectedListCommaOrEnd else .expectedObjectCommaOrEnd)
      else skipNext fuel c (frame :: outer)

def skipNext : Nat → Cursor → List Char → Except Error Cursor
  | 0, c, _ => c.peekFault .recursionLimitExceeded
  | fuel + 1, c, frames =>
    if frames.head? == some '\x7b' then
      let c := c.skipBlanks
      match c.peek with
      | some '"' => do
        let c ← skipStringChars (c.rest.length + 1) c.advance
        let c := c.skipBlanks
        match c.peek with
        | some ':' => skipNested fuel c.advance frames
        | some _ => c.peekFault .expectedColon
        | none => c.peekFault .eofWhileParsingObject
      | some _ => c.peekFault .keyMustBeAString
      | none => c.peekFault .eofWhileParsingObject
    else skipNested fuel c frames
end

/-- Skips one value of any kind, checking only its form. -/
def skipValue (c : Cursor) : Except Error Cursor := skipNested (4 * c.rest.length + 4) c []

/-- Reads a whole text as one value, with nothing but blanks after it. -/
def parse (text : List Char) : Except Error Json := do
  let c := Cursor.ofText text
  let (v, c) ← readValue (2 * text.length + 2) 0 c
  let c := c.skipBlanks
  match c.peek with
  | none => pure v
  | some _ => c.peekFault .trailingCharacters

end Json
end Obfuscator
