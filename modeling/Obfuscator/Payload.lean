import Obfuscator.Text.Utf8
import Obfuscator.Text.Printable
/-!
# Payloads

A payload is the base64 text that stands for a string literal inside a decode expression. The
literal's characters become bytes under a charset, and the bytes become base64.

## Base64

The standard base64 alphabet (`A-Z`, `a-z`, `0-9`, `+`, `/`) with `=` padding. Encoding turns
every three bytes into four symbols and pads the last group. Decoding is strict: the input must
be whole padded groups, the padding must be canonical, and the bits that the last symbol
carries beyond the last byte must be zero.

Decoding reports the first fault it meets, in this order. A lone last byte that is neither a
symbol nor `=` is reported first. Then every group but the last is read from the left, and any
byte outside the alphabet there, `=` included, is an invalid symbol. In the last group, `=` in
its first two places is an invalid symbol, a symbol after `=` makes the first `=` invalid, and
any other byte outside the alphabet is invalid; a last group of fewer than two symbols is an
invalid length, reported with the number of bytes read up to it; symbols and padding that do
not fill four places are invalid padding; and nonzero unused bits make the last symbol invalid.
-/

namespace Obfuscator
namespace Base64

/-- Why a text is not base64. Offsets count bytes from the start of the text. -/
inductive Error where
  | invalidSymbol (byte : UInt8) (offset : Nat)
  | invalidLength (length : Nat)
  | invalidLastSymbol (byte : UInt8) (offset : Nat)
  | invalidPadding
  deriving DecidableEq, Repr

def Error.message : Error → String
  | .invalidSymbol b n => s!"Invalid symbol {b.toNat}, offset {n}."
  | .invalidLength n => s!"Invalid input length: {n}"
  | .invalidLastSymbol b n => s!"Invalid last symbol {b.toNat}, offset {n}."
  | .invalidPadding => "Invalid padding"

def pad : UInt8 := 61

def symbol (v : Nat) : UInt8 :=
  if v < 26 then (65 + v).toUInt8
  else if v < 52 then (97 + v - 26).toUInt8
  else if v < 62 then (48 + v - 52).toUInt8
  else if v == 62 then 43
  else 47

def value? (b : UInt8) : Option Nat :=
  if 65 ≤ b && b ≤ 90 then some (b.toNat - 65)
  else if 97 ≤ b && b ≤ 122 then some (b.toNat - 97 + 26)
  else if 48 ≤ b && b ≤ 57 then some (b.toNat - 48 + 52)
  else if b == 43 then some 62
  else if b == 47 then some 63
  else none

/-- Four symbols for every three bytes, the last group padded with `=`. -/
def encode : List UInt8 → List UInt8
  | [] => []
  | [a] =>
    let n := a.toNat * 65536
    [symbol (n / 262144), symbol (n / 4096 % 64), pad, pad]
  | [a, b] =>
    let n := a.toNat * 65536 + b.toNat * 256
    [symbol (n / 262144), symbol (n / 4096 % 64), symbol (n / 64 % 64), pad]
  | a :: b :: c :: rest =>
    let n := a.toNat * 65536 + b.toNat * 256 + c.toNat
    [symbol (n / 262144), symbol (n / 4096 % 64), symbol (n / 64 % 64), symbol (n % 64)] ++
      encode rest

def valueAt (b : UInt8) (offset : Nat) : Except Error Nat :=
  match value? b with
  | some v => .ok v
  | none => .error (.invalidSymbol b offset)

def decodeGroups : List UInt8 → Nat → Except Error (List UInt8)
  | a :: b :: c :: d :: rest, offset => do
    let va ← valueAt a offset
    let vb ← valueAt b (offset + 1)
    let vc ← valueAt c (offset + 2)
    let vd ← valueAt d (offset + 3)
    let n := va * 262144 + vb * 4096 + vc * 64 + vd
    let tail ← decodeGroups rest (offset + 4)
    pure ([(n / 65536).toUInt8, (n / 256 % 256).toUInt8, (n % 256).toUInt8] ++ tail)
  | _, _ => pure []

/-- What has been read of the last group: its symbol values, the last symbol with its place,
and the place of the first `=` if one has been seen. -/
structure LastGroup where
  values : List Nat := []
  last : UInt8 := 0
  firstPad : Option Nat := none
  pads : Nat := 0

def readLast (start : Nat) : List UInt8 → Nat → LastGroup → Except Error LastGroup
  | [], _, g => .ok g
  | b :: rest, place, g =>
    if b == pad then
      if place < 2 then .error (.invalidSymbol b (start + place))
      else
        readLast start rest (place + 1)
          { g with pads := g.pads + 1, firstPad := g.firstPad <|> some place }
    else
      match g.firstPad with
      | some p => .error (.invalidSymbol pad (start + p))
      | none =>
        match value? b with
        | none => .error (.invalidSymbol b (start + place))
        | some v => readLast start rest (place + 1) { g with values := g.values ++ [v], last := b }

def lastBytes : List Nat → Option (List UInt8)
  | [a, b] => if b % 16 == 0 then some [(a * 4 + b / 16).toUInt8] else none
  | [a, b, c] =>
    if c % 4 == 0 then some [(a * 4 + b / 16).toUInt8, ((b % 16) * 16 + c / 4).toUInt8]
    else none
  | [a, b, c, d] =>
    let n := a * 262144 + b * 4096 + c * 64 + d
    some [(n / 65536).toUInt8, (n / 256 % 256).toUInt8, (n % 256).toUInt8]
  | _ => none

def decodeLast (start : Nat) (group : List UInt8) (nonEmpty : Bool) :
    Except Error (List UInt8) := do
  let g ← readLast start group 0 {}
  if nonEmpty && g.values.length < 2 then throw (.invalidLength (start + g.values.length))
  if (g.pads + g.values.length) % 4 != 0 then throw .invalidPadding
  match lastBytes g.values with
  | some bytes => pure bytes
  | none =>
    if g.values.isEmpty then pure []
    else throw (.invalidLastSymbol g.last (start + g.values.length - 1))

/-- Decodes a base64 text given as bytes. -/
def decode (input : List UInt8) : Except Error (List UInt8) := do
  let n := input.length
  let rem := n % 4
  if rem == 1 then
    match input.getLast? with
    | some b =>
      if b != pad && (value? b).isNone then throw (.invalidSymbol b (n - 1))
    | none => pure ()
  let whole := if rem == 0 then n - 4 else n - rem
  let body ← decodeGroups (input.take whole) 0
  let tail ← decodeLast whole (input.drop whole) (n != 0)
  pure (body ++ tail)

end Base64

/-!
## Charsets

Latin-1 gives one byte per character and refuses characters above U+00FF, UTF-8 gives the usual
encoding. Reading a payload reverses both steps.
-/

/-- How characters become the bytes that a payload carries. -/
inductive Charset where
  | latin1
  | utf8
  deriving DecidableEq, Repr, Inhabited

/-- Why a text cannot become a payload, or a payload cannot be read. -/
inductive PayloadError where
  | outsideLatin1 (c : Char) (offset : Nat)
  | invalidPayload (e : Base64.Error)
  | invalidUtf8
  deriving DecidableEq, Repr

namespace PayloadError

def kind : PayloadError → String
  | outsideLatin1 .. => "OutsideLatin1"
  | invalidPayload _ => "InvalidPayload"
  | invalidUtf8 => "InvalidUtf8"

def message : PayloadError → String
  | outsideLatin1 c n => s!"character {Text.quoteChar c} at offset {n} is outside Latin-1"
  | invalidPayload e => s!"payload is not valid base64: {e.message}"
  | invalidUtf8 => "decoded payload is not valid UTF-8"

end PayloadError

namespace Charset

def name : Charset → String
  | latin1 => "Latin1"
  | utf8 => "Utf8"

/-- The Latin-1 bytes of a text whose first character starts at byte `offset` of the literal;
the first character above U+00FF is refused with its offset. -/
def latin1Bytes : List Char → Nat → Except PayloadError (List UInt8)
  | [], _ => .ok []
  | c :: cs, offset =>
    if c.toNat < 256 then
      (latin1Bytes cs (offset + c.utf8Size)).map (c.toNat.toUInt8 :: ·)
    else
      .error (.outsideLatin1 c offset)

def bytes : Charset → List Char → Except PayloadError (List UInt8)
  | latin1, cs => latin1Bytes cs 0
  | utf8, cs => .ok (Text.encodeUtf8 cs)

def chars : Charset → List UInt8 → Except PayloadError (List Char)
  | latin1, bs => .ok (bs.map fun b => Char.ofNat b.toNat)
  | utf8, bs =>
    match Text.decodeUtf8? bs with
    | some cs => .ok cs
    | none => .error .invalidUtf8

/-- The payload for a text. -/
def encode (cs : Charset) (text : List Char) : Except PayloadError (List Char) :=
  (cs.bytes text).map fun bs => (Base64.encode bs).map fun b => Char.ofNat b.toNat

/-- The text that a payload stands for. -/
def decode (cs : Charset) (payload : List Char) : Except PayloadError (List Char) :=
  match Base64.decode (Text.encodeUtf8 payload) with
  | .ok bs => cs.chars bs
  | .error e => .error (.invalidPayload e)

end Charset
end Obfuscator
