import Obfuscator.Config.Value
import Obfuscator.Text.Utf8
import Obfuscator.Number.Binary64
/-!
# RON configuration files

RON writes values as booleans, numbers, characters, strings, options (`Some(v)`, `None`), the
unit `()`, sequences `[…]`, maps `{k: v}` and structures: `Name(field: v, …)` with or without
a name, `Name(v, …)` read as a sequence, and a bare name read as the unit. It is read byte by
byte; places count lines and columns from one, a column being a byte.

Numbers are read the way the format's own reader reads them. A run that looks more like a float
than an integer (more characters of `[0-9.eE+-_]` than of `[0-9A-Fa-f_]`) is a float; anything
else is tried as an integer, in base 16, 2 or 8 after `0x`, `0b` or `0o`, with underscores
ignored, of 128 bits (signed after a sign, unsigned otherwise), and read as a float when it is
not one. Integers beyond 64 signed bits are doubles.

Between values stand spaces, tabs, line breaks and comments, `//` to the end of the line and
`/* … */` nested. Text may begin with extension attributes `#![enable(…)]`; `implicit_some`
lets an option be written without `Some(…)`.

A configuration is read from the map a text stands for, its keys strings or characters; any
other key is a fault without a place. Maps keep their keys in the format's order of values,
which decides which such fault comes first. Any other top value gives an empty table.
-/

namespace Obfuscator
namespace Config
namespace Ron

/-- A fault of reading RON: its line and column, both zero for a fault without a place. -/
structure Fault where
  line : Nat
  column : Nat
  message : String
  deriving Inhabited, DecidableEq, Repr

def Fault.text (f : Fault) : String :=
  if f.line == 0 && f.column == 0 then f.message else s!"{f.line}:{f.column}: {f.message}"

/-- A RON number: an integer or a double. -/
inductive Number where
  | integer (i : Int)
  | float (f : Binary64)
  deriving Inhabited, DecidableEq, Repr

/-- A RON value. -/
inductive Node where
  | bool (b : Bool)
  | char (c : Char)
  | map (entries : List (Node × Node))
  | number (n : Number)
  | option (v : Option Node)
  | string (s : String)
  | seq (items : List Node)
  | unit
  deriving Inhabited, Repr

/-! ## Order of values -/

/-- The order of doubles that maps use: not-a-number first, then by value, the zeros equal. -/
def compareFloat : Binary64 → Binary64 → Ordering
  | .nan, .nan => .eq
  | .nan, _ => .lt
  | _, .nan => .gt
  | a, b =>
    let key : Binary64 → Int × Int := fun
      | .infinite true => (-1, 0)
      | .infinite false => (1, 0)
      | .finite s u => (0, if s then -(u : Int) else u)
      | .nan => (0, 0)
    let (x, y) := key a
    let (x', y') := key b
    match Ord.compare x x' with
    | .eq => Ord.compare y y'
    | o => o

def Number.compare : Number → Number → Ordering
  | .integer a, .integer b => Ord.compare a b
  | .integer _, .float _ => .lt
  | .float _, .integer _ => .gt
  | .float a, .float b => compareFloat a b

def Node.rank : Node → Nat
  | .bool _ => 0
  | .char _ => 1
  | .map _ => 2
  | .number _ => 3
  | .option _ => 4
  | .string _ => 5
  | .seq _ => 6
  | .unit => 7

mutual

def Node.compare : Node → Node → Ordering
  | .bool a, .bool b => Ord.compare a b
  | .char a, .char b => Ord.compare a.toNat b.toNat
  | .map a, .map b => Node.compareEntries a b
  | .number a, .number b => a.compare b
  | .option a, .option b => Node.compareOption a b
  | .string a, .string b => Ord.compare a b
  | .seq a, .seq b => Node.compareItems a b
  | .unit, .unit => .eq
  | a, b => Ord.compare a.rank b.rank

def Node.compareOption : Option Node → Option Node → Ordering
  | none, none => .eq
  | none, some _ => .lt
  | some _, none => .gt
  | some a, some b => Node.compare a b

def Node.compareItems : List Node → List Node → Ordering
  | [], [] => .eq
  | [], _ :: _ => .lt
  | _ :: _, [] => .gt
  | a :: as, b :: bs =>
    match Node.compare a b with
    | .eq => Node.compareItems as bs
    | o => o

def Node.compareEntries : List (Node × Node) → List (Node × Node) → Ordering
  | [], [] => .eq
  | [], _ :: _ => .lt
  | _ :: _, [] => .gt
  | (k, v) :: as, (k', v') :: bs =>
    match Node.compare k k' with
    | .eq =>
      match Node.compare v v' with
      | .eq => Node.compareEntries as bs
      | o => o
    | o => o

end

def insertEntry (k v : Node) : List (Node × Node) → List (Node × Node)
  | [] => [(k, v)]
  | (k', v') :: rest =>
    match Node.compare k k' with
    | .lt => (k, v) :: (k', v') :: rest
    | .eq => (k', v) :: rest
    | .gt => (k', v') :: insertEntry k v rest

/-! ## Bytes -/

def ascii (s : String) : List UInt8 := s.toList.map fun c => c.toNat.toUInt8

def isSpace (b : UInt8) : Bool := b == 32 || b == 9 || b == 10 || b == 13

def isNameStart (b : UInt8) : Bool :=
  (65 ≤ b && b ≤ 90) || (97 ≤ b && b ≤ 122) || b == 95

def isDigitByte (b : UInt8) : Bool := 48 ≤ b && b ≤ 57

def isNameByte (b : UInt8) : Bool := isNameStart b || isDigitByte b

def isRawNameByte (b : UInt8) : Bool := isNameByte b || b == 46 || b == 43 || b == 45

def isIntegerByte (b : UInt8) : Bool :=
  isDigitByte b || (65 ≤ b && b ≤ 70) || (97 ≤ b && b ≤ 102) || b == 95

def isFloatByte (b : UInt8) : Bool :=
  isDigitByte b || b == 46 || b == 101 || b == 69 || b == 43 || b == 45 || b == 95

def hexValue? (b : UInt8) : Option Nat :=
  if isDigitByte b then some (b.toNat - 48)
  else if 65 ≤ b && b ≤ 70 then some (b.toNat - 55)
  else if 97 ≤ b && b ≤ 102 then some (b.toNat - 87)
  else none

def textOf (bs : List UInt8) : String := String.ofList ((Text.decodeUtf8? bs).getD [])

/-- The reader: the bytes left, the line and column reached, and whether options may be written
without `Some(…)`. -/
structure Cursor where
  bytes : List UInt8
  line : Nat := 1
  column : Nat := 1
  implicitSome : Bool := false
  deriving Inhabited

abbrev Read := Except Fault

namespace Cursor

def fault (c : Cursor) (message : String) : Fault := ⟨c.line, c.column, message⟩

def eof (c : Cursor) : Fault := c.fault "Unexpected end of RON"

def badEscape (c : Cursor) (why : String) : Fault :=
  c.fault ("Invalid escape sequence '" ++ why ++ "'")

def peek (c : Cursor) : Option UInt8 := c.bytes.head?

def peekOrEof (c : Cursor) : Read UInt8 :=
  match c.bytes with
  | b :: _ => .ok b
  | [] => .error c.eof

def advanceOne (c : Cursor) : Cursor :=
  match c.bytes with
  | b :: r =>
    if b == 10 then { c with bytes := r, line := c.line + 1, column := 1 }
    else { c with bytes := r, column := c.column + 1 }
  | [] => c

def advance (c : Cursor) : Nat → Cursor
  | 0 => c
  | n + 1 => c.advanceOne.advance n

def eatByte (c : Cursor) : Read (UInt8 × Cursor) := do
  let b ← c.peekOrEof
  pure (b, c.advanceOne)

def consume (c : Cursor) (s : String) : Option Cursor :=
  let bs := ascii s
  if bs.isPrefixOf c.bytes then some (c.advance bs.length) else none

def nameByteAt (c : Cursor) (k : Nat) : Bool :=
  match c.bytes[k]? with
  | some b => isNameByte b
  | none => false

def atWord (c : Cursor) (s : String) : Bool :=
  (ascii s).isPrefixOf c.bytes && !c.nameByteAt s.length

def consumeWord (c : Cursor) (s : String) : Option Cursor :=
  if c.atWord s then some (c.advance s.length) else none

def skipWhile (c : Cursor) (p : UInt8 → Bool) : Cursor := c.advance (c.bytes.takeWhile p).length

def blockCommentFuel : Nat → Nat → Cursor → Read Cursor
  | 0, _, c => .ok c
  | _ + 1, 0, c => .ok c
  | n + 1, level + 1, c =>
    if c.bytes.isEmpty then .error (c.fault "Unclosed block comment")
    else
      let c := c.skipWhile fun b => b != 47 && b != 42
      match c.consume "/*" with
      | some c => blockCommentFuel n (level + 2) c
      | none =>
        match c.consume "*/" with
        | some c => blockCommentFuel n level c
        | none =>
          match c.eatByte with
          | .ok (_, c) => blockCommentFuel n (level + 1) c
          | .error _ => .error (c.fault "Unclosed block comment")

def skipComment (c : Cursor) : Read (Cursor × Bool) :=
  match c.consume "/" with
  | none => .ok (c, false)
  | some c => do
    let (b, c) ← c.eatByte
    if b == 47 then pure (c.skipWhile (· != 10), true)
    else if b == 42 then pure (← blockCommentFuel (c.bytes.length + 1) 1 c, true)
    else .error (c.fault ("Unexpected byte " ++ Text.quoteChar (Char.ofNat b.toNat)))

def skipSpaceFuel : Nat → Cursor → Read Cursor
  | 0, c => .ok c
  | n + 1, c => do
    let (c, more) ← (c.skipWhile isSpace).skipComment
    if more then skipSpaceFuel n c else pure c

def skipSpace (c : Cursor) : Read Cursor := skipSpaceFuel (c.bytes.length + 1) c

def comma (c : Cursor) : Read (Cursor × Bool) := do
  let c ← c.skipSpace
  match c.consume "," with
  | some c => pure (← c.skipSpace, true)
  | none => pure (c, false)

def name (c : Cursor) : Read (Cursor × String) := do
  let b ← c.peekOrEof
  if !isNameStart b then .error (c.fault "Expected identifier")
  else if b == 114 then
    match (c.bytes[1]? : Option UInt8) with
    | none => .error c.eof
    | some 34 => .error (c.fault "Expected identifier")
    | some 35 =>
      match (c.bytes[2]? : Option UInt8) with
      | some a =>
        if isRawNameByte a then
          let c := c.advance 2
          let n := (c.bytes.takeWhile isRawNameByte).length
          pure (c.advance n, textOf (c.bytes.take n))
        else .error (c.fault "Expected identifier")
      | none => .error (c.fault "Expected identifier")
    | some _ =>
      let n := (c.bytes.takeWhile isNameByte).length
      pure (c.advance n, textOf (c.bytes.take n))
  else
    let n := (c.bytes.takeWhile isNameByte).length
    pure (c.advance n, textOf (c.bytes.take n))

end Cursor

/-! ## Numbers -/

def integerDigits (c : Cursor) (negative : Bool) (lo hi : Int) : Except Cursor (Cursor × Int) :=
  let base : Nat :=
    if c.peek == some 48 then
      match (c.bytes[1]? : Option UInt8) with
      | some 120 => 16
      | some 98 => 2
      | some 111 => 8
      | _ => 10
    else 10
  let c := if base != 10 then c.advance 2 else c
  let ds := c.bytes.takeWhile isIntegerByte
  if ds.isEmpty || ds.head? == some 95 then .error c
  else
    let step := fun (acc : Option Int) (b : UInt8) => acc.bind fun a =>
      if b == 95 then some a
      else
        let scaled := a * base
        match hexValue? b with
        | some d =>
          let next := if negative then scaled - d else scaled + d
          if scaled < lo || hi < scaled || d ≥ base || next < lo || hi < next then none
          else some next
        | none => none
    match ds.foldl step (some 0) with
    | some v => .ok (c.advance ds.length, v)
    | none => .error (c.advance ds.length)

def floatWords : List (String × Binary64) :=
  [("inf", .infinite false), ("+inf", .infinite false), ("-inf", .infinite true),
    ("NaN", .nan), ("+NaN", .nan), ("-NaN", .nan)]

def float (c : Cursor) : Read (Cursor × Binary64) :=
  match floatWords.findSome? fun (w, f) => (c.consumeWord w).map (·, f) with
  | some r => .ok r
  | none =>
    let run := c.bytes.takeWhile isFloatByte
    match Binary64.parse? (run.map fun b => Char.ofNat b.toNat) with
    | some f => .ok (c.advance run.length, f)
    | none => .error (c.fault "Expected float")

def maxI64 : Int := Int.pow 2 63 - 1

def minI64 : Int := -Int.pow 2 63

/-- An integer as a number: itself within 64 signed bits, the nearest double beyond. -/
def Number.ofInt (i : Int) : Number :=
  if minI64 ≤ i && i ≤ maxI64 then .integer i
  else if 0 ≤ i then .float (Binary64.ofNat i.toNat)
  else .float (Binary64.ofNat i.natAbs).neg

/-- Reads a number: a float when the bytes look more like one, else an integer (signed when a
sign comes first) of 128 bits, signed or unsigned, else a float after all. Integers beyond 64
signed bits are doubles. A float read after a failed integer starts from the number's first
byte, but its line and column go on from where the integer reader stopped. -/
def number (c : Cursor) : Read (Cursor × Number) := do
  let first ← c.peekOrEof
  let signed := first == 45 || first == 43
  let body := if signed then c.bytes.drop 1 else c.bytes
  let floatLike := (body.takeWhile isFloatByte).length > (body.takeWhile isIntegerByte).length
  let asFloat := fun (c : Cursor) => do
    let (c, f) ← float c
    pure (c, Number.float f)
  let retry := fun (reached : Cursor) => asFloat { c with line := reached.line, column := reached.column }
  if floatLike then asFloat c
  else if signed then
    match integerDigits c.advanceOne (first == 45) (-Int.pow 2 127) (Int.pow 2 127 - 1) with
    | .ok (c, i) => pure (c, Number.ofInt i)
    | .error reached => retry reached
  else
    match integerDigits c false 0 (Int.pow 2 128 - 1) with
    | .ok (c, n) => pure (c, Number.ofInt n)
    | .error reached => retry reached

/-! ## Strings and characters -/

def escape (c : Cursor) : Read (Cursor × Char) := do
  let (b, c) ← c.eatByte
  if b == 39 then pure (c, '\'')
  else if b == 34 then pure (c, '"')
  else if b == 92 then pure (c, '\\')
  else if b == 110 then pure (c, '\n')
  else if b == 114 then pure (c, '\r')
  else if b == 116 then pure (c, '\t')
  else if b == 120 then do
    let (h, c) ← c.eatByte
    let some hv := hexValue? h | .error (c.badEscape "Non-hex digit found")
    let (l, c) ← c.eatByte
    let some lv := hexValue? l | .error (c.badEscape "Non-hex digit found")
    pure (c, Char.ofNat (hv * 16 + lv))
  else if b == 117 then do
    let (o, c) ← c.eatByte
    if o != 123 then .error (c.badEscape "Missing \x7b")
    else
      let step := fun (acc : Read (Cursor × Nat × Nat × Bool)) (_ : Nat) => do
        let (c, v, k, stopped) ← acc
        if stopped then pure (c, v, k, true)
        else
          let x ← c.peekOrEof
          if x == 125 then pure (c, v, k, true)
          else
            let c := c.advanceOne
            match hexValue? x with
            | some d => pure (c, v * 16 + d, k + 1, false)
            | none => .error (c.badEscape "Non-hex digit found")
      let (c, v, k, _) ← (List.range 6).foldl step (.ok (c, 0, 0, false))
      if k == 0 then .error (c.badEscape "Expected 1-6 digits, got 0 digits")
      else
        let (e, c) ← c.eatByte
        if e != 125 then .error (c.badEscape "No \x7d at the end")
        else if v < 0xD800 || (0xDFFF < v && v ≤ 0x10FFFF) then pure (c, Char.ofNat v)
        else .error (c.badEscape "Not a valid char")
  else .error (c.badEscape "Unknown escape character")

def escapedFuel : Nat → Cursor → List UInt8 → Read (Cursor × String)
  | 0, c, acc => .ok (c, textOf acc)
  | n + 1, c, acc =>
    let run := c.bytes.takeWhile fun b => b != 92 && b != 34
    match (c.bytes[run.length]? : Option UInt8) with
    | none => .error c.eof
    | some 34 => .ok (c.advance (run.length + 1), textOf (acc ++ run))
    | some _ => do
      let (c, ch) ← escape (c.advance (run.length + 1))
      escapedFuel n c (acc ++ run ++ Text.encodeChar ch)

def quoted (c : Cursor) : Read (Cursor × String) :=
  let run := c.bytes.takeWhile fun b => b != 92 && b != 34
  match (c.bytes[run.length]? : Option UInt8) with
  | none => .error (c.fault "Expected end of string")
  | some 34 => .ok (c.advance (run.length + 1), textOf run)
  | some _ => escapedFuel (c.bytes.length + 1) c []

def findFuel (pat : List UInt8) : Nat → List UInt8 → Nat → Option Nat
  | 0, _, _ => none
  | n + 1, bs, i =>
    if pat.isPrefixOf bs then some i
    else match bs with
      | [] => none
      | _ :: r => findFuel pat n r (i + 1)

def raw (c : Cursor) : Read (Cursor × String) :=
  let hashes := (c.bytes.takeWhile (· == 35)).length
  let c := c.advance hashes
  match c.consume "\"" with
  | none => .error (c.fault "Expected string")
  | some c =>
    match findFuel (34 :: List.replicate hashes 35) (c.bytes.length + 1) c.bytes 0 with
    | none => .error (c.fault "Expected end of string")
    | some i => .ok (c.advance (i + hashes + 1), textOf (c.bytes.take i))

def string (c : Cursor) : Read (Cursor × String) :=
  match c.consume "\"" with
  | some c => quoted c
  | none =>
    match c.consume "r" with
    | some c => raw c
    | none => .error (c.fault "Expected string")

def character (c : Cursor) : Read (Cursor × Char) := do
  let some c := c.consume "'" | .error (c.fault "Expected char")
  let b ← c.peekOrEof
  let (c, ch) ←
    if b == 92 then escape c.advanceOne
    else
      match (c.bytes.take 5).findIdx? (· == 39) with
      | none => .error (c.fault "Expected char")
      | some pos =>
        match Text.decodeUtf8? (c.bytes.take pos) with
        | some [ch] => pure (c.advance pos, ch)
        | _ => .error (c.fault "Expected char")
  match c.consume "'" with
  | some c => pure (c, ch)
  | none => .error (c.fault "Expected char")

/-! ## Values -/

def hasItem (c : Cursor) (hadComma : Bool) (stop : UInt8) : Read (Cursor × Bool) := do
  let c ← c.skipSpace
  let b ← c.peekOrEof
  if hadComma then pure (c, b != stop)
  else if b == stop then pure (c, false)
  else .error (c.fault "Expected comma")

mutual

/-- Reads any value, one step of fuel for each level of nesting and each item. -/
def value : Nat → Cursor → Read (Cursor × Node)
  | 0, c => .error c.eof
  | n + 1, c =>
    match c.consumeWord "true", c.consumeWord "false" with
    | some c, _ => .ok (c, .bool true)
    | _, some c => .ok (c, .bool false)
    | none, none =>
    if c.atWord "Some" then option n c
    else match c.consumeWord "None", c.consume "()" with
    | some c, _ => .ok (c, .option none)
    | _, some c => .ok (c, .unit)
    | none, none =>
    match c.consumeWord "inf", c.consumeWord "-inf", c.consumeWord "NaN" with
    | some c, _, _ => .ok (c, .number (.float (.infinite false)))
    | _, some c, _ => .ok (c, .number (.float (.infinite true)))
    | _, _, some c => .ok (c, .number (.float .nan))
    | none, none, none =>
    match c.name with
    | .ok (c, _) => do record n (← c.skipSpace)
    | .error _ => do
      let b ← c.peekOrEof
      if b == 40 then record n c
      else if b == 91 then do
        let some c := c.consume "[" | .error (c.fault "Expected opening `[`")
        let (c, xs) ← items 93 n c true []
        let (c, _) ← c.comma
        match c.consume "]" with
        | some c => pure (c, .seq xs)
        | none => .error (c.fault "Expected closing `]`")
      else if b == 123 then do
        let some c := c.consume "\x7b" | .error (c.fault "Expected opening `\x7b`")
        let (c, es) ← entries 125 false n c true []
        let (c, _) ← c.comma
        match c.consume "\x7d" with
        | some c => pure (c, .map es)
        | none => .error (c.fault "Expected closing `\x7d`")
      else if isDigitByte b || b == 43 || b == 45 then do
        let (c, x) ← number c
        pure (c, .number x)
      else if b == 46 then do
        let (c, f) ← float c
        pure (c, .number (.float f))
      else if b == 34 || b == 114 then do
        let (c, s) ← string c
        pure (c, .string s)
      else if b == 39 then do
        let (c, ch) ← character c
        pure (c, .char ch)
      else .error (c.fault ("Unexpected byte " ++ Text.quoteChar (Char.ofNat b.toNat)))

def option : Nat → Cursor → Read (Cursor × Node)
  | 0, c => .error c.eof
  | n + 1, c =>
    match c.consume "Some" with
    | none => .error (c.fault "Expected option")
    | some c => do
      let c ← c.skipSpace
      match c.consume "(" with
      | some c => do
        let (c, v) ← value n (← c.skipSpace)
        let c ← c.skipSpace
        match c.consume ")" with
        | some c => pure (c, .option (some v))
        | none => .error (c.fault "Expected closing `)`")
      | none =>
        if c.implicitSome then do
          let (c, v) ← value n c
          pure (c, .option (some v))
        else .error (c.fault "Expected option")

def record : Nat → Cursor → Read (Cursor × Node)
  | 0, c => .error c.eof
  | n + 1, c =>
    match c.consume "(" with
    | none => .ok (c, .unit)
    | some w => do
      let w ← w.skipSpace
      let tuple ← match w.name with
        | .error _ => pure true
        | .ok (w, _) => do
          let (b, _) ← (← w.skipSpace).eatByte
          pure (b != 58)
      if tuple then do
        let some c := c.consume "(" | .error (c.fault "Expected opening `[`")
        let (c, xs) ← items 41 n c true []
        let (c, _) ← c.comma
        match c.consume ")" with
        | some c => pure (c, .seq xs)
        | none => .error (c.fault "Expected closing `]`")
      else do
        let c ← c.skipSpace
        let some c := c.consume "(" | .error (c.fault "Expected opening `(`")
        let (c, es) ← entries 41 true n c true []
        let (c, _) ← c.comma
        match c.consume ")" with
        | some c => pure (c, .map es)
        | none => .error (c.fault "Expected closing `)`")

def items (stop : UInt8) : Nat → Cursor → Bool → List Node → Read (Cursor × List Node)
  | 0, c, _, _ => .error c.eof
  | n + 1, c, hadComma, acc => do
    let (c, more) ← hasItem c hadComma stop
    if !more then pure (c, acc.reverse)
    else
      let (c, v) ← value n c
      let (c, hc) ← c.comma
      items stop n c hc (v :: acc)

def entries (stop : UInt8) (names : Bool) : Nat → Cursor → Bool → List (Node × Node) →
    Read (Cursor × List (Node × Node))
  | 0, c, _, _ => .error c.eof
  | n + 1, c, hadComma, acc => do
    let (c, more) ← hasItem c hadComma stop
    if !more then pure (c, acc)
    else
      let (c, k) ← if names then do
          let (c, s) ← c.name
          pure (c, Node.string s)
        else value n c
      let c ← c.skipSpace
      let some c := c.consume ":" | .error (c.fault "Expected colon")
      let (c, v) ← value n (← c.skipSpace)
      let (c, hc) ← c.comma
      entries stop names n c hc (insertEntry k v acc)

end

/-! ## Extensions and documents -/

def consumeAll (c : Cursor) (parts : List String) : Read (Cursor × Bool) :=
  parts.foldlM (fun (c, ok) p => do
    let c ← c.skipSpace
    match c.consume p with
    | some c => pure (c, ok)
    | none => pure (c, false)) (c, true)

def extensionNamesFuel : Nat → Cursor → Bool → Read (Cursor × Bool)
  | 0, c, implicit => .ok (c, implicit)
  | n + 1, c, implicit => do
    let (c, ident) ← c.name
    if !(["unwrap_newtypes", "implicit_some", "unwrap_variant_newtypes"].contains ident) then
      .error (c.fault s!"No RON extension named `{ident}`")
    else
      let implicit := implicit || ident == "implicit_some"
      let (c, hadComma) ← c.comma
      if !hadComma && c.nameByteAt 0 then .error (c.fault "Expected comma")
      else if !hadComma || !c.nameByteAt 0 then pure (c, implicit)
      else extensionNamesFuel n c implicit

def extension (c : Cursor) : Read (Cursor × Bool) :=
  if c.peek != some 35 then .ok (c, false)
  else do
    let (c, ok) ← consumeAll c ["#", "!", "[", "enable", "("]
    if !ok then .error (c.fault "Expected an `#![enable(...)]` attribute")
    else
      let (c, implicit) ← extensionNamesFuel (c.bytes.length + 1) (← c.skipSpace) false
      let (c, ok) ← consumeAll (← c.skipSpace) [")", "]"]
      if ok then pure ({ c with implicitSome := c.implicitSome || implicit }, true)
      else .error (c.fault "Expected closing `)]` after the enable attribute")

def extensionsFuel : Nat → Cursor → Read Cursor
  | 0, c => .ok c
  | n + 1, c => do
    let (c, more) ← extension c
    if more then extensionsFuel n (← c.skipSpace) else pure c

/-- Reads a whole RON text: extension attributes, one value, and nothing after it but space. -/
def Node.parse (text : List Char) : Read Node := do
  let bytes := Text.encodeUtf8 text
  let c ← ({ bytes } : Cursor).skipSpace
  let c ← extensionsFuel (bytes.length + 1) c
  let (c, v) ← value (2 * bytes.length + 4) c
  let c ← c.skipSpace
  if c.bytes.isEmpty then pure v else .error (c.fault "Non-whitespace trailing characters")

/-! ## Configuration values -/

def keyFloatFormat : FloatFormat := { positional := none, pointZero := true }

def keyText : Node → Except String String
  | .string s => .ok s
  | .char c => .ok c.toString
  | k =>
    let unexpected := match k with
      | .bool b => s!"boolean `{b}`"
      | .number (.integer i) => s!"integer `{i}`"
      | .number (.float f) => s!"floating point `{f.render keyFloatFormat}`"
      | .option _ => "Option value"
      | .seq _ => "sequence"
      | .unit => "unit value"
      | _ => "map"
    .error s!"invalid type: {unexpected}, expected a string"

mutual

def Node.toValue : Node → Except String Value
  | .option (some v) => v.toValue
  | .option none | .unit => .ok .nil
  | .bool b => .ok (.bool b)
  | .number (.integer i) => .ok (.int i)
  | .number (.float f) => .ok (.float f)
  | .char c => .ok (.str c.toString)
  | .string s => .ok (.str s)
  | .seq items => return .array (← Node.itemValues items)
  | .map entries => return .table (← Node.entryValues entries [])

def Node.itemValues : List Node → Except String (List Value)
  | [] => .ok []
  | v :: rest => return (← v.toValue) :: (← Node.itemValues rest)

def Node.entryValues : List (Node × Node) → List (String × Value) →
    Except String (List (String × Value))
  | [], acc => .ok acc
  | (k, v) :: rest, acc => do
    let key ← keyText k
    Node.entryValues rest (setKey acc key (← v.toValue))

end

/-- The configuration table of a RON text: the map it stands for, or an empty table. -/
def readTable (text : List Char) : Except LoadError (List (String × Value)) :=
  match Node.parse text with
  | .error f => .error (.message f.text)
  | .ok v =>
    match v.toValue with
    | .error m => .error (.message m)
    | .ok (.table es) => .ok es
    | .ok _ => .ok []

end Ron
end Config
end Obfuscator
