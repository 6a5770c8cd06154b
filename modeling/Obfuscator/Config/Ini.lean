import Obfuscator.Config.Value
import Obfuscator.Text.CharClass
/-!
# INI configuration files

An INI text is a run of comments, section headers, keys and values, read character by
character. Blanks (Unicode White_Space) between them are passed. A comment starts with `;` or
`#` in the first column and runs to the end of its line; one later on the line is a fault.
`[name]` starts a section, named by its trimmed text. A key is the trimmed text up to `=` or
`:`, line breaks included, and its value the trimmed text from there to the end of the line.
A value may start with a quoted part, in double or single quotes, which may span lines; the
rest of the line follows it.

In names, keys and values a backslash escapes the next character: `\0`, `\a`, `\b`, `\t`, `\r`
and `\n` stand for control characters, a backslash before a line break joins the lines, `\x`
takes four hexadecimal digits, and any other character stands for itself.

Faults give the line counted from zero and the column from one, as the reader has them at the
fault. The keys before the first section form the top table, and each section a table of its
own; of two values of one key the later is kept, and of two sections of one name the later.
-/

namespace Obfuscator
namespace Config
namespace Ini

/-- A fault of reading INI text: the line and column reached, and what went wrong. -/
structure Fault where
  line : Nat
  column : Nat
  message : String
  deriving Inhabited, DecidableEq, Repr

def Fault.text (f : Fault) : String := s!"{f.line}:{f.column} {f.message}"

/-- The reader: the character at hand, the text after it, and the line and column reached. -/
structure Cursor where
  current : Option Char
  rest : List Char
  line : Nat := 0
  column : Nat := 0
  deriving Inhabited

abbrev Read := Except Fault

namespace Cursor

def bump (c : Cursor) : Cursor :=
  match c.rest with
  | [] => { c with current := none }
  | x :: r =>
    if x == '\n' then { current := some x, rest := r, line := c.line + 1, column := 0 }
    else { c with current := some x, rest := r, column := c.column + 1 }

def start (text : List Char) : Cursor := ({ current := none, rest := text } : Cursor).bump

def fault (c : Cursor) (message : String) : Fault := ⟨c.line, c.column, message⟩

def skipWhileFuel (p : Char → Bool) : Nat → Cursor → Cursor
  | 0, c => c
  | n + 1, c =>
    match c.current with
    | some x => if p x then skipWhileFuel p n c.bump else c
    | none => c

def skipWhile (p : Char → Bool) (c : Cursor) : Cursor := skipWhileFuel p (c.rest.length + 1) c

def skipComment (c : Cursor) : Cursor :=
  let c := c.skipWhile (· != '\n')
  if c.current == some '\n' then c.bump else c

end Cursor

def stopsText (stops : List (Option Char)) : String :=
  "[" ++ ", ".intercalate (stops.map fun
    | some c => "Some(" ++ Text.quoteChar c ++ ")"
    | none => "None") ++ "]"

def currentText : Option Char → String
  | some c => "Some(" ++ Text.quoteChar c ++ ")"
  | none => "None"

def hexDigitsFuel (eof : String) : Nat → Cursor → List Char → Read (Cursor × List Char)
  | 0, c, acc => .ok (c, acc.reverse)
  | n + 1, c, acc =>
    let c := c.bump
    match c.current with
    | none => .error (c.fault eof)
    | some '\\' =>
      let c := c.bump
      if c.current != some '\n' then
        .error (c.fault ("expecting \"\\\\n\" but found \"" ++ currentText c.current ++ "\"."))
      else hexDigitsFuel eof n c ('\n' :: acc)
    | some x => hexDigitsFuel eof n c (x :: acc)

def hexCode? (ds : List Char) : Option Nat :=
  let ds := match ds with
    | '+' :: r => r
    | r => r
  if ds.isEmpty then none
  else ds.foldlM (fun n d =>
    if d.isDigit then some (n * 16 + (d.toNat - '0'.toNat))
    else if 'a' ≤ d && d ≤ 'f' then some (n * 16 + (d.toNat - 'a'.toNat + 10))
    else if 'A' ≤ d && d ≤ 'F' then some (n * 16 + (d.toNat - 'A'.toNat + 10))
    else none) 0

def readUntilFuel (stops : List (Option Char)) : Nat → Cursor → String → Read (Cursor × String)
  | 0, c, acc => .ok (c, acc)
  | n + 1, c, acc =>
    let eof := "expecting \"" ++ stopsText stops ++ "\" but found EOF."
    if stops.contains c.current then .ok (c, acc)
    else
      match c.current with
      | none => .error (c.fault eof)
      | some '\\' =>
        let c := c.bump
        match c.current with
        | none => .error (c.fault eof)
        | some e =>
          let simple := fun (x : Char) => readUntilFuel stops n c.bump (acc.push x)
          match e with
          | '0' => simple '\x00'
          | 'a' => simple '\x07'
          | 'b' => simple '\x08'
          | 't' => simple '\t'
          | 'r' => simple '\r'
          | 'n' => simple '\n'
          | '\n' => readUntilFuel stops n c.bump acc
          | 'x' => do
            let (c, ds) ← hexDigitsFuel eof 4 c []
            match hexCode? ds with
            | some v =>
              if v < 0xD800 || (0xDFFF < v && v ≤ 0x10FFFF) then
                readUntilFuel stops n c.bump (acc.push (Char.ofNat v))
              else .error (c.fault "unknown character in \\xHH form")
            | none => .error (c.fault "unknown character in \\xHH form")
          | x => simple x
      | some x => readUntilFuel stops n c.bump (acc.push x)

def readUntil (stops : List (Option Char)) (c : Cursor) : Read (Cursor × String) :=
  readUntilFuel stops (c.rest.length + 2) c ""

def lineStops : List (Option Char) := [some '\n', some '\r', none]

/-- Reads a value after `=` or `:`: blanks within the line are passed; a quoted part runs to its
closing quote, and the rest of the line follows it. -/
def readValue (c : Cursor) : Read (Cursor × String) := do
  let c := c.bump.skipWhile fun x => Text.isBlank x && x != '\n' && x != '\r'
  match c.current with
  | none => pure (c, "")
  | some q =>
    if q == '"' || q == '\'' then
      let (c, s) ← readUntil [some q] c.bump
      let (c, r) ← readUntil lineStops c.bump
      pure (c, s ++ r)
    else readUntil lineStops c

abbrev Sections := List (Option String × List (String × String))

def addProperty (secs : Sections) (name : Option String) (k v : String) : Sections :=
  match (secs.reverse.findIdx? fun s => s.1 == name) with
  | some i =>
    let j := secs.length - 1 - i
    secs.modify j fun s => (s.1, s.2 ++ [(k, v)])
  | none => secs ++ [(name, [(k, v)])]

def trimmed (s : String) : String := String.ofList (Text.trim s.toList)

def itemsFuel : Nat → Cursor → Sections → Option String → String → Read Sections
  | 0, _, secs, _, _ => .ok secs
  | n + 1, c, secs, heading, key =>
    let next := fun (c : Cursor) => c.skipWhile Text.isBlank
    match c.current with
    | none => .ok secs
    | some x =>
      if x == ';' || x == '#' then
        if c.column > 1 then .error (c.fault "doesn't support inline comment")
        else itemsFuel n (next c.skipComment) secs heading key
      else if x == '[' then do
        let (c, name) ← readUntil [some ']'] c.bump
        let name := trimmed name
        itemsFuel n (next c.bump) (secs ++ [(some name, [])]) (some name) key
      else if x == '=' || x == ':' then
        if key.isEmpty then .error (c.fault "missing key")
        else do
          let (c, v) ← readValue c
          itemsFuel n (next c) (addProperty secs heading key (trimmed v)) heading ""
      else do
        let (c, k) ← readUntil [some '=', some ':'] c
        itemsFuel n (next c) secs heading (trimmed k)

/-- Reads INI text into its sections. -/
def sections (text : List Char) : Read Sections :=
  itemsFuel (text.length + 2) ((Cursor.start text).skipWhile Text.isBlank) [(none, [])] none ""

/-- The configuration table of INI text: the keys of the top section, and a table for each named
section, all values strings. -/
def readTable (text : List Char) : Except LoadError (List (String × Value)) :=
  match sections text with
  | .error f => .error (.message f.text)
  | .ok secs =>
    .ok (secs.foldl (fun acc s =>
      match s.1 with
      | some name =>
        setKey acc name (.table (s.2.foldl (fun t (k, v) => setKey t k (.str v)) []))
      | none => s.2.foldl (fun t (k, v) => setKey t k (.str v)) acc) [])

end Ini
end Config
end Obfuscator
