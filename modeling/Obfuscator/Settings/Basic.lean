import Obfuscator.Language
import Obfuscator.Json.Reader
import Obfuscator.Text.Printable
/-!
# Obfuscation settings

The settings of one run: the language, the intensity, which passes run, the target environment
(passed on to the rewriting service) and the identifiers to keep, written as one comma-separated
text. Only the strong intensity minifies. A name of an intensity is read after trimming blanks
and folding ASCII case.
-/

namespace Obfuscator

/-- How hard the obfuscator works. -/
inductive Intensity where
  | light
  | medium
  | strong
  deriving DecidableEq, Repr, Inhabited

namespace Intensity

def all : List Intensity := [light, medium, strong]

def name : Intensity → String
  | light => "light"
  | medium => "medium"
  | strong => "strong"

def description : Intensity → String
  | light => "minimal changes, mainly whitespace and simple renaming"
  | medium => "standard obfuscation, renaming variables, string hiding, and basic logic shifting"
  | strong => "heavy protection, logic flattening, dead code insertion, and complex encryption"

def minifies : Intensity → Bool
  | strong => true
  | _ => false

def normalize (text : String) : String := String.ofList (Language.asciiLower (Text.trim text.toList))

/-- The intensity a loosely written name stands for, or the normalized name that matched
none. -/
def parse (text : String) : Except String Intensity :=
  match normalize text with
  | "light" => .ok light
  | "medium" => .ok medium
  | "strong" => .ok strong
  | other => .error other

end Intensity

/-- The settings of one run. -/
structure Settings where
  language : Language := .javaScript
  intensity : Intensity := .medium
  renameVariables : Bool := true
  stringEncryption : Bool := true
  controlFlowFlattening : Bool := false
  deadCodeInjection : Bool := false
  targetEnvironment : String := "Browser (Universal)"
  exclusions : String := ""
  deriving DecidableEq, Repr, Inhabited

namespace Settings

/-- The identifiers to keep: the comma-separated entries, trimmed, without empty ones. -/
def exclusionList (s : Settings) : List String :=
  ((s.exclusions.splitOn ",").map fun e => String.ofList (Text.trim e.toList)).filter (· != "")

/-!
## Settings as JSON

Settings are written as a JSON object with one member per field, in field order. They are read
from a JSON value or from JSON text. Every field is optional and takes its default when absent;
members with other keys are ignored. An array is read as the fields in order, a short array
leaving the last fields at their defaults and a long one refused.

The two readers differ as the two sources do. A value is a map, so its members are taken in the
order of their keys and a repeated key keeps its last value; the text is read as written, so a
repeated field is refused. Faults found in text tell their place: after the value for a value of
the wrong type or an unknown name, at the character for a fault of form. A repeated field is
found once its key is read, but the object is closed before the fault is placed: it stands after
the blanks that follow the key, and after the closing brace when that comes next.
-/

open Json

def fieldNames : List String :=
  ["language", "intensity", "renameVariables", "stringEncryption", "controlFlowFlattening",
    "deadCodeInjection", "targetEnvironment", "exclusions"]

def toJson (s : Settings) : Json :=
  .obj [("language", .str s.language.name), ("intensity", .str s.intensity.name),
    ("renameVariables", .bool s.renameVariables), ("stringEncryption", .bool s.stringEncryption),
    ("controlFlowFlattening", .bool s.controlFlowFlattening),
    ("deadCodeInjection", .bool s.deadCodeInjection),
    ("targetEnvironment", .str s.targetEnvironment), ("exclusions", .str s.exclusions)]

def describe : Json → String
  | .null => "null"
  | .bool b => s!"boolean `{b}`"
  | .num (.nat n) => s!"integer `{n}`"
  | .num (.neg n) => s!"integer `{n}`"
  | .num n => s!"floating point `{n.text}`"
  | .str s => "string " ++ Text.quoteText s
  | .arr _ => "sequence"
  | .obj _ => "map"

def invalidType (found : String) (expected : String) : String :=
  s!"invalid type: {found}, expected {expected}"

def oneOf (names : List String) : String :=
  match names with
  | [] => "there are no variants"
  | [a] => s!"`{a}`"
  | [a, b] => s!"`{a}` or `{b}`"
  | _ => "one of " ++ ", ".intercalate (names.map fun n => s!"`{n}`")

def unknownVariant (name : String) (names : List String) : String :=
  s!"unknown variant `{name}`, expected {oneOf names}"

def structName : String := "struct ObfuscationSettings"

/-- A field's value, read. -/
inductive FieldValue where
  | language (l : Language)
  | intensity (i : Intensity)
  | flag (b : Bool)
  | text (s : String)

/-- The kind of value each field holds: the names of its variants, a flag, or a text. -/
inductive FieldKind where
  | variants (names : List String)
  | flag
  | text

def kindAt : Nat → FieldKind
  | 0 => .variants (Language.all.map Language.name)
  | 1 => .variants (Intensity.all.map Intensity.name)
  | 6 | 7 => .text
  | _ => .flag

def variantValue (field : Nat) (name : String) : Option FieldValue :=
  if field = 0 then (Language.ofName? name).map .language
  else (Intensity.all.find? fun i => i.name == name).map .intensity

def setField (s : Settings) : Nat → FieldValue → Settings
  | 0, .language l => { s with language := l }
  | 1, .intensity i => { s with intensity := i }
  | 2, .flag b => { s with renameVariables := b }
  | 3, .flag b => { s with stringEncryption := b }
  | 4, .flag b => { s with controlFlowFlattening := b }
  | 5, .flag b => { s with deadCodeInjection := b }
  | 6, .text t => { s with targetEnvironment := t }
  | 7, .text t => { s with exclusions := t }
  | _, _ => s

/-! ## From a JSON value -/

def fieldOfJson (field : Nat) (j : Json) : Except String FieldValue :=
  match kindAt field, j with
  | .flag, .bool b => .ok (.flag b)
  | .flag, _ => .error (invalidType (describe j) "a boolean")
  | .text, .str s => .ok (.text s)
  | .text, _ => .error (invalidType (describe j) "a string")
  | .variants names, .str s =>
    match variantValue field s with
    | some v => .ok v
    | none => .error (unknownVariant s names)
  | .variants names, .obj [(k, v)] =>
    match variantValue field k with
    | none => .error (unknownVariant k names)
    | some fv =>
      match v with
      | .null => .ok fv
      | other => .error (invalidType (describe other) "unit")
  | .variants _, .obj _ => .error "invalid value: map, expected map with a single key"
  | .variants _, _ => .error (invalidType (describe j) "string or map")

def asMap (members : List (String × Json)) : List (String × Json) :=
  let keys := members.foldl (fun ks m => if ks.contains m.1 then ks else ks ++ [m.1]) []
  let sorted := keys.mergeSort fun a b => decide (a ≤ b)
  sorted.filterMap fun k => (members.reverse.find? fun m => m.1 == k).map fun m => (k, m.2)

/-- Reads settings from a JSON value. -/
def ofJson (j : Json) : Except String Settings :=
  match j with
  | .obj members =>
    (asMap members).foldlM (fun s (k, v) =>
      match fieldNames.idxOf? k with
      | some i => (fieldOfJson i v).map (setField s i)
      | none => .ok s) {}
  | .arr items =>
    if items.length > fieldNames.length then
      .error s!"invalid length {items.length}, expected fewer elements in array"
    else
      items.zipIdx.foldlM (fun s (v, i) => (fieldOfJson i v).map (setField s i)) {}
  | other => .error (invalidType (describe other) structName)

/-! ## From JSON text -/

def faultAt {α : Type} (c : Cursor) (message : String) : Except Error α :=
  .error { message, place := some c.place }

def wrongTypeAt {α : Type} (c : Cursor) (expected : String) : Except Error α :=
  match c.peek with
  | some 'n' => do let c ← c.advance.expectWord "ull".toList; faultAt c (invalidType "null" expected)
  | some 't' => do
    let c ← c.advance.expectWord "rue".toList
    faultAt c (invalidType "boolean `true`" expected)
  | some 'f' => do
    let c ← c.advance.expectWord "alse".toList
    faultAt c (invalidType "boolean `false`" expected)
  | some '"' => do
    let (s, c) ← readString c.advance
    faultAt c (invalidType (describe (.str s)) expected)
  | some '[' => faultAt c (invalidType "sequence" expected)
  | some '\x7b' => faultAt c (invalidType "map" expected)
  | some ch =>
    if ch == '-' || ch.isDigit then do
      let (n, c) ← readNumber c
      faultAt c (invalidType (describe (.num n)) expected)
    else c.peekFault .expectedSomeValue
  | none => c.peekFault .expectedSomeValue

def variantNameAt (field : Nat) (names : List String) (c : Cursor) :
    Except Error (FieldValue × Cursor) := do
  let (s, c) ← readString c.advance
  match variantValue field s with
  | some v => pure (v, c)
  | none => faultAt c (unknownVariant s names)

def fieldOfText (field : Nat) (c : Cursor) : Except Error (FieldValue × Cursor) :=
  let c := c.skipBlanks
  match c.peek with
  | none => c.peekFault .eofWhileParsingValue
  | some ch =>
    match kindAt field with
    | .flag =>
      if ch == 't' then do let c ← c.advance.expectWord "rue".toList; pure (.flag true, c)
      else if ch == 'f' then do let c ← c.advance.expectWord "alse".toList; pure (.flag false, c)
      else wrongTypeAt c "a boolean"
    | .text =>
      if ch == '"' then do let (s, c) ← readString c.advance; pure (.text s, c)
      else wrongTypeAt c "a string"
    | .variants names =>
      if ch == '"' then variantNameAt field names c
      else if ch == '\x7b' then do
        let c := c.advance.skipBlanks
        let (v, c) ← match c.peek with
          | some '"' => variantNameAt field names c
          | some _ => wrongTypeAt c "variant identifier"
          | none => c.peekFault .eofWhileParsingValue
        let c := c.skipBlanks
        let c ← match c.peek with
          | some ':' => pure c.advance
          | some _ => c.peekFault .expectedColon
          | none => c.peekFault .eofWhileParsingObject
        let c := c.skipBlanks
        let c ← match c.peek with
          | some 'n' => c.advance.expectWord "ull".toList
          | some _ => wrongTypeAt c "unit"
          | none => c.peekFault .eofWhileParsingValue
        let c := c.skipBlanks
        match c.peek with
        | some '\x7d' => pure (v, c.advance)
        | some _ => c.fault .expectedSomeValue
        | none => c.fault .eofWhileParsingObject
      else c.peekFault .expectedSomeValue

def membersOfText : Nat → Cursor → Bool → List Nat → Settings → Except Error (Settings × Cursor)
  | 0, c, _, _, _ => c.peekFault .recursionLimitExceeded
  | fuel + 1, c, first, seen, s => do
    let c := c.skipBlanks
    let c ← match c.peek with
      | some '\x7d' => return (s, c)
      | some ',' => if first then pure c else pure c.advance.skipBlanks
      | some _ => if first then pure c else c.peekFault .expectedObjectCommaOrEnd
      | none => c.peekFault .eofWhileParsingObject
    match c.peek with
    | some '"' =>
      let (key, c) ← readString c.advance
      let colon := fun (c : Cursor) =>
        let c := c.skipBlanks
        match c.peek with
        | some ':' => Except.ok c.advance
        | some _ => c.peekFault .expectedColon
        | none => c.peekFault .eofWhileParsingObject
      match fieldNames.idxOf? key with
      | some i =>
        if seen.contains i then
          let c := c.skipBlanks
          faultAt (if c.peek == some '\x7d' then c.advance else c) s!"duplicate field `{key}`"
        else
          let c ← colon c
          let (v, c) ← fieldOfText i c
          membersOfText fuel c false (i :: seen) (setField s i v)
      | none =>
        let c ← colon c
        let c ← skipValue c
        membersOfText fuel c false seen s
    | some '\x7d' => c.peekFault .trailingComma
    | some _ => c.peekFault .keyMustBeAString
    | none => c.peekFault .eofWhileParsingValue

def itemsOfText : List Nat → Cursor → Bool → Settings → Except Error (Settings × Cursor)
  | [], c, _, s => .ok (s, c)
  | i :: rest, c, first, s => do
    let c := c.skipBlanks
    let c ← match c.peek with
      | some ']' => return (s, c)
      | some ',' => if first then pure c else pure c.advance.skipBlanks
      | some _ => if first then pure c else c.peekFault .expectedListCommaOrEnd
      | none => c.peekFault .eofWhileParsingList
    match c.peek with
    | some ']' => c.peekFault .trailingComma
    | none => c.peekFault .eofWhileParsingValue
    | some _ =>
      let (v, c) ← fieldOfText i c
      itemsOfText rest c false (setField s i v)

/-- Reads settings from JSON text. -/
def ofJsonText (text : List Char) : Except Error Settings := do
  let c := (Cursor.ofText text).skipBlanks
  let (s, c) ← match c.peek with
    | none => c.peekFault .eofWhileParsingValue
    | some '\x7b' => do
      let (s, c) ← membersOfText (text.length + 1) c.advance true [] {}
      let c := c.skipBlanks
      match c.peek with
      | some '\x7d' => pure (s, c.advance)
      | some ',' => c.peekFault .trailingComma
      | some _ => c.peekFault .trailingCharacters
      | none => c.peekFault .eofWhileParsingObject
    | some '[' => do
      let (s, c) ← itemsOfText (List.range fieldNames.length) c.advance true {}
      let c := c.skipBlanks
      match c.peek with
      | some ']' => pure (s, c.advance)
      | some ',' =>
        let c := c.advance.skipBlanks
        match c.peek with
        | some ']' => c.peekFault .trailingComma
        | _ => c.peekFault .trailingCharacters
      | some _ => c.peekFault .expectedListCommaOrEnd
      | none => c.peekFault .eofWhileParsingList
    | some _ => wrongTypeAt c structName
  let c := c.skipBlanks
  match c.peek with
  | none => pure s
  | some _ => c.peekFault .trailingCharacters

end Settings
end Obfuscator
