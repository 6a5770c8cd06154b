import Obfuscator.Settings.Basic
import Obfuscator.Yaml.Load
import Obfuscator.Yaml.Resolve
import Obfuscator.Failure
import Obfuscator.Language
import Obfuscator.Text.Utf8
/-!
# Settings files

A settings file is read as JSON when its extension is `json` in any case, and as YAML
otherwise, a file without an extension included. Its bytes must be UTF-8. JSON settings are read
as `Settings.ofJsonText` reads them; this module reads the YAML ones.

## Settings as YAML

Settings written in YAML are a mapping with one entry per field, read from the first document
of the text. As in JSON every field is optional and other keys are ignored, whatever their
value; a field given twice is refused. An empty document, or one that is an empty plain scalar,
gives the defaults.

A flag is a plain `true` or `false` (also capitalised, or in capitals); a text field takes any
scalar as its text; a variant is named by a scalar, or by a local tag such as `!Go` on an empty
scalar. A fault about a field's value names the field and tells the value's place, except a tag
that names no variant, which is a fault about the mapping as a whole; such a fault tells no
place when the mapping starts the text. Faults of form
found by the reader come after faults about the values before them, and a second document is
refused only once the first has been read.
-/

namespace Obfuscator
namespace Settings

open Yaml

/-- A position in the items of a loaded document. -/
structure Walk where
  doc : Document
  pos : Nat := 0

namespace Walk

def peek (w : Walk) : Except Yaml.Error (Item × Mark) :=
  match w.doc.items[w.pos]? with
  | some im => .ok im
  | none => .error (w.doc.failure.getD .endOfStream)

def next (w : Walk) : Except Yaml.Error (Item × Mark × Walk) := do
  let (i, m) ← w.peek
  pure (i, m, { w with pos := w.pos + 1 })

def resolve (w : Walk) (i : Item) (m : Mark) : Item × Mark :=
  match i with
  | .alias target => (w.doc.items[target]?).getD (i, m)
  | _ => (i, m)

def skipNode : Nat → Walk → Nat → Except Yaml.Error Walk
  | 0, w, _ => .ok w
  | n + 1, w, depth => do
    let (i, _, w) ← w.next
    let depth := match i with
      | .sequenceStart _ | .mappingStart _ => depth + 1
      | .sequenceEnd | .mappingEnd => depth - 1
      | _ => depth
    if depth == 0 then pure w else skipNode n w depth

end Walk

def localTag? (tag : Option String) : Option String :=
  match tag with
  | some t =>
    match t.toList with
    | '!' :: [] => some "!"
    | '!' :: rest => some (String.ofList rest)
    | _ => none
  | none => none

/-- A fault in a field's value: one found in the value's node, placed at that node, or a tag that
names no variant, found before the node is read and placed with the mapping that holds the
field. -/
inductive ValueFault where
  | inNode (e : Yaml.Error)
  | unknownTag (text : String)

def fieldOfItem (field : Nat) (item : Item) : Except ValueFault FieldValue :=
  let fail := fun (text : String) => Except.error (ValueFault.inNode (Yaml.Error.msg text))
  let unknownTag := fun (text : String) => Except.error (ValueFault.unknownTag text)
  match kindAt field, item with
  | _, .void => .error (.inNode .endOfStream)
  | .flag, .scalar tag v style =>
    if style == .plain || (style == .literal && tag == some boolTag) then
      match parseBool v with
      | some b => .ok (.flag b)
      | none => fail (scalarMismatch tag v style "a boolean")
    else fail (scalarMismatch tag v style "a boolean")
  | .flag, .sequenceStart _ => fail (Yaml.invalidType "sequence" "a boolean")
  | .flag, .mappingStart _ => fail (Yaml.invalidType "map" "a boolean")
  | .text, .scalar _ v _ => .ok (.text v)
  | .text, .sequenceStart _ => fail (Yaml.invalidType "sequence" "a string")
  | .text, .mappingStart _ => fail (Yaml.invalidType "map" "a string")
  | .variants names, .scalar tag v style =>
    match localTag? tag with
    | some name =>
      match variantValue field name with
      | none => unknownTag (unknownVariant name names)
      | some fv =>
        if style == .plain && (v.isEmpty || isNull v) then .ok fv
        else fail (invalidValue (stringWord v) "null")
    | none =>
      match variantValue field v with
      | some fv => .ok fv
      | none => fail (unknownVariant v names)
  | .variants names, .mappingStart tag =>
    match localTag? tag with
    | some name =>
      match variantValue field name with
      | none => unknownTag (unknownVariant name names)
      | some _ => fail (Yaml.invalidType "map" "unit")
    | none => fail (Yaml.invalidType "map" "a YAML tag starting with '!'")
  | .variants names, .sequenceStart tag =>
    match localTag? tag with
    | some name =>
      match variantValue field name with
      | none => unknownTag (unknownVariant name names)
      | some _ => fail (Yaml.invalidType "sequence" "unit")
    | none => fail (Yaml.invalidType "sequence" "a YAML tag starting with '!'")
  | _, _ => .error (.inNode .endOfStream)

def fieldOfYaml (field : Nat) (key : String) (w : Walk) : Except Yaml.Error (FieldValue × Walk) := do
  let (i, m, w) ← w.next
  let (i, m) := w.resolve i m
  match fieldOfItem field i with
  | .ok v => pure (v, w)
  | .error (.inNode e) => .error (e.fixMark m key)
  | .error (.unknownTag text) => .error (.msg text)

def keyOfYaml (w : Walk) : Except Yaml.Error (String × Walk) := do
  let (i, m, w) ← w.next
  let (i, m) := w.resolve i m
  match i with
  | .scalar _ v _ => pure (v, w)
  | .sequenceStart _ => .error ((Yaml.Error.msg (Yaml.invalidType "sequence" "field identifier")).fixMark m ".")
  | .mappingStart _ => .error ((Yaml.Error.msg (Yaml.invalidType "map" "field identifier")).fixMark m ".")
  | _ => .error .endOfStream

def membersOfYaml : Nat → Walk → List Nat → Settings → Except Yaml.Error (Settings × Walk)
  | 0, w, _, s => .ok (s, w)
  | n + 1, w, seen, s => do
    let (i, _) ← w.peek
    match i with
    | .mappingEnd | .void => pure (s, w)
    | _ =>
      let (key, w) ← keyOfYaml w
      match fieldNames.idxOf? key with
      | some f =>
        if seen.contains f then .error (.msg s!"duplicate field `{key}`")
        else
          let (v, w) ← fieldOfYaml f key w
          membersOfYaml n w (f :: seen) (setField s f v)
      | none =>
        let w ← w.skipNode (w.doc.items.size + 1) 0
        membersOfYaml n w seen s

def ofYamlDocument (doc : Document) : Except Yaml.Error Settings := do
  let w : Walk := { doc }
  let (i, m, w) ← w.next
  let (i, m) := w.resolve i m
  let read : Except Yaml.Error Settings :=
    match i with
    | .mappingStart _ => do
      let (s, w) ← membersOfYaml (doc.items.size + 1) w [] {}
      let _ ← w.next
      pure s
    | .void => .ok {}
    | .scalar tag v style =>
      if style == .plain && v.isEmpty then .ok {}
      else .error (.msg (scalarMismatch tag v style structName))
    | .sequenceStart _ => .error (.msg (Yaml.invalidType "sequence" structName))
    | _ => .error .endOfStream
  match read with
  | .ok s => pure s
  | .error e => .error (e.fixMark m ".")

/-- Reads settings from YAML text. Faults about the first document's values come first, then a
fault of form, then a second document. -/
def ofYamlText (text : List Char) : Except Yaml.Error Settings :=
  let (doc, more) := loadFirst text
  match ofYamlDocument doc with
  | .error e => .error e
  | .ok s =>
    match doc.failure with
    | some e => .error e
    | none => if more then .error .moreThanOneDocument else .ok s

/-! ## Choosing the reader -/

def isJsonPath (path : String) : Bool :=
  match (Language.fileName? path).bind Language.extensionOf? with
  | some ext => String.ofList (Language.asciiLower ext.toList) == "json"
  | none => false

/-- Reads settings from the bytes of a file at `path`. -/
def ofFile (path : String) (bytes : List UInt8) : Except SettingsError Settings :=
  match Text.decodeUtf8? bytes with
  | none => .error (.file .notUtf8)
  | some text =>
    if isJsonPath path then (ofJsonText text).mapError .json
    else (ofYamlText text).mapError .yaml

end Settings
end Obfuscator
