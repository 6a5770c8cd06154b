import Obfuscator.Config.Yaml.Node
import Obfuscator.Config.Setting
import Obfuscator.Toml.Document
import Obfuscator.Config.Ini
import Obfuscator.Config.Ron
import Obfuscator.Config.Json5
import Obfuscator.Service.Delegate
import Obfuscator.Language
import Obfuscator.Text.Utf8
import Obfuscator.Text.CharClass
/-!
# Loading the service configuration

The service configuration is built from layers, each over the one before: defaults (the
default endpoint and model, a timeout of 60 seconds), a configuration file, the environment
(`CODESHIELD_ENDPOINT`, `CODESHIELD_MODEL`, `CODESHIELD_API_KEY`, `CODESHIELD_TIMEOUT_SECS`, as
strings), and values given on the command line. The keys of every layer are paths into the
assembled tree, where a table merges into what is there and any other value replaces it.

A file named on the command line must exist, or a file of that name with a known extension
added; its format is told by its extension. Without a name, `codeshield` with any known
extension is used if there is one. Formats: TOML, JSON, YAML, INI, RON and JSON5.

The endpoint, the model and the credential are read as strings: scalars are shown as text,
and nothing, tables and arrays are refused. The timeout is read as an unsigned integer:
integers that fit, strings of digits and the words `true`, `on`, `yes` (one) and `false`,
`off`, `no` (zero), booleans, and floats rounded half away from zero. A fault about the
timeout names its key and, when a file gave it, the file.
-/

namespace Obfuscator
namespace Config

/-- The file formats of configuration files. -/
inductive Format where
  | toml
  | json
  | yaml
  | ini
  | ron
  | json5
  deriving DecidableEq, Repr

namespace Format

def all : List Format := [toml, json, yaml, ini, ron, json5]

def extensions : Format → List String
  | toml => ["toml"]
  | json => ["json"]
  | yaml => ["yaml", "yml"]
  | ini => ["ini"]
  | ron => ["ron"]
  | json5 => ["json5"]

def ofExtension? (ext : String) : Option Format := all.find? fun f => f.extensions.contains ext

end Format

def Format.read (f : Format) (uri : String) (text : List Char) :
    Except LoadError (List (String × Value)) :=
  match f with
  | .json =>
    match Json.parse text with
    | .ok j =>
      match ofJson j with
      | .table es => .ok es
      | _ => .ok []
    | .error e => .error (.message e.text)
  | .toml =>
    match Toml.parse text with
    | .ok entries => .ok ((ofTomlEntries entries).foldl (fun acc (k, v) => setKey acc k v) [])
    | .error e => .error (.message (e.text text))
  | .yaml => Yaml.readTable text
  | .ini => Ini.readTable text
  | .ron => Ron.readTable text
  | .json5 => Json5.readTable uri text

abbrev FileLookup := String → Option (List UInt8)

/-- The names tried for a source after its own name: the name with each known extension added,
in the order of the formats. -/
def extendedNames (name : String) : List (String × Format) :=
  Format.all.flatMap fun f => f.extensions.map fun ext => (name ++ "." ++ ext, f)

def sourceName (file : Option String) : String := file.getD "codeshield"

def consultedNames (file : Option String) : List String :=
  let name := sourceName file
  name :: (extendedNames name).map Prod.fst

/-- Finds the file of a configuration source: the name itself when it exists, its format told
by its extension; otherwise the name with a known extension added. Gives the file's name and
format. -/
def findFile (files : FileLookup) (name : String) : Except String (String × Format) :=
  if (files name).isSome then
    match (Language.fileName? name).bind Language.extensionOf? |>.bind Format.ofExtension? with
    | some f => .ok (name, f)
    | none => .error s!"configuration file \"{name}\" is not of a registered file format"
  else
    match (extendedNames name).find? fun c => (files c.1).isSome with
    | some c => .ok c
    | none => .error s!"configuration file \"{name}\" not found"

/-- Reads a configuration source: its top table and the name of its file. A source that is not
required gives an empty table when it cannot be found or read. -/
def readSource (files : FileLookup) (name : String) (required : Bool) :
    Except LoadError (List (String × Value) × Option String) :=
  let found : Except String (String × Format × List Char) := do
    let (uri, f) ← findFile files name
    match (files uri).bind Text.decodeUtf8? with
    | some text => pure (uri, f, text)
    | none => .error "stream did not contain valid UTF-8"
  match found with
  | .error e => if required then .error (.message e) else .ok ([], none)
  | .ok (uri, f, text) =>
    match f.read uri text with
    | .ok entries => .ok (entries, some uri)
    | .error (.message cause) => .error (.message s!"{cause} in {uri}")
    | .error e => .error e

/-- Values given on the command line. -/
structure Overrides where
  endpoint : Option String := none
  model : Option String := none
  apiKey : Option String := none
  timeoutSecs : Option Nat := none
  deriving Inhabited, Repr

/-- Where and how to reach the rewriting service. -/
structure ServiceConfig where
  endpoint : String
  model : String
  timeoutSecs : Nat
  apiKey : Option String
  deriving Inhabited, Repr, DecidableEq

def ServiceConfig.credential (c : ServiceConfig) : Option String :=
  c.apiKey.filter fun k => !Text.isBlankText k.toList

def environmentKeys : List (String × String) :=
  [("CODESHIELD_ENDPOINT", "endpoint"), ("CODESHIELD_MODEL", "model"),
    ("CODESHIELD_API_KEY", "api_key"), ("CODESHIELD_TIMEOUT_SECS", "timeout_secs")]

def Value.asString : Value → Except String String
  | .str s => .ok s
  | .bool b => .ok (toString b)
  | .int i => .ok (toString i)
  | .uint n => .ok (toString n)
  | .float f => .ok (f.render floatFormat)
  | v => .error s!"invalid type: {v.unexpected}, expected a string"

def parseU64 (s : String) : Option Nat :=
  let cs := match s.toList with
    | '+' :: r => r
    | r => r
  if cs.isEmpty || !cs.all Char.isDigit then none
  else
    let n := cs.foldl (fun n c => n * 10 + (c.toNat - '0'.toNat)) 0
    if n ≤ Binary64.maxU64 then some n else none

def Value.asU64 (key : String) (origin : Option String) (v : Value) : Except String Nat :=
  let fail := fun (expected : String) =>
    Except.error (s!"invalid type: {v.unexpected}, expected {expected} for key `{key}`" ++
      (origin.map (" in " ++ ·)).getD "")
  match v with
  | .uint n => .ok n
  | .int i => if 0 ≤ i then .ok i.toNat else fail "an unsigned 64 bit or less integer"
  | .str s =>
    let l := lowercase s
    if l == "true" || l == "on" || l == "yes" then .ok 1
    else if l == "false" || l == "off" || l == "no" then .ok 0
    else
      match parseU64 s with
      | some n => .ok n
      | none => fail "an integer"
  | .bool b => .ok (if b then 1 else 0)
  | .float f => .ok f.toU64
  | _ => fail "an integer"

/-- Builds the service configuration from its layers: defaults, the file named (or the default
file, if there is one), the environment and the command line. Each layer's keys are read as paths
and set one by one into the assembled tree (see `Setting.set`). -/
def load (files : FileLookup) (env : String → Option String) (file : Option String)
    (o : Overrides) : Except LoadError ServiceConfig := do
  let defaults : List (String × Value) :=
    [("endpoint", .str Delegate.defaultEndpoint), ("model", .str Delegate.defaultModel),
      ("timeout_secs", .uint 60)]
  let (entries, origin) ← readSource files (sourceName file) file.isSome
  let environment : List (String × Value) := environmentKeys.filterMap fun (var, k) =>
    (env var).map fun s => (k, Value.str s)
  let given : List (String × Value) :=
    (o.endpoint.map fun s => ("endpoint", Value.str s)).toList ++
    (o.model.map fun s => ("model", Value.str s)).toList ++
    (o.apiKey.map fun s => ("api_key", Value.str s)).toList ++
    (o.timeoutSecs.map fun n => ("timeout_secs", Value.uint n)).toList
  let layer := fun (source : Option String) (root : Setting) (kvs : List (String × Value)) =>
    kvs.foldlM (fun root (k, v) => root.setAtKey source k v) root
  let root ← layer none Setting.emptyTable defaults
  let root ← layer origin root entries
  let root ← layer none root (environment ++ given)
  let apiKey ← match root.get "api_key" with
    | some s => (s.shape.asString.map some).mapError .message
    | none => pure none
  let endpoint ← match root.get "endpoint" with
    | some s => s.shape.asString.mapError .message
    | none => .error (.message "configuration property \"endpoint\" not found")
  let model ← match root.get "model" with
    | some s => s.shape.asString.mapError .message
    | none => .error (.message "configuration property \"model\" not found")
  let timeoutSecs ← match root.get "timeout_secs" with
    | some s => (s.shape.asU64 "timeout_secs" s.origin).mapError .message
    | none => .error (.message "configuration property \"timeout_secs\" not found")
  pure { endpoint, model, timeoutSecs, apiKey }

end Config
end Obfuscator
