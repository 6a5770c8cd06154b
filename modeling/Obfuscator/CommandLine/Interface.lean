import Obfuscator.CommandLine.Parse
import Obfuscator.Settings.Basic
import Obfuscator.Config.Load
/-!
# The program's command line

The program has two commands.
* `obfuscate` transforms a source file, or standard input. Its options name the input, output,
  settings and configuration files, and the language and intensity. They also switch the passes
  on and off, give a seed, override the service configuration, and choose the mode and the form
  of the output.
* `languages` lists the supported languages and what the local pipeline does for each.

The program and both commands take `--log-json`.

A language is named loosely, as the language parser reads it; a refused name is shown as given.
An intensity is named loosely too; a refused one is shown trimmed and in lower case. The
switches for the passes take an optional `true` or `false`, and alone they mean `true`.
`--offline` and `--delegated` exclude each other.

The options given to `obfuscate` are decoded into a request, whose fields are what the run needs.
-/

namespace Obfuscator
namespace CommandLine

def languageFault (v : String) : Option String :=
  match Language.parse? v with
  | some _ => none
  | none => some ("unsupported language: " ++ v)

def intensityFault (v : String) : Option String :=
  match Intensity.parse v with
  | .ok _ => none
  | .error normalized => some ("unknown intensity: " ++ normalized)

def logJsonFlag : Flag := { long := "log-json", help := "Emit logs as JSON" }

def passFlag (long valueName help : String) : Flag :=
  { long, arity := .optionalValue "true", valueName, reader := .boolean, help }

def valueFlag (long valueName : String) (reader : Reader) (help : String) : Flag :=
  { long, arity := .value, valueName, reader, help }

def obfuscateFlags : List Flag :=
  [{ valueFlag "input" "INPUT" .path "Input file; stdin when omitted or \"-\"" with short := some 'i' },
   logJsonFlag,
   { valueFlag "output" "OUTPUT" .path "Output file; stdout when omitted. Left untouched on failure"
       with short := some 'o' },
   { valueFlag "settings" "SETTINGS" .path "Settings file (YAML or JSON, camelCase keys)"
       with short := some 's' },
   { valueFlag "language" "LANGUAGE" (.checked languageFault)
       "Language; inferred from the input extension when omitted" with short := some 'l' },
   valueFlag "intensity" "INTENSITY" (.checked intensityFault) "",
   passFlag "rename" "RENAME" "",
   passFlag "strings" "STRINGS" "",
   passFlag "dead-code" "DEAD_CODE" "",
   passFlag "flatten" "FLATTEN" "Only honoured by the rewriting service",
   valueFlag "target" "TARGET" .text "",
   valueFlag "exclude" "EXCLUDE" .text "Comma-separated identifiers to keep",
   valueFlag "seed" "SEED" .unsigned "Seed for reproducible rename tokens",
   valueFlag "config" "CONFIG" .path "Service config file (toml, yaml or json)",
   valueFlag "endpoint" "ENDPOINT" .text "",
   valueFlag "model" "MODEL" .text "",
   { valueFlag "api-key" "API_KEY" .text "" with short := some 'k' },
   valueFlag "timeout-secs" "TIMEOUT_SECS" .unsigned "",
   { long := "offline", help := "Ignore any configured credential and run the local pipeline" },
   { long := "delegated", help := "Require the rewriting service; fails without a credential" },
   { long := "metrics", help := "Print Prometheus metrics to stderr when done" },
   { long := "json", help := "Emit the result (strategy, header, body, pass report) as JSON" }]

def obfuscateCommand : Command :=
  { name := "obfuscate", about := "Transform a source file (or stdin)", flags := obfuscateFlags,
    exclusive := [("offline", "delegated")],
    group := (obfuscateFlags.map (·.long)).filter (· != logJsonFlag.long) }

def languagesCommand : Command :=
  { name := "languages",
    about := "List supported languages and what the local pipeline does for each",
    flags := [logJsonFlag] }

/-- The program's command line. -/
def program : Program :=
  { name := "codeshield", version := "0.1.0",
    about := "Obfuscate source code locally or through a rewriting service",
    flags := [logJsonFlag], commands := [obfuscateCommand, languagesCommand] }

/-- What `obfuscate` is asked to do. -/
structure Request where
  input : Option String := none
  output : Option String := none
  settings : Option String := none
  language : Option Language := none
  intensity : Option Intensity := none
  rename : Option Bool := none
  strings : Option Bool := none
  deadCode : Option Bool := none
  flatten : Option Bool := none
  target : Option String := none
  exclude : Option String := none
  seed : Option UInt64 := none
  config : Option String := none
  overrides : Config.Overrides := {}
  offline : Bool := false
  delegated : Bool := false
  metrics : Bool := false
  json : Bool := false

namespace Request

def ofGiven (given : Given) : Request :=
  let value := fun (long : String) => (given.find? (·.1.long == long)).bind (·.2.head?)
  let present := fun (long : String) => given.any (·.1.long == long)
  let switch := fun (long : String) => (value long).map (· == "true")
  let number := fun (long : String) => (value long).bind fun v => (readUnsigned v).toOption
  { input := value "input", output := value "output", settings := value "settings",
    language := (value "language").bind Language.parse?,
    intensity := (value "intensity").bind fun v => (Intensity.parse v).toOption,
    rename := switch "rename", strings := switch "strings", deadCode := switch "dead-code",
    flatten := switch "flatten", target := value "target", exclude := value "exclude",
    seed := (number "seed").map Nat.toUInt64, config := value "config",
    overrides := { endpoint := value "endpoint", model := value "model", apiKey := value "api-key",
                   timeoutSecs := number "timeout-secs" },
    offline := present "offline", delegated := present "delegated", metrics := present "metrics",
    json := present "json" }

/-- The settings of the run: those loaded, then the language named or told by the input's
extension, then each pass and value that the request sets. -/
def apply (r : Request) (s : Settings) : Settings :=
  let inferred := r.input.bind Language.ofPath?
  { s with
    language := (r.language <|> inferred).getD s.language,
    intensity := r.intensity.getD s.intensity,
    renameVariables := r.rename.getD s.renameVariables,
    stringEncryption := r.strings.getD s.stringEncryption,
    deadCodeInjection := r.deadCode.getD s.deadCodeInjection,
    controlFlowFlattening := r.flatten.getD s.controlFlowFlattening,
    targetEnvironment := r.target.getD s.targetEnvironment,
    exclusions := r.exclude.getD s.exclusions }

end Request

/-- A task of the program. -/
inductive Task where
  | obfuscate (r : Request)
  | listLanguages

def Task.ofCommand (c : Command) (given : Given) : Task :=
  if c.name == obfuscateCommand.name then .obfuscate (Request.ofGiven given) else .listLanguages

end CommandLine
end Obfuscator
