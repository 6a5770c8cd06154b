import Obfuscator.CommandLine.Interface
import Obfuscator.CommandLine.Host
import Obfuscator.Service.Transformer
import Obfuscator.Settings.File
import Obfuscator.Pipeline
import Obfuscator.Language
import Obfuscator.Text.Utf8
/-!
# Running the command line

A command line is read first. A page it asks for goes to standard output with status 0; a
refusal goes to standard error with status 2.

`languages` prints a table with a row per language: its name, whether it renames, whether
whitespace matters, its line comment and its decode expression.

`obfuscate` works in this order, and the first failure ends it with status 1 and the failure's
structured form on standard error:
1. It reads the input: the file named, or standard input when none is named or the name is `-`.
2. An input of blanks only is refused.
3. It loads the settings file, if one is named, and applies the options over it. The language
   comes from `--language`, else from the input's extension.
4. It loads the service configuration, then transforms the input: locally, or through the
   service when a credential is present (`--offline` drops it) or `--delegated` demands it.
5. The result is written as text or, with `--json`, as indented JSON. It goes to the output file,
   or to standard output with a line break.
6. With `--metrics`, the counters then go to standard error, followed by an empty line.
-/

namespace Obfuscator
namespace CommandLine

def languageTable : String :=
  let row := fun (name renames layout comment decode : String) =>
    padRight 12 name ++ " " ++ padRight 10 renames ++ " " ++ padRight 10 layout ++ " " ++
      padRight 8 comment ++ " " ++ decode ++ "\n"
  row "language" "renaming" "whitespace" "comment" "decode" ++
    String.join (Language.all.map fun l =>
      let p := l.profile
      row l.name (if p.renames then "yes" else "no") (if p.whitespaceSensitive then "sensitive" else "free")
        p.lineComment (p.decodeExpression "<payload>"))

def readsStandardInput (path : String) : Bool :=
  match path.splitOn "/" with
  | first :: rest => first == "-" && rest.all fun p => p == "" || p == "."
  | [] => false

def Exit.ofFailure (f : Failure) : Exit :=
  match f with
  | .halted => { status := 101, stderr := f.message ++ "\n" }
  | _ => { status := 1, stderr := "Error: " ++ f.structured ++ "\n" }

variable {m : Type → Type} [Monad m]

def loadSettings (h : Host m) (r : Request) : m (Except Failure Settings) := do
  match r.settings with
  | none => return .ok (r.apply {})
  | some path =>
    match ← h.readFile path with
    | .error e => return .error (.settings (.file e))
    | .ok bytes => return ((Settings.ofFile path bytes).map r.apply).mapError .settings

def loadService (h : Host m) (r : Request) : m (Except Failure Config.ServiceConfig) := do
  let found ← (Config.consultedNames r.config).mapM fun n => do
    return (n, (← h.readFile n).toOption)
  let vars ← Config.environmentKeys.mapM fun (var, _) => do return (var, ← h.environment var)
  let files : Config.FileLookup := fun n => (found.find? (·.1 == n)).bind Prod.snd
  let env := fun v => (vars.find? (·.1 == v)).bind Prod.snd
  return (Config.load files env r.config r.overrides).mapError fun
    | .message m => .config m
    | .badPosition => .halted

/-- Delivers a result: to the output file, or to standard output with a line break; the
counters follow on standard error when they are asked for. -/
def deliver (h : Host m) (r : Request) (o : Outcome) (counters : Metrics) : m Exit := do
  let text := if r.json then o.toJson.pretty 0 else o.output
  let stderr := if r.metrics then counters.render ++ "\n" else ""
  match r.output with
  | none => return { status := 0, stdout := text ++ "\n", stderr }
  | some path =>
    match ← h.writeFile path text with
    | .error e => return Exit.ofFailure (.file e)
    | .ok () => return { status := 0, stderr }

/-- Runs `obfuscate`; none when the pipeline could not finish. -/
def obfuscate (h : Host m) (r : Request) : m (Option Exit) := do
  let fromInput := (r.input.map readsStandardInput).getD true
  let bytes ← if fromInput then Except.ok <$> h.readInput else h.readFile (r.input.getD "")
  match bytes.bind fun b => (Text.decodeUtf8? b).elim (.error .notUtf8) .ok with
  | .error e => return some (Exit.ofFailure (.file e))
  | .ok code =>
  if Text.isBlankText code then
    return some (Exit.ofFailure (.other "nothing to obfuscate: input is empty"))
  match ← loadSettings h r with
  | .error f => return some (Exit.ofFailure f)
  | .ok settings =>
  match ← loadService h r with
  | .error f => return some (Exit.ofFailure f)
  | .ok service =>
  let seed ← match r.seed with
    | some s => pure s
    | none => h.freshSeed
  let t : Transformer := { seed, metrics := some {} }
  let credential := if r.offline then none else service.credential
  let route := if r.delegated then Route.serviceOnly else Route.byCredential
  match t.serve h.service route (String.ofList code) settings credential with
  | none => return none
  | some ex =>
    match ex.result with
    | .error f => return some (Exit.ofFailure f)
    | .ok o => return some (← deliver h r o (ex.transformer.metrics.getD {}))

/-- Runs the program on its arguments; none when the pipeline could not finish. -/
def run (h : Host m) (args : List String) : m (Option Exit) :=
  match program.invoke args with
  | .display text => return some { status := 0, stdout := text }
  | .refuse text => return some { status := 2, stderr := text }
  | .run c given =>
    match Task.ofCommand c given with
    | .listLanguages => return some { status := 0, stdout := languageTable }
    | .obfuscate r => obfuscate h r

end CommandLine
end Obfuscator
