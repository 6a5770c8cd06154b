import Obfuscator.Passes
import Obfuscator.Random
import Obfuscator.Settings.Basic
import Obfuscator.Json.Value
/-!
# The local pipeline

The local pipeline runs the passes the settings ask for, always in the same order: renaming
(with draws from the seed, keeping the excluded identifiers), recoding of string literals,
decoy code, and minifying at the strong intensity. Its report says what each pass did. Every
result carries a header, a one-line comment that says how the text was produced.
-/

namespace Obfuscator

/-- How a text was obfuscated. -/
inductive Strategy where
  | onMachine
  | delegated
  deriving DecidableEq, Repr

def Strategy.name : Strategy → String
  | .onMachine => "local"
  | .delegated => "delegated"

/-- What the passes of a local run did. -/
structure Report where
  identifiersRenamed : Nat := 0
  literalsRecoded : Nat := 0
  literalsFailed : Nat := 0
  deadCodeInjected : Bool := false
  minified : Bool := false
  deriving DecidableEq, Repr

/-- An obfuscated text with its header; local runs also carry their report. -/
structure Outcome where
  strategy : Strategy
  language : Language
  header : String
  body : String
  report : Option Report
  deriving DecidableEq, Repr

/-- The comment line that heads a text obfuscated in the given way. -/
def provenanceHeader (strategy : Strategy) (language : Language) : String :=
  let text := match strategy with
    | .onMachine => s!"[LOCAL MODE] CodeShield obfuscation applied ({language.name})"
    | .delegated => s!"[DELEGATED MODE] Obfuscated by remote rewriting service ({language.name})"
  language.profile.commentLine text

namespace Outcome

def output (o : Outcome) : String := o.header ++ "\n" ++ o.body

def ofDelegated (language : Language) (body : String) : Outcome :=
  { strategy := .delegated, language, header := provenanceHeader .delegated language, body,
    report := none }

end Outcome

namespace Pipeline

/-- Runs the passes the settings ask for, renaming with draws from the seed; the table of names
comes with the outcome. -/
def run (seed : UInt64) (settings : Settings) (code : String) : Option (Outcome × RenameMap) := do
  let language := settings.language
  let (text, names) ←
    if settings.renameVariables then
      Rename.run language settings.exclusionList (Draws.ofSeed seed) code.toList
    else pure (code.toList, {})
  let report : Report := { identifiersRenamed := names.size }
  let (text, report) ←
    if settings.stringEncryption then do
      let r ← Recode.run language text
      pure (r.code, { report with literalsRecoded := r.recoded, literalsFailed := r.failed })
    else pure (text, report)
  let (text, report) :=
    if settings.deadCodeInjection then (DeadCode.inject language text,
      { report with deadCodeInjected := true })
    else (text, report)
  let (text, report) ←
    if settings.intensity.minifies then do
      let t ← Minify.run language text
      pure (t, { report with minified := true })
    else pure (text, report)
  let outcome : Outcome :=
    { strategy := .onMachine, language := language,
      header := provenanceHeader .onMachine language, body := String.ofList text,
      report := some report }
  pure (outcome, names)

end Pipeline

/-!
## Results as JSON

A result is written as a JSON object with its fields in a fixed order: the strategy, the
language, the header and the text; a local result adds its report, whose fields are counts and
flags in the order the passes run.
-/

def Report.toJson (r : Report) : Json :=
  .obj [("identifiersRenamed", .num (.nat r.identifiersRenamed)),
    ("literalsRecoded", .num (.nat r.literalsRecoded)),
    ("literalsFailed", .num (.nat r.literalsFailed)),
    ("deadCodeInjected", .bool r.deadCodeInjected), ("minified", .bool r.minified)]

/-- The result as a JSON object; only a local result has a report. -/
def Outcome.toJson (o : Outcome) : Json :=
  .obj ([("strategy", .str o.strategy.name), ("language", .str o.language.name),
    ("header", .str o.header), ("body", .str o.body)] ++
    (o.report.map fun r => [("report", r.toJson)]).getD [])

end Obfuscator
