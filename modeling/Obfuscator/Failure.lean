import Obfuscator.Service.Delegate
import Obfuscator.Text.Printable
import Obfuscator.Yaml.Load
/-!
# Failures

Why a request could not be served. Each failure has a message for people, and a structured
form that shows its cause and the cause's own parts, as the command line prints it.
-/

namespace Obfuscator

/-- Why a file could not be read or written. -/
inductive FileError where
  | notFound
  | isDirectory
  | notDirectory
  | notUtf8
  | other (description : String)
  deriving DecidableEq, Repr

namespace FileError

def message : FileError → String
  | notFound => "No such file or directory (os error 2)"
  | isDirectory => "Is a directory (os error 21)"
  | notDirectory => "Not a directory (os error 20)"
  | notUtf8 => "stream did not contain valid UTF-8"
  | other d => d

/-- The structured form of the file error. -/
def structured : FileError → String
  | notFound => "Os \x7b code: 2, kind: NotFound, message: \"No such file or directory\" \x7d"
  | isDirectory => "Os \x7b code: 21, kind: IsADirectory, message: \"Is a directory\" \x7d"
  | notDirectory => "Os \x7b code: 20, kind: NotADirectory, message: \"Not a directory\" \x7d"
  | notUtf8 => "Error \x7b kind: InvalidData, message: \"stream did not contain valid UTF-8\" \x7d"
  | other d => "Custom \x7b kind: Other, error: " ++ Text.quoteText d ++ " \x7d"

end FileError

/-- Why settings could not be loaded from a file. -/
inductive SettingsError where
  | file (e : FileError)
  | json (e : Json.Error)
  | yaml (e : Yaml.Error)
  deriving DecidableEq, Repr

namespace SettingsError

def kind : SettingsError → String
  | file _ => "Io"
  | json _ => "Json"
  | yaml _ => "Yaml"

def message : SettingsError → String
  | file e => "io error: " ++ e.message
  | json e => "json error: " ++ e.text
  | yaml e => "yaml error: " ++ e.text

def structuredError (e : Json.Error) : String :=
  match e.place with
  | some p => s!"Error({Text.quoteText e.message}, line: {p.line}, column: {p.column})"
  | none => s!"Error({Text.quoteText e.message})"

/-- The structured form of the settings error. -/
def structured : SettingsError → String
  | file e => s!"Io({e.structured})"
  | json e => s!"Json({structuredError e})"
  | yaml e => s!"Yaml({e.structured})"

end SettingsError

/-- Why a request failed. -/
inductive Failure where
  | missingCredential
  | delegated (e : DelegateError)
  | config (message : String)
  | settings (e : SettingsError)
  | metrics (message : String)
  | file (e : FileError)
  | other (message : String)
  | halted
  deriving DecidableEq, Repr

namespace Failure

def message : Failure → String
  | missingCredential => "no credential configured for the rewriting service"
  | delegated e => (e.message?).getD "http error"
  | config m => "config error: config error: " ++ m
  | settings e => "settings error: " ++ e.message
  | metrics m => "metrics error: " ++ m
  | file e => "io error: " ++ e.message
  | other m => "other error: " ++ m
  | halted => "internal error: entered unreachable code"

/-- The structured form of the failure. -/
def structured : Failure → String
  | missingCredential => "MissingCredential"
  | delegated .transport => "DelegatedServiceFailure(Http(<reqwest error>))"
  | delegated .invalidResponse => "DelegatedServiceFailure(InvalidResponse)"
  | delegated .emptyResponse => "DelegatedServiceFailure(EmptyResponse)"
  | delegated (.service m) => s!"DelegatedServiceFailure(Service({Text.quoteText m}))"
  | config m => s!"Config(Config({m}))"
  | settings e => s!"Settings({e.structured})"
  | metrics m => s!"Metrics({m})"
  | file e => s!"Io({e.structured})"
  | other m => s!"Other({Text.quoteText m})"
  | halted => "Halted"

end Failure
end Obfuscator
