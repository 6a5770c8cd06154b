/-!
# Command-line grammars

A program's command line is described as data: the program's name, version and summary, its own
options, and its commands, each with a summary and options. An option has a long name and
perhaps a one-letter short one. It takes no value, exactly one, or at most one (a stand-in
value then takes the place of a missing one). A reader checks each value given.

From the description come the texts people read:
* an option as faults name it (`--seed <SEED>`, `--rename [<RENAME>]`);
* usage lines;
* help pages, whose columns line up.

An option's row in a help page pads its names to the widest row's, then two spaces, then its
help, with the values it accepts after it.
-/

namespace Obfuscator
namespace CommandLine

/-- How many values an option takes. -/
inductive Arity where
  | switch
  | value
  | optionalValue (standIn : String)
  deriving DecidableEq, Repr

/-- How an option's values are read. -/
inductive Reader where
  | text
  | path
  | boolean
  | unsigned
  | checked (check : String → Option String)

def Reader.choices : Reader → List String
  | .boolean => ["true", "false"]
  | _ => []

/-- What giving an option does. -/
inductive Action where
  | store
  | help
  | version
  deriving DecidableEq, Repr

/-- An option of a program or command. -/
structure Flag where
  long : String
  short : Option Char := none
  arity : Arity := .switch
  valueName : String := ""
  reader : Reader := .text
  help : String := ""
  action : Action := .store

namespace Flag

def takesValue (f : Flag) : Bool := f.arity != .switch

/-- The option as faults and usage lines name it: its long name, then its value's
placeholder, in brackets when the value may be left out. -/
def display (f : Flag) : String :=
  "--" ++ f.long ++
    match f.arity with
    | .switch => ""
    | .value => " <" ++ f.valueName ++ ">"
    | .optionalValue _ => " [<" ++ f.valueName ++ ">]"

def names (f : Flag) : String :=
  (match f.short with
    | some c => String.ofList ['-', c, ',', ' ']
    | none => "    ") ++ f.display

def helpText (f : Flag) : String :=
  match f.reader.choices with
  | [] => f.help
  | cs =>
    let shown := "[possible values: " ++ String.intercalate ", " cs ++ "]"
    if f.help.isEmpty then shown else f.help ++ " " ++ shown

def helpSwitch : Flag := { long := "help", short := some 'h', help := "Print help", action := .help }

def versionSwitch : Flag :=
  { long := "version", short := some 'V', help := "Print version", action := .version }

end Flag

/-- A command of a program: its name, summary, options in the order its help page lists them,
the pairs of options (by long name) that exclude each other, and the options (by long name, in
order) that form the command's group, which the usage line of some faults shows as one. -/
structure Command where
  name : String
  about : String
  flags : List Flag
  exclusive : List (String × String) := []
  group : List String := []

/-- A program with commands. -/
structure Program where
  name : String
  version : String
  about : String
  flags : List Flag
  commands : List Command

/-! ## Pages -/

def padRight (width : Nat) (s : String) : String :=
  s ++ String.ofList (List.replicate (width - s.length) ' ')

def columns (rows : List (String × String)) : String :=
  let width := rows.foldl (fun w r => max w r.1.length) 0
  String.join (rows.map fun (l, r) => "  " ++ padRight width l ++ "  " ++ r ++ "\n")

/-- A help page: the summary, the usage line, then titled sections of rows. -/
def page (about usage : String) (sections : List (String × List (String × String))) : String :=
  about ++ "\n\nUsage: " ++ usage ++ "\n" ++
    String.join (sections.map fun (title, rows) => "\n" ++ title ++ ":\n" ++ columns rows)

def flagRows (flags : List Flag) : List (String × String) :=
  flags.map fun f => (f.names, f.helpText)

def helpCommandAbout : String := "Print this message or the help of the given subcommand(s)"

namespace Program

def allFlags (p : Program) : List Flag := p.flags ++ [Flag.helpSwitch, Flag.versionSwitch]

def commandNames (p : Program) : List String := p.commands.map (·.name) ++ ["help"]

def command? (p : Program) (name : String) : Option Command := p.commands.find? (·.name == name)

def usage (p : Program) : String := p.name ++ " [OPTIONS] <COMMAND>"

def helpPage (p : Program) : String :=
  page p.about p.usage
    [("Commands", p.commands.map (fun c => (c.name, c.about)) ++ [("help", helpCommandAbout)]),
     ("Options", flagRows p.allFlags)]

def versionLine (p : Program) : String := p.name ++ " " ++ p.version ++ "\n"

def commandPath (p : Program) (c : Command) : String := p.name ++ " " ++ c.name

def commandFlags (_ : Program) (c : Command) : List Flag := c.flags ++ [Flag.helpSwitch]

def commandUsage (p : Program) (c : Command) : String :=
  p.commandPath c ++ (if (p.commandFlags c).isEmpty then "" else " [OPTIONS]")

def commandHelpPage (p : Program) (c : Command) : String :=
  page c.about (p.commandUsage c) [("Options", flagRows (p.commandFlags c))]

def helpCommandUsage (p : Program) : String := p.name ++ " help [COMMAND]..."

def helpCommandPage (p : Program) : String :=
  page helpCommandAbout p.helpCommandUsage
    [("Arguments", [("[COMMAND]...", "Print help for the subcommand(s)")])]

end Program

end CommandLine
end Obfuscator
