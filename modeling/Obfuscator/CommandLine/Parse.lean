import Obfuscator.CommandLine.Grammar
/-!
# Reading a command line

Arguments are read one after another against a scope: the program itself or one of its
commands. An argument may be:
* a command's name (at the program's level);
* `--` (all later arguments are plain);
* a long option `--name` or `--name=value`;
* a group of short options `-abc`;
* the value an option waits for;
* a plain argument, which no scope here accepts.

An option that takes a value waits for the next argument unless a value is attached. A value is
checked when the option is recorded, which happens at the next option or at the end. At a
switch that shows a page, the waiting option is recorded first: a fault in its value wins over
the page.

A refused command line is answered with a fault in a fixed wording. When the fault names an
unknown option or command, a similar known name is offered. The usage line of a fault about an
unknown long option, an unwanted value or excluded options lists the options given so far.

Main statement: `Program.invoke` tells what a command line asks for. It may run a command with
the options given to it, show a page (help or version), or refuse the line with a fault's text.

## Similar names

A mistyped name on the command line is answered with the known names that resemble it.
Resemblance is the Jaro similarity of the two names. A character of the first name matches an
equal, still unmatched character of the second that lies at most `w` places from it, where `w`
is half the longer length less one; each character is matched at most once, the first fitting
place winning. Taken in order, the matched characters of the two names are paired, and half the
pairs that differ are transpositions. The score is the mean of three shares: the matches in the
first name, the matches in the second, and the matches that are no transposition.

Names scoring above 0.7 are similar. The score is computed in double precision, because the
threshold is compared there: a score of exactly 0.7 in real numbers may round to either side.
-/

namespace Obfuscator
namespace CommandLine

def jaroMatches (window : Nat) (a b : List Char) : List Char × Array Bool :=
  let bs := b.toArray
  a.zipIdx.foldl (fun (acc : List Char × Array Bool) (c, i) =>
    let lo := i - window
    let hi := min bs.size (i + window + 1)
    let free := fun j => bs[j]? == some c && !(acc.2[j]?.getD true)
    match (List.range' lo (hi - lo)).find? free with
    | some j => (acc.1 ++ [c], acc.2.setIfInBounds j true)
    | none => acc) ([], Array.replicate bs.size false)

/-- The Jaro similarity of two names, between 0 and 1. -/
def similarity (a b : String) : Float :=
  let a := a.toList
  let b := b.toList
  if a.isEmpty && b.isEmpty then 1
  else if a.isEmpty || b.isEmpty then 0
  else
    let window := max a.length b.length / 2 - 1
    let (fromA, used) := jaroMatches window a b
    let fromB := (b.zip used.toList).filterMap fun (c, u) => if u then some c else none
    let m := fromA.length
    if m == 0 then 0
    else
      let t := ((fromA.zip fromB).filter fun (x, y) => x != y).length / 2
      (m.toFloat / a.length.toFloat + m.toFloat / b.length.toFloat +
        (m - t).toFloat / m.toFloat) / 3

def similarNames (text : String) (names : List String) : List String :=
  let scored := (names.map fun n => (similarity text n, n)).filter fun p => p.1 > 0.7
  (scored.mergeSort fun x y => x.1 ≤ y.1).map Prod.snd

def closestName (text : String) (names : List String) : Option String :=
  (similarNames text names).getLast?

/-! ## Faults -/

/-- A hint that comes with a fault about an unknown option. -/
inductive Tip where
  | similarOption (name : String)
  | optionOfCommand (command name : String)
  deriving DecidableEq, Repr

/-- Why a command line was refused. Options are named as faults display them. -/
inductive UsageError where
  | unexpectedArgument (arg : String) (tip : Option Tip) (usage : String)
  | unknownCommand (name : String) (similar : List String) (usage : String) (helpable : Bool)
  | invalidValue (option value : String) (choices : List String) (similar : Option String)
  | refusedValue (option value fault : String)
  | conflict (option : String) (others : List String) (usage : String)
  | repeated (option usage : String)
  | unexpectedValue (option value usage : String)
  | missingCommand (program : String) (commands : List String) (usage : String)
  | commandAfterEscape (command usage : String)
  deriving DecidableEq, Repr

namespace UsageError

def quoted (s : String) : String := "'" ++ s ++ "'"

def closing (usage : Option String) (helpable : Bool := true) : String :=
  (usage.map fun u => "\n\nUsage: " ++ u).getD "" ++
    (if helpable then "\n\nFor more information, try '--help'.\n" else "\n")

def text : UsageError → String
  | unexpectedArgument arg tip usage =>
    let hint := match tip with
      | some (.similarOption n) => "\n\n  tip: a similar argument exists: " ++ quoted n
      | some (.optionOfCommand c n) => "\n\n  tip: " ++ quoted (c ++ " " ++ n) ++ " exists"
      | none => ""
    "error: unexpected argument " ++ quoted arg ++ " found" ++ hint ++ closing (some usage)
  | unknownCommand name similar usage helpable =>
    let hint := match similar with
      | [] => ""
      | [s] => "\n\n  tip: a similar subcommand exists: " ++ quoted s
      | ss => "\n\n  tip: some similar subcommands exist: " ++ String.intercalate ", " (ss.map quoted)
    "error: unrecognized subcommand " ++ quoted name ++ hint ++ closing (some usage) helpable
  | invalidValue opt value choices similar =>
    let head :=
      if value.isEmpty then "error: a value is required for " ++ quoted opt ++ " but none was supplied"
      else "error: invalid value " ++ quoted value ++ " for " ++ quoted opt
    let listed :=
      if choices.isEmpty then "" else "\n  [possible values: " ++ String.intercalate ", " choices ++ "]"
    let hint := match similar with
      | some s => "\n\n  tip: a similar value exists: " ++ quoted s
      | none => ""
    head ++ listed ++ hint ++ closing none
  | refusedValue opt value fault =>
    "error: invalid value " ++ quoted value ++ " for " ++ quoted opt ++ ": " ++ fault ++ closing none
  | conflict opt others usage =>
    let partners := match others with
      | [] => " one or more of the other specified arguments"
      | [o] => " " ++ quoted o
      | os => ":" ++ String.join (os.map ("\n  " ++ ·))
    "error: the argument " ++ quoted opt ++ " cannot be used with" ++ partners ++ closing (some usage)
  | repeated opt usage =>
    "error: the argument " ++ quoted opt ++ " cannot be used multiple times" ++ closing (some usage)
  | unexpectedValue opt value usage =>
    "error: unexpected value " ++ quoted value ++ " for " ++ quoted opt ++
      " found; no more were expected" ++ closing (some usage)
  | missingCommand program commands usage =>
    "error: " ++ quoted program ++ " requires a subcommand but one was not provided\n  [subcommands: " ++
      String.intercalate ", " commands ++ "]" ++ closing (some usage)
  | commandAfterEscape command usage =>
    "error: unexpected argument '--' found\n\n  tip: subcommand " ++ quoted command ++
      " exists; to use it, remove the '--' before it" ++ closing (some usage)

end UsageError

/-! ## Values -/

def readUnsigned (s : String) : Except String Nat :=
  let digits := match s.toList with
    | '+' :: r => r
    | r => r
  if s.isEmpty then .error "cannot parse integer from empty string"
  else if digits.isEmpty then .error "invalid digit found in string"
  else digits.foldlM (fun n c =>
      if c.isDigit then
        let n := n * 10 + (c.toNat - '0'.toNat)
        if n < Nat.pow 2 64 then .ok n else .error "number too large to fit in target type"
      else .error "invalid digit found in string") 0

def Flag.check (f : Flag) (v : String) : Option UsageError :=
  match f.reader with
  | .text => none
  | .path => if v.isEmpty then some (.invalidValue f.display "" [] none) else none
  | .boolean =>
    if v == "true" || v == "false" then none
    else some (.invalidValue f.display v f.reader.choices (closestName v f.reader.choices))
  | .unsigned =>
    match readUnsigned v with
    | .ok _ => none
    | .error fault => some (.refusedValue f.display v fault)
  | .checked check => (check v).map (.refusedValue f.display v ·)

/-! ## Scopes -/

abbrev Given := List (Flag × List String)

/-- Where arguments are read: the name by which usage lines call it, its options, the pairs of
options (by long name) that exclude each other, the commands that may start in it, each with
its options, and the options that form its group. -/
structure Scope where
  path : String
  flags : List Flag
  exclusive : List (String × String) := []
  commands : List (String × List Flag) := []
  group : List Flag := []

/-- The progress of reading a scope: the options given, the option that waits for its value or
holds it until it is recorded, and whether `--` was met. -/
structure Reading where
  given : Given := []
  pending : Option (Flag × List String) := none
  escaped : Bool := false

/-- Why reading a scope stopped before its end. -/
inductive Halt where
  | help
  | version
  | command (name : String) (rest : List String)
  | refused (e : UsageError)

namespace Scope

def usage (s : Scope) (given : List Flag) : String :=
  let tail := if s.commands.isEmpty then "" else " <COMMAND>"
  match given with
  | [] => s.path ++ (if s.flags.isEmpty then "" else " [OPTIONS]") ++ tail
  | fs => s.path ++ String.join (fs.map fun f => " " ++ f.display) ++ tail

def attachedUsage (s : Scope) (before : List Flag) (f : Flag) : String :=
  let inGroup := fun (g : Flag) => s.group.any (·.long == g.long)
  let shown := (before ++ [f]).foldl
    (fun acc g => if acc.any (·.long == g.long) then acc else acc ++ [g]) []
  if before.any inGroup then
    let tail := if s.commands.isEmpty then "" else " <COMMAND>"
    s.path ++ String.join ((shown.filter (!inGroup ·)).map fun g => " " ++ g.display) ++
      " <" ++ "|".intercalate (s.group.map (·.display)) ++ ">" ++ tail
  else s.usage shown

def record (s : Scope) (given : Given) (f : Flag) (vals : List String) :
    Given × Option UsageError :=
  match f.arity, vals with
  | .value, [] => (given, some (.invalidValue f.display "" f.reader.choices none))
  | arity, vals =>
    let vals := match arity, vals with
      | .optionalValue standIn, [] => [standIn]
      | _, vs => vs
    if given.any (·.1.long == f.long) then
      (given.filter (·.1.long != f.long), some (.repeated f.display (s.usage [])))
    else
      match vals.findSome? f.check with
      | some e => (given ++ [(f, [])], some e)
      | none => (given ++ [(f, vals)], none)

def settle (s : Scope) (st : Reading) : Given × Option UsageError :=
  match st.pending with
  | some (f, vs) => s.record st.given f vs
  | none => (st.given, none)

def settled (s : Scope) (st : Reading) : Except UsageError Reading :=
  match s.settle st with
  | (_, some e) => .error e
  | (given, none) => .ok { st with given, pending := none }

def giveSwitch (s : Scope) (st : Reading) (f : Flag) : Except Halt Reading :=
  match s.settled st with
  | .error e => .error (.refused e)
  | .ok st =>
    match f.action with
    | .help => .error .help
    | .version => .error .version
    | .store =>
      match s.record st.given f [] with
      | (_, some e) => .error (.refused e)
      | (given, none) => .ok { st with given }

def giveValue (s : Scope) (st : Reading) (f : Flag) (v : String) : Except Halt Reading :=
  match s.settled st with
  | .error e => .error (.refused e)
  | .ok st =>
    match s.record st.given f [v] with
    | (_, some e) => .error (.refused e)
    | (given, none) => .ok { st with given }

def awaitValue (s : Scope) (st : Reading) (f : Flag) : Except Halt Reading :=
  match s.settled st with
  | .error e => .error (.refused e)
  | .ok st => .ok { st with pending := some (f, []) }

def commandTip (s : Scope) (name : String) (later : List String) : Option Tip :=
  let found := s.commands.filterMap fun (c, flags) =>
    match closestName name (flags.map (·.long)), later.findIdx? (· == c) with
    | some n, some i => some (i, c, n)
    | _, _ => none
  let earliest := found.foldl (fun best x =>
    match best with
    | some b => if x.1 < b.1 then some x else some b
    | none => some x) none
  earliest.map fun (_, c, n) => .optionOfCommand c ("--" ++ n)

def unknownLong (s : Scope) (st : Reading) (name : String) (later : List String) : UsageError :=
  let given := (s.settle st).1
  let similar := closestName name (s.flags.map (·.long))
  let tip := match similar with
    | some n => some (Tip.similarOption ("--" ++ n))
    | none => s.commandTip name later
  let shown := given.map (·.1)
  let shown := match similar.bind fun n => s.flags.find? (·.long == n) with
    | some f => if shown.any (·.long == f.long) then shown else shown ++ [f]
    | none => shown
  .unexpectedArgument ("--" ++ name) tip (s.usage shown)

def long (s : Scope) (st : Reading) (body : String) (later : List String) : Except Halt Reading :=
  let (name, attached) := match body.splitOn "=" with
    | n :: v :: vs => (n, some (String.intercalate "=" (v :: vs)))
    | _ => (body, none)
  match s.flags.find? (·.long == name) with
  | none => .error (.refused (s.unknownLong st name later))
  | some f =>
    match f.takesValue, attached with
    | true, some v => s.giveValue st f v
    | true, none => s.awaitValue st f
    | false, some v =>
      .error (.refused (.unexpectedValue f.display v (s.attachedUsage (st.given.map (·.1)) f)))
    | false, none => s.giveSwitch st f

def shorts (s : Scope) : List Char → Reading → Except Halt Reading
  | [], st => .ok st
  | c :: more, st =>
    match s.flags.find? (·.short == some c) with
    | none => .error (.refused (.unexpectedArgument (String.ofList ['-', c]) none (s.usage [])))
    | some f =>
      if f.takesValue then
        match more with
        | [] => s.awaitValue st f
        | '=' :: v => s.giveValue st f (String.ofList v)
        | v => s.giveValue st f (String.ofList v)
      else
        match s.giveSwitch st f with
        | .ok st => s.shorts more st
        | .error h => .error h

def stray (s : Scope) (st : Reading) (arg : String) : UsageError :=
  if st.escaped && s.commands.any (·.1 == arg) then .commandAfterEscape arg (s.usage [])
  else if s.commands.isEmpty then .unexpectedArgument arg none (s.usage [])
  else .unknownCommand arg (similarNames arg (s.commands.map (·.1))) (s.usage []) true

/-- Reads the arguments of the scope. It halts at a command's name, at a switch that shows a
page, and at a fault; otherwise it ends with what was given. -/
def read (s : Scope) : List String → Reading → Except Halt Reading
  | [], st => .ok st
  | a :: rest, st =>
    let awaiting := st.pending.any fun p => p.2.isEmpty
    let continueWith := fun (r : Except Halt Reading) =>
      match r with
      | .ok st => s.read rest st
      | .error h => .error h
    if st.escaped then .error (.refused (s.stray st a))
    else if !awaiting && s.commands.any (·.1 == a) then .error (.command a rest)
    else if a == "--" then s.read rest { st with escaped := true }
    else if a.startsWith "--" then continueWith (s.long st (String.ofList (a.toList.drop 2)) rest)
    else if a.startsWith "-" && a != "-" then continueWith (s.shorts (a.toList.drop 1) st)
    else if awaiting then
      s.read rest { st with pending := st.pending.map fun p => (p.1, p.2 ++ [a]) }
    else .error (.refused (s.stray st a))

/-- Ends the reading: the waiting option is recorded, and no option may be given with one it
excludes. Gives the options given, in order. -/
def finish (s : Scope) (st : Reading) : Except UsageError Given := do
  let st ← s.settled st
  let excludes := fun (a b : String) =>
    s.exclusive.any fun (x, y) => (x == a && y == b) || (x == b && y == a)
  let clash := st.given.findSome? fun (f, _) =>
    match st.given.filter fun (g, _) => g.long != f.long && excludes f.long g.long with
    | [] => none
    | others => some (f, others.map (·.1))
  match clash with
  | some (f, others) =>
    let shown := (st.given.map (·.1)).filter fun g => !others.any (·.long == g.long)
    .error (.conflict f.display (others.map (·.display)) (s.usage shown))
  | none => .ok st.given

end Scope

/-! ## Programs -/

/-- What a command line asks for. -/
inductive Invocation where
  | run (command : Command) (given : Given)
  | display (text : String)
  | refuse (text : String)

namespace Program

def scope (p : Program) : Scope :=
  { path := p.name, flags := p.allFlags,
    commands := p.commands.map (fun c => (c.name, p.commandFlags c)) ++ [("help", [])] }

def commandScope (p : Program) (c : Command) : Scope :=
  { path := p.commandPath c, flags := p.commandFlags c, exclusive := c.exclusive,
    group := c.group.filterMap fun l => c.flags.find? (·.long == l) }

def helpFor (p : Program) : List String → Invocation
  | [] => .display p.helpPage
  | name :: more =>
    let found :=
      if name == "help" then some (p.helpCommandPage, p.helpCommandUsage, false)
      else (p.command? name).map fun c => (p.commandHelpPage c, p.commandUsage c, true)
    match found, more with
    | none, _ => .refuse (UsageError.unknownCommand name [] p.usage true).text
    | some (text, _), [] => .display text
    | some (_, usage, helpable), n :: _ => .refuse (UsageError.unknownCommand n [] usage helpable).text

def invokeCommand (p : Program) (c : Command) (args : List String) : Invocation :=
  let s := p.commandScope c
  match s.read args {} with
  | .error .help => .display (p.commandHelpPage c)
  | .error .version => .display p.versionLine
  | .error (.refused e) => .refuse e.text
  | .error (.command n _) => .refuse (s.stray {} n).text
  | .ok st =>
    match s.finish st with
    | .ok given => .run c given
    | .error e => .refuse e.text

/-- Tells what a command line asks for. Without any argument, the program's help page is the
refusal; with options but no command, the missing command is. -/
def invoke (p : Program) (args : List String) : Invocation :=
  match p.scope.read args {} with
  | .error .help => .display p.helpPage
  | .error .version => .display p.versionLine
  | .error (.refused e) => .refuse e.text
  | .error (.command name rest) =>
    match p.command? name with
    | some c => p.invokeCommand c rest
    | none => p.helpFor rest
  | .ok st =>
    match p.scope.settled st with
    | .error e => .refuse e.text
    | .ok st =>
      if st.given.isEmpty then .refuse p.helpPage
      else .refuse (UsageError.missingCommand p.name p.commandNames p.usage).text

end Program

end CommandLine
end Obfuscator
