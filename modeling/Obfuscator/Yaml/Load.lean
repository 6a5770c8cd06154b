import Obfuscator.Yaml.Events
import Obfuscator.Text.Printable
/-!
# Loading a YAML document

A value is read from the first document of a stream. Its events are gathered first, up to the
end of the document or to the fault that stopped the reading; an alias is replaced by the
position of the event it names, the last anchor of a name winning. A stream with no document at
all gives a single `void` item. Whether another document follows is told beside it, since a
value is read from one document only.

Faults met while a value is read are values of `Error`: the reader's own faults, messages
with the path of keys and the place of the node they concern, and a few of their own.
-/

namespace Obfuscator
namespace Yaml

/-- An event of a loaded document. An alias holds the position of the event it names. -/
inductive Item where
  | alias (target : Nat)
  | scalar (tag : Option String) (text : String) (style : ScalarStyle)
  | sequenceStart (tag : Option String)
  | sequenceEnd
  | mappingStart (tag : Option String)
  | mappingEnd
  | void
  deriving Inhabited, Repr

/-- Why a value could not be read from YAML. -/
inductive Error where
  | problem (p : Problem)
  | message (text : String) (pos : Option (Mark × String))
  | unknownAnchor (m : Mark)
  | moreThanOneDocument
  | endOfStream
  deriving Inhabited, DecidableEq, Repr

namespace Error

def msg (text : String) : Error := .message text none

def fixMark (e : Error) (m : Mark) (path : String) : Error :=
  match e with
  | .message text none => .message text (some (m, path))
  | other => other

def messageNoMark : Error → String
  | .problem p => p.problem
  | .message text none => text
  | .message text (some (_, path)) => if path == "." then text else path ++ ": " ++ text
  | .unknownAnchor _ => "unknown anchor"
  | .moreThanOneDocument => "deserializing from YAML containing more than one document is not supported"
  | .endOfStream => "EOF while parsing a value"

def mark? : Error → Option Mark
  | .message _ (some (m, _)) => some m
  | .unknownAnchor m => some m
  | _ => none

def text (e : Error) : String :=
  match e with
  | .problem p => p.text
  | _ =>
    match e.mark? with
    | some m => if m.isStart then e.messageNoMark else e.messageNoMark ++ " at " ++ m.text
    | none => e.messageNoMark

def markStructured (m : Mark) : String :=
  if m.isStart then s!"Mark \x7b index: {m.index} \x7d"
  else s!"Mark \x7b line: {m.line + 1}, column: {m.column + 1} \x7d"

def stageName : Stage → String
  | .reader => "READER"
  | .scanner => "SCANNER"
  | .parser => "PARSER"

def structured (e : Error) : String :=
  match e with
  | .problem p =>
    let fields := [s!"kind: {stageName p.stage}", s!"problem: {Text.quoteText p.problem}"]
    let fields := fields ++
      (if !p.mark.isStart then [s!"problem_mark: {markStructured p.mark}"]
       else if p.offset != 0 then [s!"problem_offset: {p.offset}"] else [])
    let fields := fields ++
      (match p.context with
       | some (ctx, m) =>
         [s!"context: {Text.quoteText ctx}"] ++
           (if !m.isStart then [s!"context_mark: {markStructured m}"] else [])
       | none => [])
    "Error \x7b " ++ ", ".intercalate fields ++ " \x7d"
  | _ =>
    let place := match e.mark? with
      | some m => s!", line: {m.line + 1}, column: {m.column + 1}"
      | none => ""
    s!"Error({Text.quoteText e.messageNoMark}{place})"

end Error

/-- The first document of a stream: its items with their places, and the fault that ended it
early, if one did. -/
structure Document where
  items : Array (Item × Mark)
  failure : Option Error
  deriving Inhabited

/-- Gathers the items of a document up to its end, resolving aliases against the anchors seen
so far. Gives the document, the events after its end, and whether the stream stopped inside
it. -/
def gather (anchors : List (String × Nat)) (items : Array (Item × Mark)) :
    List (Event × Mark) → Option Problem → Document × List (Event × Mark) × Bool
  | [], failure => ({ items, failure := failure.map .problem }, [], true)
  | (e, m) :: rest, failure =>
    let anchored (a : Option String) : List (String × Nat) :=
      match a with
      | some name => (name, items.size) :: anchors
      | none => anchors
    match e with
    | .streamStart | .documentStart _ => gather anchors items rest failure
    | .streamEnd =>
      let items := if items.isEmpty then items.push (.void, m) else items
      ({ items, failure := none }, [], true)
    | .documentEnd _ => ({ items, failure := none }, rest, false)
    | .alias name =>
      match anchors.find? fun a => a.1 == name with
      | some (_, target) => gather anchors (items.push (.alias target, m)) rest failure
      | none => ({ items, failure := some (.unknownAnchor m) }, [], false)
    | .scalar a tag text style => gather (anchored a) (items.push (.scalar tag text style, m)) rest failure
    | .sequenceStart a tag _ => gather (anchored a) (items.push (.sequenceStart tag, m)) rest failure
    | .sequenceEnd => gather anchors (items.push (.sequenceEnd, m)) rest failure
    | .mappingStart a tag _ => gather (anchored a) (items.push (.mappingStart tag, m)) rest failure
    | .mappingEnd => gather anchors (items.push (.mappingEnd, m)) rest failure

/-- Loads the first document of a YAML text, and tells whether another document follows it. -/
def loadFirst (text : List Char) : Document × Bool :=
  let stream := events text
  let (doc, rest, stopped) := gather [] #[] stream.events stream.failure
  if stopped then (doc, false)
  else
    let more := match rest with
      | (.streamEnd, _) :: _ => false
      | [] => stream.failure.isSome
      | _ => true
    (doc, more)

end Yaml
end Obfuscator
