import Obfuscator.Config.Yaml.Event
import Obfuscator.Config.Value
/-!
# Configuration YAML: nodes

Events are built into the nodes of documents. A scalar written in quotes or as a block is a
string. A plain scalar is resolved by its text: `0x` and `0o` integers (with an optional sign
after the prefix), decimal integers with an optional sign, `~` and `null`, `true` and `false`,
then floats, which keep their text; anything else is a string. Integers are 64-bit signed. With
the tag `!!bool`, `!!int`, `!!float` or `!!null` a plain scalar must have that type, or it is a
bad value; any other tag makes it a string.

A mapping keeps its keys in the order they were first written, except that a key written again
takes its new value and moves to the end. The node read for a key that is a bad value does not
stand as a key: the next node does. An alias stands for a copy of its anchor's node as it was
when complete, and for a bad value before that.

A document becomes a configuration table whose entries are those under string keys; an entry
under any other key is left out. A float's text is read by the standard float reader,
which refuses the YAML words for infinity and not-a-number. Nothing, bad values and aliases are
nothing.
-/

namespace Obfuscator
namespace Config
namespace Yaml

/-- A node of a configuration YAML document. -/
inductive Node where
  | real (text : String)
  | integer (i : Int)
  | string (s : String)
  | boolean (b : Bool)
  | array (items : List Node)
  | hash (entries : List (Node × Node))
  | null
  | badValue
  deriving Inhabited, Repr

namespace Node

mutual

def beq : Node → Node → Bool
  | real a, real b => a == b
  | integer a, integer b => a == b
  | string a, string b => a == b
  | boolean a, boolean b => a == b
  | array xs, array ys => beqItems xs ys
  | hash xs, hash ys => beqEntries xs ys
  | null, null => true
  | badValue, badValue => true
  | _, _ => false

def beqItems : List Node → List Node → Bool
  | [], [] => true
  | x :: xs, y :: ys => beq x y && beqItems xs ys
  | _, _ => false

def beqEntries : List (Node × Node) → List (Node × Node) → Bool
  | [], [] => true
  | (k, v) :: xs, (k', v') :: ys => beq k k' && beq v v' && beqEntries xs ys
  | _, _ => false

end

instance : BEq Node := ⟨beq⟩

def isBad : Node → Bool
  | badValue => true
  | _ => false

/-- Sets a key of a mapping: a key already there takes the value and moves to the end. -/
def setEntry (entries : List (Node × Node)) (k v : Node) : List (Node × Node) :=
  entries.filter (fun e => !(e.1 == k)) ++ [(k, v)]

def digitsValue (radix : Nat) (cs : List Char) : Option Nat :=
  if cs.isEmpty then none
  else cs.foldlM (fun n c => (hexValue? c).bind fun d => if d < radix then some (n * radix + d) else none) 0

def integerText? (radix : Nat) (cs : List Char) : Option Int :=
  let v : Option Int := match cs with
    | '-' :: r => (digitsValue radix r).map fun n => -(n : Int)
    | '+' :: r => (digitsValue radix r).map Int.ofNat
    | r => (digitsValue radix r).map Int.ofNat
  v.bind fun i => if -Int.pow 2 63 ≤ i && i < Int.pow 2 63 then some i else none

def isFloatText (v : String) : Bool :=
  [".inf", ".Inf", ".INF", "+.inf", "+.Inf", "+.INF", "-.inf", "-.Inf", "-.INF", ".nan", "NaN",
    ".NAN"].contains v || (Binary64.parse? v.toList).isSome

/-- What a plain scalar without a tag stands for. -/
def ofPlain (v : String) : Node :=
  let cs := v.toList
  let radix (pfx : List Char) (r : Nat) : Option Int :=
    if pfx.isPrefixOf cs then integerText? r (cs.drop 2) else none
  match radix ['0', 'x'] 16 with
  | some i => integer i
  | none =>
  match radix ['0', 'o'] 8 with
  | some i => integer i
  | none =>
  match (match cs with | '+' :: r => integerText? 10 r | _ => none) with
  | some i => integer i
  | none =>
    if v == "~" || v == "null" then null
    else if v == "true" then boolean true
    else if v == "false" then boolean false
    else match integerText? 10 cs with
      | some i => integer i
      | none => if isFloatText v then real v else string v

def ofScalar (v : String) (style : Style) (tag : Option (String × String)) : Node :=
  if style != .plain then string v
  else
    match tag with
    | some (handle, suffix) =>
      if handle != "!!" then string v
      else if suffix == "bool" then
        if v == "true" then boolean true else if v == "false" then boolean false else badValue
      else if suffix == "int" then (integerText? 10 v.toList).elim badValue integer
      else if suffix == "float" then (if isFloatText v then real v else badValue)
      else if suffix == "null" then (if v == "~" || v == "null" then null else badValue)
      else string v
    | none => ofPlain v

end Node

/-- The state of building documents from events: the documents built, the nodes open (innermost
first, each with its anchor number), the key waiting for its value in each open mapping, and the
complete nodes of the anchors. -/
structure Builder where
  documents : List Node := []
  pending : List (Node × Nat) := []
  keys : List Node := []
  anchored : List (Nat × Node) := []
  deriving Inhabited

namespace Builder

def place (b : Builder) (node : Node) (anchor : Nat) : Builder :=
  let b := if anchor > 0 then { b with anchored := (anchor, node) :: b.anchored } else b
  match b.pending with
  | [] => { b with pending := [(node, anchor)] }
  | (.array items, a) :: rest => { b with pending := (.array (items ++ [node]), a) :: rest }
  | (.hash entries, a) :: rest =>
    match b.keys with
    | k :: ks =>
      if k.isBad then { b with keys := node :: ks }
      else { b with keys := .badValue :: ks, pending := (.hash (Node.setEntry entries k node), a) :: rest }
    | [] => b
  | _ => b

def take (b : Builder) : Event → Builder
  | .documentEnd =>
    match b.pending with
    | [] => { b with documents := .badValue :: b.documents }
    | [(n, _)] => { b with documents := n :: b.documents, pending := [] }
    | _ => b
  | .sequenceStart a => { b with pending := (.array [], a) :: b.pending }
  | .mappingStart a => { b with pending := (.hash [], a) :: b.pending, keys := .badValue :: b.keys }
  | .sequenceEnd =>
    match b.pending with
    | (n, a) :: rest => { b with pending := rest }.place n a
    | [] => b
  | .mappingEnd =>
    match b.pending with
    | (n, a) :: rest => { b with pending := rest, keys := b.keys.tail }.place n a
    | [] => b
  | .scalar v style a tag => b.place (Node.ofScalar v style tag) a
  | .alias a => b.place ((b.anchored.find? (·.1 == a)).elim .badValue Prod.snd) 0
  | _ => b

end Builder

def Node.documents (text : List Char) : Except Fault (List Node) :=
  let (events, fault) := Event.parse text
  match fault with
  | some f => .error f
  | none => .ok (events.foldl Builder.take {}).documents.reverse

/-! ## Configuration values -/

def floatValue (v : String) : Except LoadError Value :=
  match Binary64.parse? v.toList with
  | some f => .ok (.float f)
  | none => .error (.message s!"Parsing {v} as floating point number failed")

mutual

def Node.toValue : Node → Except LoadError Value
  | .string s => .ok (.str s)
  | .real v => floatValue v
  | .integer i => .ok (.int i)
  | .boolean b => .ok (.bool b)
  | .array items => return .array (← Node.itemValues items)
  | .hash entries => return .table (← Node.entryValues entries [])
  | .null | .badValue => .ok .nil

def Node.itemValues : List Node → Except LoadError (List Value)
  | [] => .ok []
  | n :: rest => return (← n.toValue) :: (← Node.itemValues rest)

/-- The entries of a mapping as a configuration table, in order. Only string keys name an
entry: an entry under any other key is left out, and its value is not read at all. -/
def Node.entryValues : List (Node × Node) → List (String × Value) →
    Except LoadError (List (String × Value))
  | [], acc => .ok acc
  | (k, v) :: rest, acc =>
    match k with
    | .string s => do Node.entryValues rest (setKey acc s (← v.toValue))
    | _ => Node.entryValues rest acc

end

/-- The top table of a configuration YAML text: none for no document, the table of a single
document (empty when it is not a mapping), and a fault for more than one. -/
def readTable (text : List Char) : Except LoadError (List (String × Value)) :=
  match Node.documents text with
  | .error f => .error (.message f.text)
  | .ok [] => .ok []
  | .ok [d] => do
    match ← d.toValue with
    | .table es => pure es
    | _ => pure []
  | .ok docs => .error (.message s!"Got {docs.length} YAML documents, expected 1")

end Yaml
end Config
end Obfuscator
