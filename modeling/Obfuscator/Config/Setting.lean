import Obfuscator.Config.Value
/-!
# Assembling a configuration

A configuration is assembled from layers, each a table of keys and values: the keys name where
the values go in one tree of settings.

## Key paths

A key of a configuration layer names the place its value goes. A key that is a path reaches
into the tables and arrays below the top: it starts with a name and goes on with any number of
steps, `.name` for an entry of a table and `[i]` for a position of an array.

A name is one or more ASCII letters, digits, spaces, `_` and `-`. A position is an optional `-`
and decimal digits, with spaces or tabs on either side, and must fit 64 signed bits; a negative
position counts back from the end of its array. A key that is not a path in full, to its last
character, is a plain name, whatever characters it holds.
-/

namespace Obfuscator
namespace Config

/-- Where a layer puts a value: under a name of the top table, under a name of the table at a
path, or at a position of the array at a path. -/
inductive KeyPath where
  | name (id : String)
  | child (parent : KeyPath) (id : String)
  | item (parent : KeyPath) (index : Int)
  deriving DecidableEq, Repr

namespace KeyPath

def isNameChar (c : Char) : Bool :=
  c.isAlphanum || c == ' ' || c == '_' || c == '-'

def isSpace (c : Char) : Bool := c == ' ' || c == '\t'

def nameSpan? (cs : List Char) : Option (String × List Char) :=
  match cs.span isNameChar with
  | ([], _) => none
  | (id, rest) => some (String.ofList id, rest)

def digitsValue (ds : List Char) : Nat :=
  ds.foldl (fun n c => n * 10 + (c.toNat - '0'.toNat)) 0

/-- The position at the start of a text, up to its closing bracket, and the rest after the
bracket: spaces, an optional `-`, digits, spaces. None when there is no such position or it
does not fit 64 signed bits. -/
def position? (cs : List Char) : Option (Int × List Char) :=
  let cs := cs.dropWhile isSpace
  let (negative, cs) := match cs with
    | '-' :: r => (true, r)
    | r => (false, r)
  match cs.span Char.isDigit with
  | ([], _) => none
  | (ds, rest) =>
    let n := digitsValue ds
    let i : Int := if negative then -(n : Int) else n
    if -Int.pow 2 63 ≤ i && i < Int.pow 2 63 then
      match rest.dropWhile isSpace with
      | ']' :: after => some (i, after)
      | _ => none
    else none

def steps : Nat → KeyPath → List Char → Option KeyPath
  | _, p, [] => some p
  | 0, _, _ :: _ => none
  | fuel + 1, p, '.' :: rest =>
    match nameSpan? rest with
    | some (id, after) => steps fuel (.child p id) after
    | none => none
  | fuel + 1, p, '[' :: rest =>
    match position? rest with
    | some (i, after) => steps fuel (.item p i) after
    | none => none
  | _ + 1, _, _ :: _ => none

/-- The path a key is, if it is one in full. -/
def parse? (key : String) : Option KeyPath :=
  let cs := key.toList
  match nameSpan? cs with
  | some (id, rest) => steps rest.length (.name id) rest
  | none => none

def ofKey (key : String) : KeyPath := (parse? key).getD (.name key)

end KeyPath

/-!
## Assembling a configuration

The layers of a configuration are written one after the other into a single tree of settings.
Every part of the tree knows the file it came from; the tables and arrays that the assembly
makes on its own come from none. An array is kept as its length and the items set in it, every
other item being nothing, so a position far past the end costs no room.

Setting a layer's value at a path (see `KeyPath`):
* under a name: the tree becomes a table if it is not one. A table value is merged: each of its
  entries is set, under its own name, in what the tree holds under the name, a new empty table
  when it holds nothing. So an empty table leaves what is there as it is, and anything that is
  not a table turns into an empty table as soon as one entry is set in it. Any other value
  replaces what is under the name, or is added as a new entry.
* under `p.name`: the place of `p` is found, made a table if it is not one, and the value is set
  under the name in it.
* at `p[i]`: the place of `p` is found, made an array if it is not one, and grown with nothing up
  to the position, whose item becomes the value.

Finding the place of a path adds nothing under a name that is missing, makes a place that is not
a table an empty table before a `.name` step, and a place that is not an array an empty array
before an `[i]` step. A negative position further back than the length of its array stops the
program, and so does a position past the longest array there can be.
-/

/-- A part of an assembled configuration, with the file it came from. A scalar is never a table
or an array. -/
inductive Setting where
  | scalar (v : Value) (origin : Option String)
  | table (entries : List (String × Setting)) (origin : Option String)
  | array (length : Nat) (items : List (Nat × Setting)) (origin : Option String)
  deriving Inhabited, Repr

namespace Setting

def nothing : Setting := .scalar .nil none

def emptyTable : Setting := .table [] none

mutual

def ofValue (origin : Option String) : Value → Setting
  | .table es => .table (ofEntries origin es) origin
  | .array items => .array items.length (ofItems origin 0 items) origin
  | v => .scalar v origin

def ofEntries (origin : Option String) : List (String × Value) → List (String × Setting)
  | [] => []
  | (k, v) :: rest => (k, ofValue origin v) :: ofEntries origin rest

def ofItems (origin : Option String) (i : Nat) : List Value → List (Nat × Setting)
  | [] => []
  | v :: rest => (i, ofValue origin v) :: ofItems origin (i + 1) rest

end

def origin : Setting → Option String
  | .scalar _ o => o
  | .table _ o => o
  | .array _ _ o => o

def shape : Setting → Value
  | .scalar v _ => v
  | .table _ _ => .table []
  | .array _ _ _ => .array []

def asTable : Setting → List (String × Setting) × Option String
  | .table es o => (es, o)
  | _ => ([], none)

def asArray : Setting → Nat × List (Nat × Setting) × Option String
  | .array n items o => (n, items, o)
  | _ => (0, [], none)

def lookup (es : List (String × Setting)) (k : String) : Option Setting :=
  (es.find? (·.1 == k)).map Prod.snd

def putEntry (es : List (String × Setting)) (k : String) (s : Setting) :
    List (String × Setting) :=
  if es.any (·.1 == k) then es.map fun e => if e.1 == k then (k, s) else e
  else es ++ [(k, s)]

def itemAt (items : List (Nat × Setting)) (j : Nat) : Setting :=
  ((items.find? (·.1 == j)).map Prod.snd).getD nothing

def putItem (items : List (Nat × Setting)) (j : Nat) (s : Setting) : List (Nat × Setting) :=
  if items.any (·.1 == j) then items.map fun e => if e.1 == j then (j, s) else e
  else items ++ [(j, s)]

/-- The position a signed index names in an array of a length: a negative index counts back
from the end; none when it reaches before the start. -/
def position? (length : Nat) (i : Int) : Option Nat :=
  if 0 ≤ i then some i.toNat
  else if i.natAbs ≤ length then some (length - i.natAbs)
  else none

def inEntry (k : String) (f : Setting → Except LoadError Setting)
    (es : List (String × Setting)) (o : Option String) : Except LoadError Setting := do
  let s ← f ((lookup es k).getD nothing)
  pure (.table (putEntry es k s) o)

/-- The most items an array can hold: an item takes 96 bytes, and an array no more than
`2 ^ 63 - 16` bytes. -/
def longestArray : Nat := (Nat.pow 2 63 - 16) / 96

def inItem (i : Int) (f : Setting → Except LoadError Setting) (s : Setting) :
    Except LoadError Setting :=
  let (n, items, o) := asArray s
  match position? n i with
  | some j =>
    if longestArray < j + 1 then .error .badPosition
    else do
      let v ← f (itemAt items j)
      pure (.array (max n (j + 1)) (putItem items j v) o)
  | none => .error .badPosition

/-- Finds the place of a path in a tree and changes it with `f`. A name at the top of a tree that
is not a table has no place, and the tree stays as it is. -/
def alter (f : Setting → Except LoadError Setting) : KeyPath → Setting → Except LoadError Setting
  | .name k, .table es o => inEntry k f es o
  | .name _, s => pure s
  | .child p k, root => alter (fun s => inEntry k f (asTable s).1 (asTable s).2) p root
  | .item p i, root => alter (inItem i f) p root

mutual

/-- Sets a layer's value under a name of a tree: a table value merges entry by entry into what
the name holds, any other value replaces it. -/
def setName (origin : Option String) (k : String) : Value → Setting → Setting
  | .table incoming, root =>
    let (es, o) := asTable root
    let target := (lookup es k).getD emptyTable
    .table (putEntry es k (setEntries origin incoming target)) o
  | v, root =>
    let (es, o) := asTable root
    .table (putEntry es k (ofValue origin v)) o

def setEntries (origin : Option String) : List (String × Value) → Setting → Setting
  | [], t => t
  | (k, v) :: rest, t => setEntries origin rest (setName origin k v t)

end

def set (origin : Option String) (v : Value) : KeyPath → Setting → Except LoadError Setting
  | .name k, root => pure (setName origin k v root)
  | .child p k, root => alter (fun s => pure (setName origin k v s)) p root
  | .item p i, root => alter (inItem i fun _ => pure (ofValue origin v)) p root

def setAtKey (origin : Option String) (key : String) (v : Value) (root : Setting) :
    Except LoadError Setting :=
  set origin v (KeyPath.ofKey key) root

def get (root : Setting) (k : String) : Option Setting :=
  match root with
  | .table es _ => lookup es k
  | _ => none

end Setting

end Config
end Obfuscator
