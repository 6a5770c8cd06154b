import Obfuscator.Json.Reader
import Obfuscator.Toml.Reader
import Obfuscator.Number.Format
import Obfuscator.Text.Printable
/-!
# Configuration values

A configuration is a table of values gathered from layers: defaults, a file, the environment
and the command line. A value is nothing, a boolean, a signed or unsigned integer, a double, a
string, a table or an array. Files in TOML and JSON are read into such values here, their keys
kept as written; a file whose top is not a table gives an empty one.

JSON integers that fit 64 signed bits are integers and all other numbers doubles; an object's
keys are sorted, a repeated key keeping its last value. Doubles are shown positionally with their
shortest digits, without a point when they are whole.
-/
namespace Obfuscator
namespace Config

/-- A configuration value. -/
inductive Value where
  | nil
  | bool (b : Bool)
  | int (i : Int)
  | uint (n : Nat)
  | float (f : Binary64)
  | str (s : String)
  | table (entries : List (String × Value))
  | array (items : List Value)
  deriving Inhabited, Repr

/-- Why a configuration could not be loaded: a configuration error with its message, or an
array position in a key that lies before the start of its array or past the longest array there
can be, which stops the program. -/
inductive LoadError where
  | message (text : String)
  | badPosition
  deriving DecidableEq, Repr

def lowercase (k : String) : String := String.ofList (k.toList.map Char.toLower)

def floatFormat : FloatFormat := { positional := none, pointZero := false }

def setKey (entries : List (String × Value)) (k : String) (v : Value) : List (String × Value) :=
  if entries.any (fun e => e.1 == k) then entries.map fun e => if e.1 == k then (k, v) else e
  else entries ++ [(k, v)]

/-! ## From JSON -/

def ofNumber : Number → Value
  | .nat n => if n < Nat.pow 2 63 then .int n else .float (Binary64.ofNat n)
  | .neg n => .int n
  | .float f => .float f

/-- The entries of a JSON object as a configuration table: keys in sorted order, a repeated
key keeping its last value. -/
def jsonTable (members : List (String × Value)) : List (String × Value) :=
  let keys := members.foldl (fun ks m => if ks.contains m.1 then ks else ks ++ [m.1]) []
  let sorted := keys.mergeSort fun a b => decide (a ≤ b)
  sorted.filterMap fun k => (members.reverse.find? fun m => m.1 == k)

mutual

def ofJson : Json → Value
  | .null => .nil
  | .bool b => .bool b
  | .num n => ofNumber n
  | .str s => .str s
  | .arr items => .array (ofJsonItems items)
  | .obj members => .table (jsonTable (ofJsonMembers members))

def ofJsonItems : List Json → List Value
  | [] => []
  | j :: rest => ofJson j :: ofJsonItems rest

def ofJsonMembers : List (String × Json) → List (String × Value)
  | [] => []
  | (k, j) :: rest => (k, ofJson j) :: ofJsonMembers rest

end

/-! ## From TOML -/

mutual

/-- A TOML value as a configuration value; dates and times are strings in their normal form. -/
def ofToml : Toml.Value → Value
  | .str s => .str s
  | .int i => .int i
  | .float f => .float f
  | .bool b => .bool b
  | .datetime t => .str (Toml.Datetime.normalize t)
  | .array items => .array (ofTomlItems items)
  | .table entries => .table (ofTomlEntries entries)

def ofTomlItems : List Toml.Value → List Value
  | [] => []
  | v :: rest => ofToml v :: ofTomlItems rest

def ofTomlEntries : List (String × Toml.Value) → List (String × Value)
  | [] => []
  | (k, v) :: rest => (k, ofToml v) :: ofTomlEntries rest

end

/-! ## Showing values -/

def Value.unexpected : Value → String
  | .nil => "unit value"
  | .bool b => s!"boolean `{b}`"
  | .int i => s!"integer 64 bit `{i}`"
  | .uint n => s!"unsigned integer 64 bit `{n}`"
  | .float f => s!"floating point `{f.render floatFormat}`"
  | .str s => "string " ++ Text.quoteText s
  | .table _ => "map"
  | .array _ => "sequence"

end Config
end Obfuscator
