import Obfuscator.Yaml.Scanner
import Obfuscator.Json.Value
import Obfuscator.Number.Format
import Obfuscator.Text.Printable
/-!
# What a YAML scalar stands for

A plain scalar with no tag stands for a value by its text: null (`~`, `null`, `Null`, `NULL`, or
nothing at all), a boolean (`true`, `True`, `TRUE` and the same for false), an integer (decimal,
or `0x`, `0o`, `0b` with an optional sign), a float (`1.5`, `1e3`, `.inf`, `.nan`), or else a
string. A decimal of more than one digit with a leading zero is a string, as YAML 1.2 has it.
Quoted and block scalars are strings. The standard tags `!!bool`, `!!int`, `!!float` and `!!null`
ask for their type and refuse a text that does not have it.

Faults about a value of the wrong type describe the value in these terms.
-/

namespace Obfuscator
namespace Yaml

def boolTag : String := "tag:yaml.org,2002:bool"
def intTag : String := "tag:yaml.org,2002:int"
def floatTag : String := "tag:yaml.org,2002:float"
def nullTag : String := "tag:yaml.org,2002:null"

def isNull (v : String) : Bool := v == "~" || v == "null" || v == "Null" || v == "NULL"

def parseBool (v : String) : Option Bool :=
  if v == "true" || v == "True" || v == "TRUE" then some true
  else if v == "false" || v == "False" || v == "FALSE" then some false
  else none

/-- Whether a text is digits with a leading zero, after an optional sign: a string, not a
number. -/
def digitsButNotNumber (v : String) : Bool :=
  let cs := match v.toList with
    | '-' :: r => r
    | '+' :: r => r
    | r => r
  match cs with
  | '0' :: r => !r.isEmpty && r.all Char.isDigit
  | _ => false

def digitsValue (radix : Nat) (cs : List Char) : Option Nat :=
  if cs.isEmpty then none
  else cs.foldlM (fun n c =>
    match hexValue? c with
    | some d => if d < radix then some (n * radix + d) else none
    | none => none) 0

def unsignedText (radix : Nat) (cs : List Char) : Option Nat :=
  match cs with
  | '+' :: r => digitsValue radix r
  | r => digitsValue radix r

def signedText (radix : Nat) (cs : List Char) : Option Int :=
  match cs with
  | '-' :: r => (digitsValue radix r).map fun n => -(n : Int)
  | '+' :: r => (digitsValue radix r).map Int.ofNat
  | r => (digitsValue radix r).map Int.ofNat

def radixPrefixes : List (List Char × Nat) := [(['0', 'x'], 16), (['0', 'o'], 8), (['0', 'b'], 2)]

def parseUnsigned (limit : Nat) (v : String) : Option Nat :=
  let cs := v.toList
  let u := match cs with
    | '+' :: r => r
    | r => r
  let inRange (n : Nat) : Option Nat := if n ≤ limit then some n else none
  let radixed := radixPrefixes.findSome? fun (pfx, radix) =>
    if pfx.isPrefixOf u then
      let rest := u.drop 2
      match rest with
      | '+' :: _ | '-' :: _ => none
      | _ => (unsignedText radix rest).bind inRange
    else none
  match radixed with
  | some n => some n
  | none =>
    match u with
    | '+' :: _ | '-' :: _ => none
    | _ => if digitsButNotNumber v then none else (unsignedText 10 u).bind inRange

def parseSigned (bound : Nat) (v : String) : Option Int :=
  let cs := v.toList
  let inRange (n : Int) : Option Int := if -(bound : Int) ≤ n && n < bound then some n else none
  let radixed := radixPrefixes.findSome? fun (pfx, radix) =>
    if ('-' :: pfx).isPrefixOf cs then (signedText radix ('-' :: cs.drop 3)).bind inRange
    else none
  match radixed with
  | some n => some n
  | none => if digitsButNotNumber v then none else (signedText 10 cs).bind inRange

def floatFormat : FloatFormat := { positional := none, pointZero := true }

/-- Reads a float: `.inf`, `.nan` and their capitalized forms, with an optional sign where it
applies, or a text that the standard float reader reads as a finite double; a leading `+` may
not be followed by another sign. -/
def parseFloat (v : String) : Option Binary64 :=
  let cs := v.toList
  let unpositive : Option (List Char) := match cs with
    | '+' :: '+' :: _ | '+' :: '-' :: _ => none
    | '+' :: r => some r
    | r => some r
  match unpositive with
  | none => none
  | some u =>
    let us := String.ofList u
    if us == ".inf" || us == ".Inf" || us == ".INF" then some (.infinite false)
    else if v == "-.inf" || v == "-.Inf" || v == "-.INF" then some (.infinite true)
    else if v == ".nan" || v == ".NaN" || v == ".NAN" then some .nan
    else (Binary64.parse? u).filter Binary64.isFinite

def floatWord (f : Binary64) : String := s!"floating point `{f.render floatFormat}`"

def stringWord (v : String) : String := "string " ++ Text.quoteText v

def describePlain (v : String) : String :=
  if v.isEmpty || isNull v then "unit value"
  else match parseBool v with
  | some b => s!"boolean `{b}`"
  | none =>
    match parseUnsigned (Nat.pow 2 64 - 1) v with
    | some n => s!"integer `{n}`"
    | none =>
    match parseSigned (Nat.pow 2 63) v with
    | some n => s!"integer `{n}`"
    | none =>
    match parseUnsigned (Nat.pow 2 128 - 1) v with
    | some n => s!"integer `{n}` as u128"
    | none =>
    match parseSigned (Nat.pow 2 127) v with
    | some n => s!"integer `{n}` as i128"
    | none =>
      match (if digitsButNotNumber v then none else parseFloat v) with
      | some f => floatWord f
      | none => stringWord v

def invalidType (found expected : String) : String := s!"invalid type: {found}, expected {expected}"

def invalidValue (found expected : String) : String := s!"invalid value: {found}, expected {expected}"

/-- The fault for a scalar where something else, described by `expected`, was wanted. A
standard tag asks for its own type first. -/
def scalarMismatch (tag : Option String) (v : String) (style : ScalarStyle) (expected : String) :
    String :=
  match tag with
  | some t =>
    if t == boolTag then
      match parseBool v with
      | some b => invalidType s!"boolean `{b}`" expected
      | none => invalidValue (stringWord v) "a boolean"
    else if t == intTag then
      match parseUnsigned (Nat.pow 2 64 - 1) v, parseSigned (Nat.pow 2 63) v with
      | some n, _ => invalidType s!"integer `{n}`" expected
      | none, some n => invalidType s!"integer `{n}`" expected
      | none, none =>
        match parseUnsigned (Nat.pow 2 128 - 1) v, parseSigned (Nat.pow 2 127) v with
        | some n, _ => invalidType s!"integer `{n}` as u128" expected
        | none, some n => invalidType s!"integer `{n}` as i128" expected
        | none, none => invalidValue (stringWord v) "an integer"
    else if t == floatTag then
      match parseFloat v with
      | some f => invalidType (floatWord f) expected
      | none => invalidValue (stringWord v) "a float"
    else if t == nullTag then
      if isNull v then invalidType "unit value" expected else invalidValue (stringWord v) "null"
    else if t.startsWith "!" && style == .plain then invalidType (describePlain v) expected
    else invalidType (stringWord v) expected
  | none =>
    if style == .plain then invalidType (describePlain v) expected
    else invalidType (stringWord v) expected

end Yaml
end Obfuscator
