import Obfuscator.Number.Format
/-!
# JSON values

A JSON value as read and written by this library. Numbers keep the kind they were read as: an
integer that fits in 64 unsigned bits, a negative integer that fits in 64 signed bits, or a
double. Doubles are written with their shortest digits, positionally from 10^-5 up to below
10^16 and with a signed exponent otherwise, and a whole number keeps `.0`. Objects keep their members in the order they were read,
duplicates included; readers that need a map decide for themselves which member wins.

Writing is compact (no blanks) or pretty (members on their own lines, indented by two spaces
per level). In strings, the quote and the backslash are escaped, the usual control characters
take their short escapes, other characters below U+0020 are written as four hexadecimal digits,
and everything else stands as itself.
-/

namespace Obfuscator

/-- A JSON number in the kind it was written in. -/
inductive Number where
  | nat (n : Nat)
  | neg (n : Int)
  | float (f : Binary64)
  deriving DecidableEq, Repr, Inhabited

/-- A JSON value. -/
inductive Json where
  | null
  | bool (b : Bool)
  | num (n : Number)
  | str (s : String)
  | arr (items : List Json)
  | obj (members : List (String × Json))
  deriving Repr, Inhabited

namespace Number

def digits (n : Nat) : String := String.ofList (Nat.toDigits 10 n)

def floatFormat : FloatFormat := { positional := some (-5, 16), pointZero := true }

/-- The text of the number as JSON writes it; a double that is not finite is `null`. -/
def text : Number → String
  | nat n => digits n
  | neg n => "-" ++ digits n.natAbs
  | float f => if f.isFinite then f.render floatFormat else "null"

end Number

namespace Json

def hexDigit (n : Nat) : Char :=
  if n < 10 then Char.ofNat (48 + n) else Char.ofNat (87 + n)

def escapeChar (c : Char) : List Char :=
  if c = '"' then ['\\', '"']
  else if c = '\\' then ['\\', '\\']
  else if c = '\n' then ['\\', 'n']
  else if c = '\r' then ['\\', 'r']
  else if c = '\t' then ['\\', 't']
  else if c = '\x08' then ['\\', 'b']
  else if c = '\x0c' then ['\\', 'f']
  else if c.toNat < 0x20 then ['\\', 'u', '0', '0', hexDigit (c.toNat / 16), hexDigit (c.toNat % 16)]
  else [c]

def quote (s : String) : String :=
  String.ofList ('"' :: s.toList.flatMap escapeChar ++ ['"'])

mutual
def compact : Json → String
  | null => "null"
  | bool true => "true"
  | bool false => "false"
  | num n => n.text
  | str s => quote s
  | arr items => "[" ++ compactItems items ++ "]"
  | obj members => "\x7b" ++ compactMembers members ++ "\x7d"

def compactItems : List Json → String
  | [] => ""
  | [x] => compact x
  | x :: xs => compact x ++ "," ++ compactItems xs

def compactMembers : List (String × Json) → String
  | [] => ""
  | [(k, v)] => quote k ++ ":" ++ compact v
  | (k, v) :: ms => quote k ++ ":" ++ compact v ++ "," ++ compactMembers ms
end

def indent (level : Nat) : String := String.ofList (List.replicate (2 * level) ' ')

mutual
/-- The pretty text of a value at a nesting level. -/
def pretty (level : Nat) : Json → String
  | arr [] => "[]"
  | obj [] => "\x7b\x7d"
  | arr items => "[\n" ++ prettyItems (level + 1) items ++ "\n" ++ indent level ++ "]"
  | obj members =>
    "\x7b\n" ++ prettyMembers (level + 1) members ++ "\n" ++ indent level ++ "\x7d"
  | v => compact v

def prettyItems (level : Nat) : List Json → String
  | [] => ""
  | [x] => indent level ++ pretty level x
  | x :: xs => indent level ++ pretty level x ++ ",\n" ++ prettyItems level xs

def prettyMembers (level : Nat) : List (String × Json) → String
  | [] => ""
  | [(k, v)] => indent level ++ quote k ++ ": " ++ pretty level v
  | (k, v) :: ms => indent level ++ quote k ++ ": " ++ pretty level v ++ ",\n" ++ prettyMembers level ms
end

/-- The member of an object with the given key, the last one if several. -/
def field? (j : Json) (key : String) : Option Json :=
  match j with
  | obj members => (members.reverse.find? fun m => m.1 == key).map Prod.snd
  | _ => none

end Json
end Obfuscator
