/-!
# Binary64 numbers

A double is kept by its sign and its magnitude counted in units of the smallest subnormal,
2^-1074. Every finite double is a whole number of such units, so reading a decimal, multiplying
and dividing are exact computations on natural numbers followed by a single rounding.

A magnitude is representable when it has at most 53 significant bits and is at most the largest
finite double, (2^53 - 1) · 2^971, which is (2^53 - 1) · 2^2045 units. Rounding goes to the
nearest representable magnitude, and a tie goes to the one whose last significant bit is zero.
A magnitude half a step or more beyond the largest finite double rounds to infinity, as IEEE 754
has it for rounding to nearest. Decimal texts are read into doubles the same way, through the
exact value they write.
-/

namespace Obfuscator

/-- A double: a finite magnitude in units of 2^-1074 with its sign, an infinity, or
not-a-number. -/
inductive Binary64 where
  | finite (negative : Bool) (units : Nat)
  | infinite (negative : Bool)
  | nan
  deriving DecidableEq, Repr, Inhabited

namespace Binary64

def unitsPerOne : Nat := Nat.pow 2 1074

def maxUnits : Nat := (Nat.pow 2 53 - 1) * Nat.pow 2 2045

def spacing (units : Nat) : Nat :=
  if units < Nat.pow 2 53 then 1 else Nat.pow 2 (units.log2 - 52)

/-- `a / b` rounded to the nearest whole number, a tie going to the even one. -/
def roundHalfEven (a b : Nat) : Nat :=
  let q := a / b
  let r := a % b
  if 2 * r < b then q else if b < 2 * r then q + 1 else q + q % 2

def roundRatio (num den : Nat) : Option Nat :=
  let step := spacing (num / den)
  let r := roundHalfEven num (den * step) * step
  if r ≤ maxUnits then some r else none

def ofRatio (negative : Bool) (num den : Nat) : Binary64 :=
  match roundRatio num den with
  | some u => finite negative u
  | none => infinite negative

def decimalLength (n : Nat) : Nat := (Nat.toDigits 10 n).length

/-- The double nearest to `m · 10 ^ e` with a sign. Values of 10^310 and more are infinite and
values below 10^-330 are zero, as both lie far beyond the range where rounding could go either
way. -/
def ofDecimal (negative : Bool) (m : Nat) (e : Int) : Binary64 :=
  if m = 0 then finite negative 0
  else
    let top : Int := decimalLength m + e
    if 310 < top then infinite negative
    else if top < -330 then finite negative 0
    else if 0 ≤ e then ofRatio negative (m * Nat.pow 10 e.toNat * unitsPerOne) 1
    else ofRatio negative (m * unitsPerOne) (Nat.pow 10 (-e).toNat)

def ofNat (n : Nat) : Binary64 := ofDecimal false n 0

def neg : Binary64 → Binary64
  | finite s u => finite (!s) u
  | infinite s => infinite (!s)
  | nan => nan

def isFinite : Binary64 → Bool
  | finite _ _ => true
  | _ => false

def isZero : Binary64 → Bool
  | finite _ u => u == 0
  | _ => false

def isInfinite : Binary64 → Bool
  | infinite _ => true
  | _ => false

def mul : Binary64 → Binary64 → Binary64
  | finite s a, finite t b => ofRatio (s != t) (a * b) unitsPerOne
  | finite s a, infinite t => if a = 0 then nan else infinite (s != t)
  | infinite s, finite t b => if b = 0 then nan else infinite (s != t)
  | infinite s, infinite t => infinite (s != t)
  | _, _ => nan

def div : Binary64 → Binary64 → Binary64
  | finite s a, finite t b =>
    if b = 0 then (if a = 0 then nan else infinite (s != t))
    else ofRatio (s != t) (a * unitsPerOne) b
  | finite s _, infinite t => finite (s != t) 0
  | infinite s, finite t _ => infinite (s != t)
  | _, _ => nan

def maxU64 : Nat := Nat.pow 2 64 - 1

/-- The number rounded half away from zero and cast to 64 unsigned bits, saturating: negative
numbers and not-a-number give zero, and positive infinity the largest value. -/
def toU64 : Binary64 → Nat
  | finite true _ => 0
  | finite false u => min ((2 * u + unitsPerOne) / (2 * unitsPerOne)) maxU64
  | infinite neg => if neg then 0 else maxU64
  | nan => 0

theorem roundHalfEven_of_dvd (a b : Nat) (hb : 0 < b) (h : b ∣ a) :
    roundHalfEven a b = a / b := by
  obtain ⟨k, rfl⟩ := h
  simp [roundHalfEven, Nat.mul_mod_right, hb]

theorem ofNat_zero : ofNat 0 = finite false 0 := by
  simp [ofNat, ofDecimal]

end Binary64

/-!
## Decimal numbers as text writes them

A decimal is a sign, the value of its digits and the power of ten that scales them. It is read
from text by the grammar of the standard float reader: an optional sign, then digits with an
optional point and at least one digit on either side of it, then an optional exponent, `e` or
`E` with an optional sign and at least one digit. The reader of doubles takes the words `inf`,
`infinity` and `nan` in any case as well, after an optional sign.
-/

/-- A decimal number: `digits · 10 ^ exponent` with a sign. -/
structure Decimal where
  negative : Bool
  digits : Nat
  exponent : Int
  deriving DecidableEq, Repr, Inhabited

namespace Decimal

def digitsValue (ds : List Char) : Nat := ds.foldl (fun n d => n * 10 + (d.toNat - 48)) 0

def splitSign : List Char → Bool × List Char
  | '-' :: r => (true, r)
  | '+' :: r => (false, r)
  | r => (false, r)

def readExponent : List Char → Option Int
  | [] => some 0
  | e :: r =>
    if e == 'e' || e == 'E' then
      let (neg, ds) := splitSign r
      if !ds.isEmpty && ds.all Char.isDigit then
        let x : Int := digitsValue ds
        some (if neg then -x else x)
      else none
    else none

/-- Reads a decimal by the grammar of the standard float reader; the whole text must be one. -/
def parse? (cs : List Char) : Option Decimal :=
  let (negative, cs) := splitSign cs
  let whole := cs.takeWhile Char.isDigit
  let cs := cs.drop whole.length
  let (frac, cs) := match cs with
    | '.' :: r => (r.takeWhile Char.isDigit, r.drop (r.takeWhile Char.isDigit).length)
    | r => ([], r)
  if whole.isEmpty && frac.isEmpty then none
  else (readExponent cs).map fun x =>
    { negative, digits := digitsValue (whole ++ frac), exponent := x - frac.length }

def toBinary64 (d : Decimal) : Binary64 := Binary64.ofDecimal d.negative d.digits d.exponent

end Decimal

namespace Binary64

/-- Reads a double as the standard float reader does: a decimal, rounded to the nearest double
(so that a decimal too large gives an infinity), or `inf`, `infinity` or `nan` in any case, each
after an optional sign. -/
def parse? (cs : List Char) : Option Binary64 :=
  let (negative, body) := Decimal.splitSign cs
  let word := String.ofList (body.map Char.toLower)
  if word == "inf" || word == "infinity" then some (infinite negative)
  else if word == "nan" then some nan
  else (Decimal.parse? cs).map Decimal.toBinary64

end Binary64

end Obfuscator
