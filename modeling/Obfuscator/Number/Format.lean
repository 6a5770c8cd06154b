import Obfuscator.Number.Binary64
/-!
# Writing doubles

Doubles are written with their shortest decimal digits, in a format that says where the point
goes.

## Shortest digits

The digits that stand for a finite double are the fewest significant decimal digits of a number
that rounds back to it; of the numbers with that few digits, the one nearest to the double, and
of two equally near, the one whose last digit is even.

The numbers that round to a positive double of `u` units form an interval around it, reaching
half the spacing to the neighbour on each side; the spacing below is half the spacing above at a
power of two that starts a binade. Its ends belong to it when the significand is even, as a tie
rounds to the even neighbour. For 1, 2, … 17 digits the two numbers of that many digits on
either side of the double are tried, and the first count for which one of them lies in the
interval gives the digits. Seventeen digits always suffice.
-/

namespace Obfuscator
namespace Binary64

def spacingBelow (u : Nat) : Nat :=
  if Nat.pow 2 53 ≤ u ∧ u = Nat.pow 2 u.log2 then spacing u / 2 else spacing u

def evenSignificand (u : Nat) : Bool := u / spacing u % 2 == 0

def compareScaled (d : Nat) (k : Int) (x : Nat) : Ordering :=
  if 0 ≤ k then compare (d * Nat.pow 10 k.toNat * unitsPerOne) x
  else compare (d * unitsPerOne) (x * Nat.pow 10 (-k).toNat)

/-- The power of ten of the leading digit of a positive magnitude `u`: the `E` with
`10 ^ E ≤ u / 2 ^ 1074 < 10 ^ (E + 1)`. -/
def leadingPower (u : Nat) : Int :=
  if unitsPerOne ≤ u then (decimalLength (u / unitsPerOne) : Int) - 1
  else -(decimalLength (unitsPerOne / u) : Int)

def roundsTo (u : Nat) (d : Nat) (k : Int) : Bool :=
  let low := compareScaled (2 * d) k (2 * u - spacingBelow u)
  let high := compareScaled (2 * d) k (2 * u + spacing u)
  let closed := evenSignificand u
  (low == .gt || (closed && low == .eq)) && (high == .lt || (closed && high == .eq))

/-- The number of `n` significant digits nearest to the magnitude `u` among those that round to
it, as digits and a power of ten; none if neither neighbour on that grid rounds to it. -/
def nearestOfLength (u : Nat) (n : Nat) : Option (Nat × Int) :=
  let k := leadingPower u - n + 1
  let lo := if 0 ≤ k then u / (Nat.pow 10 k.toNat * unitsPerOne) else u * Nat.pow 10 (-k).toNat / unitsPerOne
  match roundsTo u lo k, roundsTo u (lo + 1) k with
  | true, true =>
    match compareScaled (2 * lo + 1) k (2 * u) with
    | .gt => some (lo, k)
    | .lt => some (lo + 1, k)
    | .eq => some (if lo % 2 == 0 then lo else lo + 1, k)
  | true, false => some (lo, k)
  | false, true => some (lo + 1, k)
  | false, false => none

def dropZeros : Nat → Nat → Int → Nat × Int
  | 0, d, k => (d, k)
  | fuel + 1, d, k => if d ≠ 0 ∧ d % 10 = 0 then dropZeros fuel (d / 10) (k + 1) else (d, k)

def shortestOf (u : Nat) : Nat × Int :=
  let found := (List.range 17).findSome? fun i => nearestOfLength u (i + 1)
  let (d, k) := found.getD (u, -1074)
  dropZeros (decimalLength d) d k

/-- The shortest decimal that rounds to a finite double, with its sign; zero is `0 · 10 ^ 0`.
Infinities and not-a-number have none. -/
def shortest : Binary64 → Option Decimal
  | finite s u =>
    if u = 0 then some ⟨s, 0, 0⟩
    else let (d, k) := shortestOf u; some ⟨s, d, k⟩
  | _ => none

end Binary64

/-!
## Writing doubles as text

A double is written with its shortest digits. A format decides the rest: which numbers are
written positionally and which with an exponent, whether a whole number keeps a point and a
zero, and how infinities and not-a-number are spelled.

Positionally, the digits are padded with zeros up to the point, or split by it, or preceded by
`0.` and zeros. With an exponent, the first digit stands before the point, the others after it
(with no point if there are none), and the exponent follows `e` with its sign always written.
Which of the two applies is told by where the point falls: `kk` is the number of digits plus the
power of ten, so that `10 ^ (kk - 1)` is the weight of the first digit, and a format writes
positionally exactly when `lo < kk ≤ hi` for its `positional = some (lo, hi)`. Zero is `0` (or
`0.0`), with a minus for negative zero.
-/

/-- How doubles are written. -/
structure FloatFormat where
  positional : Option (Int × Int)
  pointZero : Bool
  infinity : String := "inf"
  notANumber : String := "NaN"
  deriving DecidableEq, Repr

namespace FloatFormat

def zeros (n : Nat) : String := String.ofList (List.replicate n '0')

def plain (pointZero : Bool) (ds : List Char) (e : Int) : String :=
  let kk : Int := ds.length + e
  if 0 ≤ e then String.ofList ds ++ zeros e.toNat ++ (if pointZero then ".0" else "")
  else if 0 < kk then
    String.ofList (ds.take kk.toNat) ++ "." ++ String.ofList (ds.drop kk.toNat)
  else "0." ++ zeros (-kk).toNat ++ String.ofList ds

def scientific (ds : List Char) (e : Int) : String :=
  let x : Int := ds.length + e - 1
  let mantissa := match ds with
    | [] => "0"
    | [d] => String.ofList [d]
    | d :: rest => String.ofList (d :: '.' :: rest)
  mantissa ++ "e" ++ (if 0 ≤ x then "+" else "-") ++ toString x.natAbs

def decimal (n : FloatFormat) (d : Decimal) : String :=
  let sign := if d.negative then "-" else ""
  if d.digits = 0 then sign ++ (if n.pointZero then "0.0" else "0")
  else
    let ds := Nat.toDigits 10 d.digits
    let kk : Int := ds.length + d.exponent
    let inPlace := match n.positional with
      | none => true
      | some (lo, hi) => lo < kk && kk ≤ hi
    sign ++ (if inPlace then plain n.pointZero ds d.exponent else scientific ds d.exponent)

end FloatFormat

/-- A double written in a format. -/
def Binary64.render (n : FloatFormat) (f : Binary64) : String :=
  match f with
  | .infinite neg => (if neg then "-" else "") ++ n.infinity
  | .nan => n.notANumber
  | .finite _ _ => match f.shortest with
    | some d => n.decimal d
    | none => n.notANumber

end Obfuscator
