/-!
# UTF-8 text

Text positions in this library are byte offsets into the UTF-8 encoding of a text, and a span
is the half-open byte range from `start` to `stop`. This module measures text in bytes and cuts
it at byte offsets. A cut that falls inside a character, or past the end, is refused with
`none`: callers turn that into the failure of the whole request. The encoding itself, and the
strict reading of bytes back into characters, come after.
-/

namespace Obfuscator
namespace Text

def byteSize : List Char → Nat
  | [] => 0
  | c :: cs => c.utf8Size + byteSize cs

/-- Splits the characters after the first `n` bytes; `none` when byte `n` lies inside a
character or past the end. -/
def splitAtByte? : List Char → Nat → Option (List Char × List Char)
  | cs, 0 => some ([], cs)
  | [], _ + 1 => none
  | c :: cs, n + 1 =>
    if c.utf8Size ≤ n + 1 then
      (splitAtByte? cs (n + 1 - c.utf8Size)).map fun p => (c :: p.1, p.2)
    else
      none

def IsBoundary (cs : List Char) (n : Nat) : Prop := (splitAtByte? cs n).isSome

instance (cs : List Char) (n : Nat) : Decidable (IsBoundary cs n) :=
  inferInstanceAs (Decidable ((splitAtByte? cs n).isSome = true))

/-- The characters between bytes `start` and `stop`; `none` unless `start ≤ stop` and both are
character boundaries. -/
def slice? (cs : List Char) (start stop : Nat) : Option (List Char) :=
  if start ≤ stop then
    match splitAtByte? cs start with
    | none => none
    | some (_, rest) => (splitAtByte? rest (stop - start)).map Prod.fst
  else
    none

def dropBytes? (cs : List Char) (start : Nat) : Option (List Char) :=
  (splitAtByte? cs start).map Prod.snd

def withOffsets : List Char → Nat → List (Nat × Char)
  | [], _ => []
  | c :: cs, base => (base, c) :: withOffsets cs (base + c.utf8Size)

@[simp] theorem byteSize_nil : byteSize [] = 0 := rfl

@[simp] theorem byteSize_cons (c : Char) (cs : List Char) :
    byteSize (c :: cs) = c.utf8Size + byteSize cs := rfl

@[simp] theorem byteSize_append (xs ys : List Char) :
    byteSize (xs ++ ys) = byteSize xs + byteSize ys := by
  induction xs with
  | nil => simp
  | cons c cs ih => simp [ih]; omega

theorem splitAtByte?_byteSize_append (xs ys : List Char) :
    splitAtByte? (xs ++ ys) (byteSize xs) = some (xs, ys) := by
  induction xs with
  | nil => cases ys <;> rfl
  | cons c cs ih =>
    have hpos : 0 < c.utf8Size := Char.utf8Size_pos c
    obtain ⟨k, hk⟩ : ∃ k, byteSize (c :: cs) = k + 1 :=
      ⟨byteSize (c :: cs) - 1, by simp [byteSize]; omega⟩
    rw [hk]
    have hle : c.utf8Size ≤ k + 1 := by rw [← hk]; simp [byteSize]
    have hrest : k + 1 - c.utf8Size = byteSize cs := by rw [← hk]; simp [byteSize]
    simp [splitAtByte?, hle, hrest, ih]

/-!
## UTF-8 bytes

The UTF-8 encoding of characters as bytes, and the strict reading of bytes back into
characters. Reading accepts the shortest form of every scalar value and nothing else: no
overlong forms, no surrogates, nothing above U+10FFFF, no stray continuation bytes and no
sequence cut short at the end.
-/

def isContinuation (b : UInt8) : Bool := b &&& 0xC0 == 0x80

def payloadBits (b : UInt8) : Nat := (b &&& 0x3F).toNat

def encodeChar (c : Char) : List UInt8 :=
  let n := c.toNat
  if n < 0x80 then [n.toUInt8]
  else if n < 0x800 then [(0xC0 + n / 64).toUInt8, (0x80 + n % 64).toUInt8]
  else if n < 0x10000 then
    [(0xE0 + n / 4096).toUInt8, (0x80 + n / 64 % 64).toUInt8, (0x80 + n % 64).toUInt8]
  else
    [(0xF0 + n / 262144).toUInt8, (0x80 + n / 4096 % 64).toUInt8,
      (0x80 + n / 64 % 64).toUInt8, (0x80 + n % 64).toUInt8]

def encodeUtf8 (cs : List Char) : List UInt8 := cs.flatMap encodeChar

def scalar? (n : Nat) : Option Char :=
  if h : n.isValidChar then some ⟨⟨n.toUInt32.toBitVec⟩, by
    simp only [Nat.isValidChar] at h
    simp only [UInt32.isValidChar, Nat.isValidChar, UInt32.toNat, Nat.toUInt32,
      UInt32.ofNat, BitVec.toNat_ofNat]
    have : n < 4294967296 := by omega
    rw [Nat.mod_eq_of_lt this]
    exact h⟩
  else none

/-- Reads UTF-8 bytes strictly; `none` on any byte sequence that is not the shortest encoding
of scalar values. -/
def decodeUtf8? : List UInt8 → Option (List Char)
  | [] => some []
  | b :: rest =>
    if b < 0x80 then (decodeUtf8? rest).map (Char.ofNat b.toNat :: ·)
    else if 0xC2 ≤ b && b ≤ 0xDF then
      match rest with
      | c1 :: rest =>
        if isContinuation c1 then
          match scalar? ((b.toNat - 0xC0) * 64 + payloadBits c1) with
          | some ch => (decodeUtf8? rest).map (ch :: ·)
          | none => none
        else none
      | [] => none
    else if 0xE0 ≤ b && b ≤ 0xEF then
      match rest with
      | c1 :: c2 :: rest =>
        let lo : UInt8 := if b == 0xE0 then 0xA0 else 0x80
        let hi : UInt8 := if b == 0xED then 0x9F else 0xBF
        if lo ≤ c1 && c1 ≤ hi && isContinuation c2 then
          match scalar? ((b.toNat - 0xE0) * 4096 + payloadBits c1 * 64 + payloadBits c2) with
          | some ch => (decodeUtf8? rest).map (ch :: ·)
          | none => none
        else none
      | _ => none
    else if 0xF0 ≤ b && b ≤ 0xF4 then
      match rest with
      | c1 :: c2 :: c3 :: rest =>
        let lo : UInt8 := if b == 0xF0 then 0x90 else 0x80
        let hi : UInt8 := if b == 0xF4 then 0x8F else 0xBF
        if lo ≤ c1 && c1 ≤ hi && isContinuation c2 && isContinuation c3 then
          match scalar? ((b.toNat - 0xF0) * 262144 + payloadBits c1 * 4096 +
              payloadBits c2 * 64 + payloadBits c3) with
          | some ch => (decodeUtf8? rest).map (ch :: ·)
          | none => none
        else none
      | _ => none
    else none

end Text
end Obfuscator
