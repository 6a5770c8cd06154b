import Mathlib
import Obfuscator.Text.Utf8
/-!
# Reading UTF-8 back

`decodeUtf8?` is the inverse of `encodeUtf8`: it reads the encoding of every text back to the
text, and whatever it accepts is the encoding of what it returns. The second half is where the
strictness of the reader matters: an overlong form, a surrogate or a value above U+10FFFF would
decode to a character whose encoding is other bytes.

Both directions go one character at a time. `decodeUtf8?_encodeChar_append` reads the bytes of
one character off the front; `decodeUtf8?_eq_some_cons` says that whatever the reader accepts
starts with the bytes of the character it returns. The byte facts they need (a continuation byte
is `10` followed by its six payload bits) are checked over all 256 bytes.
-/

namespace Obfuscator
namespace Text

/-! ## Bytes and scalar values -/

theorem byte_bits : ∀ n, n < 256 →
    payloadBits n.toUInt8 = n % 64 ∧ (isContinuation n.toUInt8 = true ↔ n / 64 = 2) := by
  decide +kernel

theorem payloadBits_eq (b : UInt8) : payloadBits b = b.toNat % 64 := by
  simpa using (byte_bits b.toNat b.toNat_lt).1

theorem isContinuation_iff (b : UInt8) : isContinuation b = true ↔ b.toNat / 64 = 2 := by
  simpa using (byte_bits b.toNat b.toNat_lt).2

theorem tail_byte {k : Nat} (hk : k < 64) :
    isContinuation (0x80 + k).toUInt8 = true ∧ payloadBits (0x80 + k).toUInt8 = k := by
  have hbits := byte_bits (0x80 + k) (by omega)
  refine ⟨hbits.2.mpr (by omega), ?_⟩
  rw [hbits.1]
  omega

theorem toUInt8_eq {n : Nat} {b : UInt8} (h : n % 256 = b.toNat) : n.toUInt8 = b := by
  apply UInt8.toNat_inj.mp
  simpa using h

theorem toNat_toUInt8 {n : Nat} (h : n < 256) : n.toUInt8.toNat = n := by
  simp [Nat.mod_eq_of_lt h]

theorem scalar?_toNat (c : Char) : scalar? c.toNat = some c := by
  have hvalid : c.toNat.isValidChar := c.valid
  unfold scalar?
  rw [dif_pos hvalid]
  congr
  exact UInt32.ofNat_toNat

theorem toNat_of_scalar? {n : Nat} {c : Char} (h : scalar? n = some c) :
    c.toNat = n ∧ n.isValidChar := by
  unfold scalar? at h
  split at h
  · rename_i hn
    cases h
    refine ⟨?_, hn⟩
    simp only [Nat.isValidChar] at hn
    simp [Char.toNat]
    omega
  · cases h

theorem toNat_ofNat {n : Nat} (h : n.isValidChar) : (Char.ofNat n).toNat = n := by
  simp only [Char.ofNat, dif_pos h, Char.ofNatAux, Char.toNat]
  simp

/-! ## Encoding, then reading -/

/-- The reader takes the bytes of one character off the front. -/
theorem decodeUtf8?_encodeChar_append (c : Char) (rest : List UInt8) :
    decodeUtf8? (encodeChar c ++ rest) = (decodeUtf8? rest).map (c :: ·) := by
  have hv : c.toNat.isValidChar := c.valid
  simp only [Nat.isValidChar] at hv
  have ht0 := tail_byte (Nat.mod_lt c.toNat (show 64 > 0 by decide))
  have ht1 := tail_byte (Nat.mod_lt (c.toNat / 64) (show 64 > 0 by decide))
  have ht2 := tail_byte (Nat.mod_lt (c.toNat / 4096) (show 64 > 0 by decide))
  unfold encodeChar
  dsimp only
  split
  · -- one byte
    rw [List.singleton_append, decodeUtf8?.eq_def]
    dsimp only
    rw [if_pos (by simp [UInt8.lt_iff_toNat_lt]; omega)]
    simp [toNat_toUInt8 (show c.toNat < 256 by omega)]
  split
  · -- two bytes
    simp only [List.cons_append, List.nil_append]
    rw [decodeUtf8?.eq_def]
    dsimp only
    rw [if_neg (by simp [UInt8.lt_iff_toNat_lt]; omega),
      if_pos (by simp [UInt8.le_iff_toNat_le]; omega)]
    simp only [ht0.1, if_true, ht0.2]
    rw [toNat_toUInt8 (show 0xC0 + c.toNat / 64 < 256 by omega),
      show (0xC0 + c.toNat / 64 - 0xC0) * 64 + c.toNat % 64 = c.toNat by omega, scalar?_toNat]
  split
  · -- three bytes: the second byte keeps clear of overlong forms and surrogates
    simp only [List.cons_append, List.nil_append]
    rw [decodeUtf8?.eq_def]
    dsimp only
    rw [if_neg (by simp [UInt8.lt_iff_toNat_lt]; omega),
      if_neg (by simp [UInt8.le_iff_toNat_le]; omega),
      if_pos (by simp [UInt8.le_iff_toNat_le]; omega)]
    simp only [ht0.1, ht1.2, ht0.2]
    rw [if_pos (by
      simp [UInt8.le_iff_toNat_le, ← UInt8.toNat_inj, apply_ite UInt8.toNat]
      constructor <;> split <;> omega)]
    rw [toNat_toUInt8 (show 0xE0 + c.toNat / 4096 < 256 by omega),
      show (0xE0 + c.toNat / 4096 - 0xE0) * 4096 + c.toNat / 64 % 64 * 64 + c.toNat % 64 =
        c.toNat by omega, scalar?_toNat]
  · -- four bytes: the second byte keeps clear of overlong forms and values past U+10FFFF
    simp only [List.cons_append, List.nil_append]
    rw [decodeUtf8?.eq_def]
    dsimp only
    rw [if_neg (by simp [UInt8.lt_iff_toNat_lt]; omega),
      if_neg (by simp [UInt8.le_iff_toNat_le]; omega),
      if_neg (by simp [UInt8.le_iff_toNat_le]; omega),
      if_pos (by simp [UInt8.le_iff_toNat_le]; omega)]
    simp only [ht0.1, ht1.1, ht2.2, ht1.2, ht0.2]
    rw [if_pos (by
      simp [UInt8.le_iff_toNat_le, ← UInt8.toNat_inj, apply_ite UInt8.toNat]
      constructor <;> split <;> omega)]
    rw [toNat_toUInt8 (show 0xF0 + c.toNat / 262144 < 256 by omega),
      show (0xF0 + c.toNat / 262144 - 0xF0) * 262144 + c.toNat / 4096 % 64 * 4096 +
        c.toNat / 64 % 64 * 64 + c.toNat % 64 = c.toNat by omega, scalar?_toNat]

theorem decodeUtf8?_encodeUtf8 (cs : List Char) : decodeUtf8? (encodeUtf8 cs) = some cs := by
  induction cs with
  | nil => rfl
  | cons c cs ih =>
      rw [encodeUtf8, List.flatMap_cons, ← encodeUtf8, decodeUtf8?_encodeChar_append, ih]
      rfl

/-! ## Reading, then encoding -/

section

variable {c : Char} {b c1 c2 c3 : UInt8}

theorem encodeChar_two (hb : 0xC2 ≤ b.toNat ∧ b.toNat ≤ 0xDF) (hc1 : c1.toNat / 64 = 2)
    (hc : c.toNat = (b.toNat - 0xC0) * 64 + c1.toNat % 64) :
    encodeChar c = [b, c1] := by
  simp only [encodeChar, hc]
  rw [if_neg (by omega), if_pos (by omega)]
  simp only [List.cons.injEq, and_true]
  exact ⟨toUInt8_eq (by omega), toUInt8_eq (by omega)⟩

theorem encodeChar_three (hb : 0xE0 ≤ b.toNat ∧ b.toNat ≤ 0xEF) (hc1 : c1.toNat / 64 = 2)
    (hc2 : c2.toNat / 64 = 2) (hlong : b.toNat = 0xE0 → 0xA0 ≤ c1.toNat)
    (hc : c.toNat = (b.toNat - 0xE0) * 4096 + c1.toNat % 64 * 64 + c2.toNat % 64) :
    encodeChar c = [b, c1, c2] := by
  simp only [encodeChar, hc]
  rw [if_neg (by omega), if_neg (by omega), if_pos (by omega)]
  simp only [List.cons.injEq, and_true]
  exact ⟨toUInt8_eq (by omega), toUInt8_eq (by omega),
    toUInt8_eq (by omega)⟩

theorem encodeChar_four (hb : 0xF0 ≤ b.toNat ∧ b.toNat ≤ 0xF4) (hc1 : c1.toNat / 64 = 2)
    (hc2 : c2.toNat / 64 = 2) (hc3 : c3.toNat / 64 = 2)
    (hlong : b.toNat = 0xF0 → 0x90 ≤ c1.toNat)
    (hc : c.toNat = (b.toNat - 0xF0) * 262144 + c1.toNat % 64 * 4096 + c2.toNat % 64 * 64 +
      c3.toNat % 64) :
    encodeChar c = [b, c1, c2, c3] := by
  simp only [encodeChar, hc]
  rw [if_neg (by omega), if_neg (by omega), if_neg (by omega)]
  simp only [List.cons.injEq, and_true]
  exact ⟨toUInt8_eq (by omega), toUInt8_eq (by omega),
    toUInt8_eq (by omega), toUInt8_eq (by omega)⟩

end

theorem read_front {ch : Char} {bytes rest : List UInt8} {cs : List Char}
    (henc : encodeChar ch = bytes) (h : (decodeUtf8? rest).map (ch :: ·) = some cs) :
    ∃ c rest' cs', bytes ++ rest = encodeChar c ++ rest' ∧ decodeUtf8? rest' = some cs' ∧
      cs = c :: cs' := by
  obtain ⟨cs', hcs', rfl⟩ := Option.map_eq_some_iff.mp h
  exact ⟨ch, rest, cs', by rw [henc], hcs', rfl⟩

/-- Whatever the reader accepts starts with the bytes of the first character it returns. -/
theorem decodeUtf8?_eq_some_cons {b : UInt8} {rest : List UInt8} {cs : List Char}
    (h : decodeUtf8? (b :: rest) = some cs) :
    ∃ c rest' cs', b :: rest = encodeChar c ++ rest' ∧ decodeUtf8? rest' = some cs' ∧
      cs = c :: cs' := by
  have hb := b.toNat_lt
  rw [decodeUtf8?.eq_def] at h
  dsimp only at h
  split at h
  · -- one byte
    rename_i h1
    have hb : b.toNat < 128 := by simpa [UInt8.lt_iff_toNat_lt] using h1
    have henc : encodeChar (Char.ofNat b.toNat) = [b] := by
      simp [encodeChar, toNat_ofNat (Or.inl (by omega) : b.toNat.isValidChar), hb]
    exact read_front henc h
  split at h
  · -- two bytes
    rename_i h1 h2
    simp [UInt8.le_iff_toNat_le] at h2
    split at h
    · rename_i c1 rest'
      obtain ⟨h3, h⟩ := Option.ite_none_right_eq_some.mp h
      split at h
      · rename_i ch hch
        obtain ⟨hn, -⟩ := toNat_of_scalar? hch
        rw [payloadBits_eq] at hn
        exact read_front (encodeChar_two h2 ((isContinuation_iff c1).mp h3) hn) h
      · cases h
    · cases h
  split at h
  · -- three bytes
    rename_i h1 h2 h3
    simp [UInt8.le_iff_toNat_le] at h3
    split at h
    · rename_i c1 c2 rest'
      obtain ⟨h4, h⟩ := Option.ite_none_right_eq_some.mp h
      simp [UInt8.le_iff_toNat_le, apply_ite UInt8.toNat, ← UInt8.toNat_inj,
        isContinuation_iff] at h4
      obtain ⟨⟨hlo, hhi⟩, hc2⟩ := h4
      have hc1 : c1.toNat / 64 = 2 := by
        split at hlo <;> split at hhi <;> omega
      have hlong : b.toNat = 0xE0 → 0xA0 ≤ c1.toNat := fun h => by simpa [h] using hlo
      split at h
      · rename_i ch hch
        obtain ⟨hn, -⟩ := toNat_of_scalar? hch
        rw [payloadBits_eq, payloadBits_eq] at hn
        exact read_front (encodeChar_three h3 hc1 hc2 hlong hn) h
      · cases h
    · cases h
  split at h
  · -- four bytes
    rename_i h1 h2 h3 h4
    simp [UInt8.le_iff_toNat_le] at h4
    split at h
    · rename_i c1 c2 c3 rest'
      obtain ⟨h5, h⟩ := Option.ite_none_right_eq_some.mp h
      simp [UInt8.le_iff_toNat_le, apply_ite UInt8.toNat, ← UInt8.toNat_inj,
        isContinuation_iff] at h5
      obtain ⟨⟨⟨hlo, hhi⟩, hc2⟩, hc3⟩ := h5
      have hc1 : c1.toNat / 64 = 2 := by
        split at hlo <;> split at hhi <;> omega
      have hlong : b.toNat = 0xF0 → 0x90 ≤ c1.toNat := fun h => by simpa [h] using hlo
      split at h
      · rename_i ch hch
        obtain ⟨hn, -⟩ := toNat_of_scalar? hch
        rw [payloadBits_eq, payloadBits_eq, payloadBits_eq] at hn
        exact read_front (encodeChar_four h4 hc1 hc2 hc3 hlong hn) h
      · cases h
    · cases h
  cases h

theorem length_encodeChar_pos (c : Char) : 0 < (encodeChar c).length := by
  unfold encodeChar
  dsimp only
  split_ifs <;> simp

theorem encodeUtf8_of_decodeUtf8? {bs : List UInt8} {cs : List Char}
    (h : decodeUtf8? bs = some cs) : encodeUtf8 cs = bs := by
  induction hn : bs.length using Nat.strong_induction_on generalizing bs cs with
  | _ n ih =>
      cases bs with
      | nil =>
          cases h
          rfl
      | cons b rest =>
          obtain ⟨c, rest', cs', hbs, hrest, rfl⟩ := decodeUtf8?_eq_some_cons h
          -- the rest is shorter by the bytes of one character
          have hshorter : rest'.length < n := by
            have := congrArg List.length hbs
            have := length_encodeChar_pos c
            simp only [List.length_append] at *
            omega
          rw [encodeUtf8, List.flatMap_cons, ← encodeUtf8, ih _ hshorter hrest rfl, hbs]

theorem decodeUtf8?_eq_some_iff {bs : List UInt8} {cs : List Char} :
    decodeUtf8? bs = some cs ↔ encodeUtf8 cs = bs := by
  constructor
  · exact encodeUtf8_of_decodeUtf8?
  · rintro rfl
    exact decodeUtf8?_encodeUtf8 cs

end Text
end Obfuscator
