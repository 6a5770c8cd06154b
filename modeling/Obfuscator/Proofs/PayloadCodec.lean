import Mathlib
import Obfuscator.Payload
import Obfuscator.Text.Utf8
import Obfuscator.Proofs.Base64RoundTrip
/-!
# The payload codec

A payload is the base64 text of the bytes of a literal under a charset, one character per base64
byte. Encoding under UTF-8 always succeeds; under Latin-1 it succeeds exactly when no character
is above U+00FF, and otherwise names the first such character with its byte offset. Decoding
inverts encoding on the nose: `decode_eq_ok_iff` says a payload decodes to a text exactly when
the text encodes to that payload. So the payloads that decode are the canonical padded base64
texts, of bytes that are UTF-8 when the charset is UTF-8.

Two facts carry the round trips besides the base64 ones: base64 text is ASCII, so a payload's
UTF-8 bytes are its base64 bytes; and each charset's bytes and characters are inverse.
-/

namespace Obfuscator

open Text

/-! ## ASCII text -/

def byteChar (b : UInt8) : Char := Char.ofNat b.toNat

theorem encodeChar_byteChar {b : UInt8} (h : b.toNat < 128) : encodeChar (byteChar b) = [b] := by
  have hc : (byteChar b).toNat = b.toNat := toNat_ofNat (Or.inl (by omega))
  simp only [encodeChar, hc, if_pos h, List.cons.injEq, and_true]
  exact toUInt8_eq (by omega)

theorem encodeUtf8_map_byteChar : ∀ {bs : List UInt8}, (∀ b ∈ bs, b.toNat < 128) →
    encodeUtf8 (bs.map byteChar) = bs
  | [], _ => rfl
  | b :: bs, h => by
      rw [List.map_cons, encodeUtf8, List.flatMap_cons, ← encodeUtf8,
        encodeChar_byteChar (h b List.mem_cons_self),
        encodeUtf8_map_byteChar fun b' hb' => h b' (List.mem_cons_of_mem b hb')]
      rfl

theorem eq_map_byteChar {text : List Char} {bs : List UInt8} (h : encodeUtf8 text = bs)
    (hascii : ∀ b ∈ bs, b.toNat < 128) : text = bs.map byteChar := by
  have h₁ : decodeUtf8? bs = some text := decodeUtf8?_eq_some_iff.mpr h
  have h₂ : decodeUtf8? bs = some (bs.map byteChar) :=
    decodeUtf8?_eq_some_iff.mpr (encodeUtf8_map_byteChar hascii)
  rw [h₁] at h₂
  exact Option.some.inj h₂

namespace Charset

/-! ## Latin-1 -/

theorem latin1Bytes_eq_ok : ∀ {cs : List Char} {offset : Nat}, (∀ c ∈ cs, c.toNat ≤ 0xFF) →
    latin1Bytes cs offset = .ok (cs.map fun c => c.toNat.toUInt8)
  | [], _, _ => rfl
  | c :: cs, offset, h => by
      have hc := h c List.mem_cons_self
      rw [latin1Bytes, if_pos (by omega),
        latin1Bytes_eq_ok fun d hd => h d (List.mem_cons_of_mem c hd)]
      rfl

theorem latin1Bytes_outside {c : Char} (post : List Char) (hc : 0xFF < c.toNat) :
    ∀ (pre : List Char) (offset : Nat), (∀ d ∈ pre, d.toNat ≤ 0xFF) →
      latin1Bytes (pre ++ c :: post) offset = .error (.outsideLatin1 c (offset + byteSize pre))
  | [], offset, _ => by
      rw [List.nil_append, latin1Bytes, if_neg (by omega)]
      rfl
  | d :: pre, offset, h => by
      have hd := h d List.mem_cons_self
      rw [List.cons_append, latin1Bytes, if_pos (by omega),
        latin1Bytes_outside post hc pre _ fun e he => h e (List.mem_cons_of_mem d he)]
      simp only [byteSize_cons, Nat.add_assoc]
      rfl

theorem le_of_latin1Bytes_eq_ok : ∀ {cs : List Char} {offset : Nat} {bs : List UInt8},
    latin1Bytes cs offset = .ok bs → ∀ c ∈ cs, c.toNat ≤ 0xFF
  | [], _, _, _ => by simp
  | c :: cs, offset, bs, h => by
      rw [latin1Bytes] at h
      split at h
      · rename_i hc
        obtain ⟨bs', h', -⟩ : ∃ bs', latin1Bytes cs (offset + c.utf8Size) = .ok bs' ∧
            bs = c.toNat.toUInt8 :: bs' := by
          cases hrest : latin1Bytes cs (offset + c.utf8Size) with
          | error e =>
              rw [hrest] at h
              cases h
          | ok bs' =>
              rw [hrest] at h
              cases h
              exact ⟨bs', rfl, rfl⟩
        intro d hd
        rcases List.mem_cons.mp hd with rfl | hd
        · omega
        · exact le_of_latin1Bytes_eq_ok h' d hd
      · cases h

/-! ## Bytes and characters -/

theorem chars_of_bytes {cs : Charset} {text : List Char} {bs : List UInt8}
    (h : cs.bytes text = .ok bs) : cs.chars bs = .ok text := by
  cases cs with
  | latin1 =>
      have hle := le_of_latin1Bytes_eq_ok h
      rw [bytes, latin1Bytes_eq_ok hle] at h
      cases h
      simp only [chars, List.map_map]
      congr 1
      conv_rhs => rw [← List.map_id text]
      apply List.map_congr_left
      intro c hc
      simp only [Function.comp_apply, toNat_toUInt8 (show c.toNat < 256 by have := hle c hc; omega),
        Char.ofNat_toNat, id]
  | utf8 =>
      cases h
      simp [chars, decodeUtf8?_encodeUtf8]

theorem bytes_of_chars {cs : Charset} {bs : List UInt8} {text : List Char}
    (h : cs.chars bs = .ok text) : cs.bytes text = .ok bs := by
  cases cs with
  | latin1 =>
      cases h
      have hle : ∀ c ∈ bs.map byteChar, c.toNat ≤ 0xFF := by
        intro c hc
        obtain ⟨b, -, rfl⟩ := List.mem_map.mp hc
        rw [byteChar, toNat_ofNat (Or.inl (by have := b.toNat_lt; omega))]
        have := b.toNat_lt
        omega
      rw [bytes, show (bs.map fun b => Char.ofNat b.toNat) = bs.map byteChar from rfl,
        latin1Bytes_eq_ok hle, List.map_map]
      congr 1
      conv_rhs => rw [← List.map_id bs]
      apply List.map_congr_left
      intro b _
      simp only [Function.comp_apply, byteChar, id,
        toNat_ofNat (Or.inl (by have := b.toNat_lt; omega) : b.toNat.isValidChar)]
      exact toUInt8_eq (Nat.mod_eq_of_lt b.toNat_lt)
  | utf8 =>
      simp only [chars] at h
      split at h
      · rename_i text' htext
        cases h
        rw [bytes, encodeUtf8_of_decodeUtf8? htext]
      · cases h

/-! ## Round trips -/

theorem encode_eq_ok {cs : Charset} {text payload : List Char} :
    cs.encode text = .ok payload ↔
      ∃ bs, cs.bytes text = .ok bs ∧ payload = (Base64.encode bs).map byteChar := by
  unfold encode
  cases cs.bytes text with
  | error e => simp [Except.map]
  | ok bs =>
      simp only [Except.map, Except.ok.injEq, exists_eq_left']
      exact ⟨fun h => h.symm ▸ rfl, fun h => h.symm ▸ rfl⟩

theorem encodeUtf8_payload (bs : List UInt8) :
    encodeUtf8 ((Base64.encode bs).map byteChar) = Base64.encode bs :=
  encodeUtf8_map_byteChar fun _ hb => Base64.toNat_lt_of_mem_encode hb

theorem decode_encode {cs : Charset} {text payload : List Char}
    (h : cs.encode text = .ok payload) : cs.decode payload = .ok text := by
  obtain ⟨bs, hbytes, rfl⟩ := encode_eq_ok.mp h
  rw [decode, encodeUtf8_payload, Base64.decode_encode]
  exact chars_of_bytes hbytes

theorem encode_of_decode {cs : Charset} {payload text : List Char}
    (h : cs.decode payload = .ok text) : cs.encode text = .ok payload := by
  unfold decode at h
  split at h
  · rename_i bs hbs
    have hcanon := Base64.encode_of_decode hbs
    refine encode_eq_ok.mpr ⟨bs, bytes_of_chars h, ?_⟩
    rw [hcanon]
    exact eq_map_byteChar rfl fun _ hb => by
      rw [← hcanon] at hb
      exact Base64.toNat_lt_of_mem_encode hb
  · cases h

theorem decode_eq_ok_iff {cs : Charset} {payload text : List Char} :
    cs.decode payload = .ok text ↔ cs.encode text = .ok payload :=
  ⟨encode_of_decode, decode_encode⟩

theorem decode_isOk_iff {cs : Charset} {payload : List Char} :
    (∃ text, cs.decode payload = .ok text) ↔
      ∃ bs, Base64.encode bs = encodeUtf8 payload ∧ (cs = .utf8 → (decodeUtf8? bs).isSome) := by
  constructor
  · rintro ⟨text, h⟩
    unfold decode at h
    split at h
    · rename_i bs hbs
      refine ⟨bs, Base64.encode_of_decode hbs, ?_⟩
      rintro rfl
      simp only [chars] at h
      split at h
      · rename_i text' htext
        simp [htext]
      · cases h
    · cases h
  · rintro ⟨bs, hbs, hutf8⟩
    have hdecode := Base64.decode_eq_ok_iff.mpr hbs
    cases cs with
    | latin1 => exact ⟨_, by rw [decode, hdecode]; rfl⟩
    | utf8 =>
        obtain ⟨text, htext⟩ := Option.isSome_iff_exists.mp (hutf8 rfl)
        exact ⟨text, by rw [decode, hdecode]; simp [chars, htext]⟩

/-- The payload codec: UTF-8 encodes every text; Latin-1 encodes exactly the texts with no
character above U+00FF and otherwise refuses the first such character at its byte offset;
decoding and encoding are inverse; and decoding accepts exactly the canonical padded base64
texts, of UTF-8 bytes under UTF-8. -/
theorem payload_codec_round_trips :
    (∀ text, ∃ payload, utf8.encode text = .ok payload) ∧
    (∀ text, (∃ payload, latin1.encode text = .ok payload) ↔ ∀ c ∈ text, c.toNat ≤ 0xFF) ∧
    (∀ pre c post, (∀ d ∈ pre, d.toNat ≤ 0xFF) → 0xFF < c.toNat →
      latin1.encode (pre ++ c :: post) = .error (.outsideLatin1 c (byteSize pre))) ∧
    (∀ (cs : Charset) text payload, cs.encode text = .ok payload → cs.decode payload = .ok text) ∧
    (∀ (cs : Charset) payload text, cs.decode payload = .ok text → cs.encode text = .ok payload) ∧
    (∀ (cs : Charset) payload, (∃ text, cs.decode payload = .ok text) ↔
      ∃ bs, Base64.encode bs = encodeUtf8 payload ∧ (cs = .utf8 → (decodeUtf8? bs).isSome)) := by
  refine ⟨fun text => ⟨_, encode_eq_ok.mpr ⟨_, rfl, rfl⟩⟩, fun text => ?_,
    fun pre c post hpre hc => ?_, fun _ _ _ => decode_encode, fun _ _ _ => encode_of_decode,
    fun _ _ => decode_isOk_iff⟩
  · constructor
    · rintro ⟨payload, h⟩
      obtain ⟨bs, hbs, -⟩ := encode_eq_ok.mp h
      exact le_of_latin1Bytes_eq_ok hbs
    · intro hle
      exact ⟨_, encode_eq_ok.mpr ⟨_, latin1Bytes_eq_ok hle, rfl⟩⟩
  · rw [encode, bytes, latin1Bytes_outside post hc pre 0 hpre, Nat.zero_add]
    rfl

/-- Latin-1 refuses a character above U+00FF at the byte where it starts. -/
theorem latin1_refuses_wide_character :
    latin1.encode ['a', 'Ā'] = .error (.outsideLatin1 'Ā' 1) :=
  payload_codec_round_trips.2.2.1 ['a'] 'Ā' [] (by simp) (by decide)

end Charset
end Obfuscator
