import Mathlib
import Obfuscator.Payload
import Obfuscator.Proofs.Utf8RoundTrip

/-!
# Base64 decoding is canonical

`Base64.decode` accepts exactly the texts that `Base64.encode` writes, and reads each back to the
bytes it was written from (`decode_eq_ok_iff`). The reverse direction is the strict one: a text
that decodes has whole groups of four, padding only where a last group of one or two bytes
leaves places over, and zero bits wherever the last symbol carries more than the bytes need; so
it is the encoding of what it decodes to.

The proof follows the decoder: `decodeGroups` reads the whole groups before the last
(`decodeGroups_encode`, `encode_of_decodeGroups`), `readLast` reads the last group as symbols
followed by padding (`readLast_ok`), and `decodeLast` turns two, three or four symbols into one,
two or three bytes (`decodeLast_encode`, `encode_of_decodeLast`).
-/

namespace Obfuscator

@[simp] theorem ok_bind {ε α β : Type} (a : α) (f : α → Except ε β) :
    (Except.ok a >>= f) = f a := rfl

@[simp] theorem error_bind {ε α β : Type} (e : ε) (f : α → Except ε β) :
    (Except.error e >>= f) = Except.error e := rfl

theorem bind_eq_ok {ε α β : Type} {x : Except ε α} {f : α → Except ε β} {b : β} :
    (x >>= f) = .ok b ↔ ∃ a, x = .ok a ∧ f a = .ok b := by
  cases x <;> simp

namespace Base64

open Text

/-! ## Symbols -/

theorem value?_symbol : ∀ v, v < 64 → value? (symbol v) = some v := by decide

theorem value?_pad : value? pad = none := by decide

theorem symbol_bytes : ∀ n, n < 256 →
    ((value? n.toUInt8).all fun v => symbol v == n.toUInt8 && decide (v < 64)) = true := by
  decide +kernel

theorem symbol_of_value? {b : UInt8} {v : Nat} (h : value? b = some v) :
    symbol v = b ∧ v < 64 := by
  simpa [h] using symbol_bytes b.toNat b.toNat_lt

theorem symbol_ne_pad {v : Nat} (hv : v < 64) : symbol v ≠ pad := by
  intro hs
  have h := value?_symbol v hv
  rw [hs, value?_pad] at h
  cases h

theorem valueAt_eq_ok {b : UInt8} {offset v : Nat} :
    valueAt b offset = .ok v ↔ value? b = some v := by
  unfold valueAt
  split <;> simp_all

theorem valueAt_symbol {v : Nat} (hv : v < 64) (offset : Nat) :
    valueAt (symbol v) offset = .ok v :=
  valueAt_eq_ok.mpr (value?_symbol v hv)

theorem toNat_symbol_lt (v : Nat) : (symbol v).toNat < 128 := by
  unfold symbol
  split
  · rw [toNat_toUInt8 (by omega)]
    omega
  split
  · rw [toNat_toUInt8 (by omega)]
    omega
  split
  · rw [toNat_toUInt8 (by omega)]
    omega
  split <;> decide

theorem toNat_pad : pad.toNat = 61 := rfl

/-! ## Whole groups -/

theorem sextets (n : Nat) :
    n / 262144 * 262144 + n / 4096 % 64 * 4096 + n / 64 % 64 * 64 + n % 64 = n := by
  omega

theorem encode_group (a b c : UInt8) (rest : List UInt8) :
    encode (a :: b :: c :: rest) =
      symbol ((a.toNat * 65536 + b.toNat * 256 + c.toNat) / 262144) ::
      symbol ((a.toNat * 65536 + b.toNat * 256 + c.toNat) / 4096 % 64) ::
      symbol ((a.toNat * 65536 + b.toNat * 256 + c.toNat) / 64 % 64) ::
      symbol ((a.toNat * 65536 + b.toNat * 256 + c.toNat) % 64) :: encode rest := by
  rw [encode]
  rfl

theorem encode_append : ∀ (xs : List UInt8), xs.length % 3 = 0 → ∀ ys,
    encode (xs ++ ys) = encode xs ++ encode ys
  | [], _, ys => rfl
  | [_], h, _ => by simp at h
  | [_, _], h, _ => by simp at h
  | a :: b :: c :: rest, h, ys => by
      have hrest : rest.length % 3 = 0 := by simp at h; omega
      rw [List.cons_append, List.cons_append, List.cons_append, encode_group, encode_group,
        encode_append rest hrest ys]
      rfl

theorem length_encode : ∀ bs : List UInt8, (encode bs).length = 4 * ((bs.length + 2) / 3)
  | [] => rfl
  | [_] => by simp [encode]
  | [_, _] => by simp [encode]
  | a :: b :: c :: rest => by
      rw [encode_group]
      simp only [List.length_cons, length_encode rest]
      omega

theorem decodeGroups_encode : ∀ (xs : List UInt8), xs.length % 3 = 0 → ∀ offset,
    decodeGroups (encode xs) offset = .ok xs
  | [], _, _ => rfl
  | [_], h, _ => by simp at h
  | [_, _], h, _ => by simp at h
  | a :: b :: c :: rest, h, offset => by
      have hrest : rest.length % 3 = 0 := by simp at h; omega
      have ha := a.toNat_lt
      have hb := b.toNat_lt
      have hc := c.toNat_lt
      rw [encode_group, decodeGroups]
      generalize hN : a.toNat * 65536 + b.toNat * 256 + c.toNat = N
      have hN' : N < 16777216 := by omega
      rw [valueAt_symbol (by omega), valueAt_symbol (by omega), valueAt_symbol (by omega),
        valueAt_symbol (by omega), decodeGroups_encode rest hrest]
      rw [ok_bind, ok_bind, ok_bind, ok_bind, ok_bind]
      have h1 : (N / 65536).toUInt8 = a := toUInt8_eq (by omega)
      have h2 : (N / 256 % 256).toUInt8 = b := toUInt8_eq (by omega)
      have h3 : (N % 256).toUInt8 = c := toUInt8_eq (by omega)
      rw [sextets, h1, h2, h3]
      rfl

/-! ## The last group -/

theorem lastBytes_two {a b : Nat} (h : b % 16 = 0) :
    lastBytes [a, b] = some [(a * 4 + b / 16).toUInt8] := by
  rw [lastBytes, if_pos (by simp [h])]

theorem lastBytes_three {a b c : Nat} (h : c % 4 = 0) :
    lastBytes [a, b, c] = some [(a * 4 + b / 16).toUInt8, ((b % 16) * 16 + c / 4).toUInt8] := by
  rw [lastBytes, if_pos (by simp [h])]

theorem decodeLast_encode (start : Nat) :
    ∀ ys : List UInt8, 0 < ys.length → ys.length ≤ 3 → decodeLast start (encode ys) true = .ok ys
  | [a], _, _ => by
      have ha := a.toNat_lt
      rw [encode]
      simp [decodeLast, readLast, symbol_ne_pad (show a.toNat * 65536 / 262144 < 64 by omega),
        symbol_ne_pad (show a.toNat * 65536 / 4096 % 64 < 64 by omega),
        value?_symbol _ (show a.toNat * 65536 / 262144 < 64 by omega),
        value?_symbol _ (show a.toNat * 65536 / 4096 % 64 < 64 by omega)]
      rw [lastBytes_two (by omega), toUInt8_eq (b := a) (by omega)]
      rfl
  | [a, b], _, _ => by
      have ha := a.toNat_lt
      have hb := b.toNat_lt
      rw [encode]
      generalize hN : a.toNat * 65536 + b.toNat * 256 = N
      have hN' : N < 16777216 := by omega
      simp [decodeLast, readLast, symbol_ne_pad (show N / 262144 < 64 by omega),
        symbol_ne_pad (show N / 4096 % 64 < 64 by omega),
        symbol_ne_pad (show N / 64 % 64 < 64 by omega),
        value?_symbol _ (show N / 262144 < 64 by omega),
        value?_symbol _ (show N / 4096 % 64 < 64 by omega),
        value?_symbol _ (show N / 64 % 64 < 64 by omega)]
      rw [lastBytes_three (by omega), toUInt8_eq (b := a) (by omega), toUInt8_eq (b := b) (by omega)]
      rfl
  | [a, b, c], _, _ => by
      have ha := a.toNat_lt
      have hb := b.toNat_lt
      have hc := c.toNat_lt
      rw [encode_group]
      generalize hN : a.toNat * 65536 + b.toNat * 256 + c.toNat = N
      have hN' : N < 16777216 := by omega
      simp [encode, decodeLast, readLast, symbol_ne_pad (show N / 262144 < 64 by omega),
        symbol_ne_pad (show N / 4096 % 64 < 64 by omega),
        symbol_ne_pad (show N / 64 % 64 < 64 by omega),
        symbol_ne_pad (show N % 64 < 64 by omega),
        value?_symbol _ (show N / 262144 < 64 by omega),
        value?_symbol _ (show N / 4096 % 64 < 64 by omega),
        value?_symbol _ (show N / 64 % 64 < 64 by omega),
        value?_symbol _ (show N % 64 < 64 by omega)]
      rw [lastBytes, sextets, toUInt8_eq (b := a) (by omega), toUInt8_eq (b := b) (by omega),
        toUInt8_eq (b := c) (by omega)]
      rfl

theorem readLast_after_pad (start : Nat) {p : Nat} :
    ∀ {L : List UInt8} {place : Nat} {g g' : LastGroup}, g.firstPad = some p →
      readLast start L place g = .ok g' →
      L = List.replicate L.length pad ∧ g'.values = g.values ∧ g'.pads = g.pads + L.length
  | [], _, g, g', _, h => by
      cases h
      simp
  | b :: rest, place, g, g', hp, h => by
      rw [readLast] at h
      split at h
      · rename_i hb
        split at h
        · cases h
        · have ih := readLast_after_pad start (p := p) (by simp [hp]) h
          simp only [beq_iff_eq] at hb
          subst hb
          refine ⟨?_, ih.2.1, ?_⟩
          · simp only [List.length_cons, List.replicate_succ]
            rw [← ih.1]
          · rw [ih.2.2, List.length_cons]
            simp only
            omega
      · rw [hp] at h
        cases h

/-- A last group read without fault is symbols followed by padding, the padding starting no
earlier than its third place. -/
theorem readLast_ok (start : Nat) :
    ∀ {L : List UInt8} {place : Nat} {g g' : LastGroup}, g.firstPad = none →
      readLast start L place g = .ok g' →
      ∃ vs k, L = vs.map symbol ++ List.replicate k pad ∧ (∀ v ∈ vs, v < 64) ∧
        g'.values = g.values ++ vs ∧ g'.pads = g.pads + k ∧ (0 < k → 2 ≤ place + vs.length)
  | [], _, g, g', _, h => by
      cases h
      exact ⟨[], 0, rfl, by simp, by simp, rfl, by simp⟩
  | b :: rest, place, g, g', hp, h => by
      rw [readLast] at h
      split at h
      · -- padding starts: the rest is padding too
        rename_i hb
        split at h
        · cases h
        · rename_i hplace
          have hrest := readLast_after_pad start (p := place) (by simp [hp]) h
          simp only [beq_iff_eq] at hb
          subst hb
          refine ⟨[], rest.length + 1, ?_, by simp, by simp [hrest.2.1], ?_, fun _ => by omega⟩
          · simp only [List.map_nil, List.nil_append, List.replicate_succ]
            rw [← hrest.1]
          · rw [hrest.2.2]
            simp only
            omega
      · rw [hp] at h
        simp only at h
        split at h
        · cases h
        · rename_i v hv
          have hsym := symbol_of_value? hv
          obtain ⟨vs, k, hrest, hvs, hvalues, hpads, hk⟩ := readLast_ok start rfl h
          refine ⟨v :: vs, k, ?_, ?_, ?_, hpads, ?_⟩
          · rw [hrest, List.map_cons, hsym.1, List.cons_append]
          · intro w hw
            rcases List.mem_cons.mp hw with rfl | hw
            · exact hsym.2
            · exact hvs w hw
          · rw [hvalues]
            simp
          · intro hpos
            have := hk hpos
            simp only [List.length_cons]
            omega

section

variable {a b c d : Nat} (ha : a < 64) (hb : b < 64) (hc : c < 64) (hd : d < 64)
include ha hb

theorem encode_lastByte (hzero : b % 16 = 0) :
    encode [(a * 4 + b / 16).toUInt8] = [symbol a, symbol b, pad, pad] := by
  have hbyte : ((a * 4 + b / 16).toUInt8).toNat = a * 4 + b / 16 := toNat_toUInt8 (by omega)
  rw [encode]
  simp only [hbyte, List.cons.injEq, and_true]
  constructor <;> congr 1 <;> omega

include hc in

theorem encode_lastBytes_two (hzero : c % 4 = 0) :
    encode [(a * 4 + b / 16).toUInt8, ((b % 16) * 16 + c / 4).toUInt8] =
      [symbol a, symbol b, symbol c, pad] := by
  have hbyte₁ : ((a * 4 + b / 16).toUInt8).toNat = a * 4 + b / 16 := toNat_toUInt8 (by omega)
  have hbyte₂ : (((b % 16) * 16 + c / 4).toUInt8).toNat = (b % 16) * 16 + c / 4 :=
    toNat_toUInt8 (by omega)
  rw [encode]
  simp only [hbyte₁, hbyte₂, List.cons.injEq, and_true]
  refine ⟨?_, ?_, ?_⟩ <;> congr 1 <;> omega

include hc hd in

theorem encode_bytes_three :
    encode [((a * 262144 + b * 4096 + c * 64 + d) / 65536).toUInt8,
        ((a * 262144 + b * 4096 + c * 64 + d) / 256 % 256).toUInt8,
        ((a * 262144 + b * 4096 + c * 64 + d) % 256).toUInt8] =
      [symbol a, symbol b, symbol c, symbol d] := by
  generalize hn : a * 262144 + b * 4096 + c * 64 + d = n
  have hbyte₁ : ((n / 65536).toUInt8).toNat = n / 65536 := toNat_toUInt8 (by omega)
  have hbyte₂ : ((n / 256 % 256).toUInt8).toNat = n / 256 % 256 := toNat_toUInt8 (by omega)
  have hbyte₃ : ((n % 256).toUInt8).toNat = n % 256 := toNat_toUInt8 (by omega)
  rw [encode_group, encode]
  simp only [hbyte₁, hbyte₂, hbyte₃, List.cons.injEq, and_true]
  refine ⟨?_, ?_, ?_, ?_⟩ <;> congr 1 <;> omega

end

/-- A last group that decodes is the encoding of the bytes it decodes to. -/
theorem encode_of_decodeLast {start : Nat} {L : List UInt8} {nonEmpty : Bool} {t : List UInt8}
    (h : decodeLast start L nonEmpty = .ok t) :
    L.length % 4 = 0 ∧ (L.length ≤ 4 → encode t = L) := by
  unfold decodeLast at h
  cases hg : readLast start L 0 {} with
  | error e =>
      rw [hg] at h
      cases h
  | ok g =>
      rw [hg, ok_bind] at h
      obtain ⟨vs, k, hL, hvs, hvalues, hpads, hk⟩ := readLast_ok start rfl hg
      simp only [List.nil_append, Nat.zero_add] at hvalues hpads hk
      rw [hvalues, hpads] at h
      have hlen : L.length = vs.length + k := by simp [hL]
      dsimp only at h
      split at h
      · cases h
      split at h
      · cases h
      rename_i _ hpad
      have hmod : (k + vs.length) % 4 = 0 := by simpa using hpad
      refine ⟨by omega, fun hfour => ?_⟩
      split at h
      · rename_i bytes hbytes
        cases h
        -- the symbols left before the padding are two, three or four
        rcases vs with _ | ⟨a, _ | ⟨b, _ | ⟨c, _ | ⟨d, _ | ⟨e, rest⟩⟩⟩⟩⟩
        · cases hbytes
        · cases hbytes
        · -- two symbols and two pads
          rw [lastBytes] at hbytes
          split at hbytes
          · rename_i hzero
            cases hbytes
            have hk : k = 2 := by simp only [List.length_cons, List.length_nil] at hlen hk hmod; omega
            subst hk
            rw [hL, encode_lastByte (hvs a (by simp)) (hvs b (by simp)) (by simpa using hzero)]
            rfl
          · cases hbytes
        · -- three symbols and one pad
          rw [lastBytes] at hbytes
          split at hbytes
          · rename_i hzero
            cases hbytes
            have hk : k = 1 := by simp only [List.length_cons, List.length_nil] at hlen hk hmod; omega
            subst hk
            rw [hL, encode_lastBytes_two (hvs a (by simp)) (hvs b (by simp)) (hvs c (by simp))
              (by simpa using hzero)]
            rfl
          · cases hbytes
        · -- four symbols
          rw [lastBytes] at hbytes
          cases hbytes
          have hk : k = 0 := by simp only [List.length_cons, List.length_nil] at hlen hmod; omega
          subst hk
          rw [hL, encode_bytes_three (hvs a (by simp)) (hvs b (by simp)) (hvs c (by simp))
            (hvs d (by simp))]
          rfl
        · cases hbytes
      · split at h
        · rename_i hnil
          cases h
          have hvs : vs = [] := by simpa using hnil
          subst hvs
          have hk0 : k = 0 := by simp at hk hlen; omega
          subst hk0
          rw [hL]
          rfl
        · cases h

/-- Whole groups that decode are the encoding of the bytes they decode to. -/
theorem encode_of_decodeGroups :
    ∀ {xs : List UInt8} {offset : Nat} {out : List UInt8}, xs.length % 4 = 0 →
      decodeGroups xs offset = .ok out → encode out = xs ∧ out.length % 3 = 0
  | [], _, _, _, h => by
      cases h
      exact ⟨rfl, rfl⟩
  | [_], _, _, hlen, _ => by simp at hlen
  | [_, _], _, _, hlen, _ => by simp at hlen
  | [_, _, _], _, _, hlen, _ => by simp at hlen
  | a :: b :: c :: d :: rest, offset, out, hlen, h => by
      rw [decodeGroups] at h
      obtain ⟨va, ha, h⟩ := bind_eq_ok.mp h
      obtain ⟨vb, hb, h⟩ := bind_eq_ok.mp h
      obtain ⟨vc, hc, h⟩ := bind_eq_ok.mp h
      obtain ⟨vd, hd, h⟩ := bind_eq_ok.mp h
      obtain ⟨tail, htail, h⟩ := bind_eq_ok.mp h
      cases h
      obtain ⟨hsa, hva⟩ := symbol_of_value? (valueAt_eq_ok.mp ha)
      obtain ⟨hsb, hvb⟩ := symbol_of_value? (valueAt_eq_ok.mp hb)
      obtain ⟨hsc, hvc⟩ := symbol_of_value? (valueAt_eq_ok.mp hc)
      obtain ⟨hsd, hvd⟩ := symbol_of_value? (valueAt_eq_ok.mp hd)
      have ih := encode_of_decodeGroups (by simp at hlen; omega) htail
      refine ⟨?_, by simp only [List.length_append, List.length_cons, List.length_nil]; omega⟩
      rw [encode_append _ (by simp), encode_bytes_three hva hvb hvc hvd, hsa, hsb, hsc, hsd, ih.1]
      rfl

/-! ## Decoding -/

theorem decode_eq_ok {input out : List UInt8} (h : decode input = .ok out) :
    ∃ body tail,
      decodeGroups (input.take (if input.length % 4 = 0 then input.length - 4
        else input.length - input.length % 4)) 0 = .ok body ∧
      decodeLast (if input.length % 4 = 0 then input.length - 4
        else input.length - input.length % 4)
        (input.drop (if input.length % 4 = 0 then input.length - 4
          else input.length - input.length % 4)) (input.length != 0) = .ok tail ∧
      out = body ++ tail := by
  unfold decode at h
  dsimp only at h
  -- a lone last byte is checked first; past the check, every branch reads the same groups
  split at h
  split at h
  split at h
  · cases h
  all_goals
    obtain ⟨body, hbody, h⟩ := bind_eq_ok.mp h
    obtain ⟨tail, htail, h⟩ := bind_eq_ok.mp h
    cases h
    exact ⟨body, tail, by simpa using hbody, by simpa using htail, rfl⟩

theorem encode_of_decode {input out : List UInt8} (h : decode input = .ok out) :
    encode out = input := by
  obtain ⟨body, tail, hbody, htail, rfl⟩ := decode_eq_ok h
  generalize hW : (if input.length % 4 = 0 then input.length - 4
    else input.length - input.length % 4) = W at hbody htail
  obtain ⟨hmod, hlast⟩ := encode_of_decodeLast htail
  rw [List.length_drop] at hmod hlast
  -- only whole groups of four decode, so the last group is the last four symbols or nothing
  have hrem : input.length % 4 = 0 := by
    split at hW <;> omega
  have hgroups := encode_of_decodeGroups (by simp; split at hW <;> omega) hbody
  rw [encode_append body hgroups.2, hgroups.1, hlast (by split at hW <;> omega), List.take_append_drop]

theorem decode_encode (bs : List UInt8) : decode (encode bs) = .ok bs := by
  by_cases hnil : bs = []
  · subst hnil
    rfl
  -- every group but the last is whole; the last has one to three bytes
  have hpos : 0 < bs.length := List.length_pos_iff.mpr hnil
  obtain ⟨k, hk⟩ : ∃ k, k = (bs.length - 1) / 3 := ⟨_, rfl⟩
  have hxs : (bs.take (3 * k)).length = 3 * k := by simp; omega
  have hys : 0 < (bs.drop (3 * k)).length ∧ (bs.drop (3 * k)).length ≤ 3 := by simp; omega
  have henc : encode bs = encode (bs.take (3 * k)) ++ encode (bs.drop (3 * k)) := by
    conv_lhs => rw [← List.take_append_drop (3 * k) bs]
    exact encode_append _ (by omega) _
  have hlen₁ : (encode (bs.take (3 * k))).length = 4 * k := by
    rw [length_encode, hxs]
    omega
  have hlen₂ : (encode (bs.drop (3 * k))).length = 4 := by
    rw [length_encode]
    omega
  unfold decode
  rw [henc]
  simp only [List.length_append, hlen₁, hlen₂]
  have hmod : (4 * k + 4) % 4 = 0 := by omega
  rw [if_neg (by simp [hmod]), if_pos (by simp [hmod]), show 4 * k + 4 - 4 = 4 * k by omega,
    List.take_left' hlen₁, List.drop_left' hlen₁, decodeGroups_encode _ (by omega),
    show (4 * k + 4 != 0) = true by simp, decodeLast_encode _ _ hys.1 hys.2, ok_bind, ok_bind,
    List.take_append_drop]
  rfl

/-- Every text that the encoder writes decodes, and what decodes is written by the encoder:
decoding accepts exactly the padded, canonical encodings. -/
theorem decode_eq_ok_iff {input bs : List UInt8} : decode input = .ok bs ↔ encode bs = input := by
  constructor
  · exact encode_of_decode
  · rintro rfl
    exact decode_encode bs

theorem toNat_lt_of_mem_encode {bs : List UInt8} {b : UInt8} (h : b ∈ encode bs) :
    b.toNat < 128 := by
  induction bs using encode.induct with
  | case1 => cases h
  | case2 a =>
      simp only [encode, List.mem_cons, List.not_mem_nil, or_false] at h
      rcases h with rfl | rfl | rfl | rfl <;> simp [toNat_symbol_lt, toNat_pad]
  | case3 a c =>
      simp only [encode, List.mem_cons, List.not_mem_nil, or_false] at h
      rcases h with rfl | rfl | rfl | rfl <;> simp [toNat_symbol_lt, toNat_pad]
  | case4 a c d rest ih =>
      rw [encode_group] at h
      simp only [List.mem_cons] at h
      rcases h with rfl | rfl | rfl | rfl | h
      any_goals exact toNat_symbol_lt _
      exact ih h

end Base64
end Obfuscator
