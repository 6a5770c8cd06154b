import Obfuscator.Proofs.Chunks
/-!
# Whole words are word chunks

A whole occurrence of a word `v` needs a word boundary at both ends. When `v` is itself a word
(nonempty, all word characters) that means a non-word character or the end of the text on each
side, so the occurrence is a maximal run of word characters: a chunk. Conversely every chunk
equal to `v` is an occurrence, and the scan finds them all, from the left.

`wordSpans_unchunk` states this for a chunked text: the spans of the whole occurrences of `v`
are the spans of the chunks equal to `v`.
-/

namespace Obfuscator
namespace Text

/-! ## Word characters -/

theorem isWordChar_of_isAlphanum {c : Char} (h : c.isAlphanum = true) : isWordChar c = true := by
  have hascii : c.toNat < 0x80 := by
    have h' := h
    simp only [Char.isAlphanum, Char.isAlpha, Char.isUpper, Char.isLower, Char.isDigit,
      Bool.or_eq_true, Bool.and_eq_true, decide_eq_true_eq] at h'
    have below : ∀ d : Char, c ≤ d → d.toNat < 0x80 → c.toNat < 0x80 := by
      intro d hcd hd
      have hle := Char.le_def.mp hcd
      rw [UInt32.le_iff_toNat_le] at hle
      exact Nat.lt_of_le_of_lt hle hd
    rcases h' with (⟨_, hz⟩ | ⟨_, hz⟩) | ⟨_, hz⟩
    · exact below _ hz (by decide)
    · exact below _ hz (by decide)
    · exact below _ hz (by decide)
  simp [isWordChar, hascii, h]

theorem isAlpha_of_isWordChar_false {c : Char} (h : isWordChar c = false) :
    c.isAlpha = false := by
  cases hc : c.isAlpha with
  | false => rfl
  | true =>
      have : isWordChar c = true := isWordChar_of_isAlphanum (by simp [Char.isAlphanum, hc])
      rw [h] at this
      cases this

def headIsWord (text : List Char) : Bool := (text.head?.map isWordChar).getD false

theorem headIsWord_unchunk {cs : List Chunk} (hcs : Chunked cs)
    (hstart : startsWithWord cs = false) : headIsWord (unchunk cs) = false := by
  cases hcs with
  | nil =>
      rfl
  | other hc _ =>
      simp [headIsWord, Chunk.chars, hc]
  | word _ _ _ =>
      simp [startsWithWord] at hstart

/-! ## The word rule on chunks -/

section

variable {v : List Char}

open Lexer

theorem wordRule_after_word (hv : IsWord v) {p : Char} (hp : isWordChar p = true)
    (text : List Char) : wordRule v (some p) text = none := by
  obtain ⟨d, ds, rfl⟩ := List.exists_cons_of_ne_nil hv.1
  have hd : isWordChar d = true := hv.2 d List.mem_cons_self
  simp [wordRule, boundary, hp, hd]

theorem wordRule_at_other (hv : IsWord v) {c : Char} (hc : isWordChar c = false)
    (prev : Option Char) (rest : List Char) : wordRule v prev (c :: rest) = none := by
  obtain ⟨d, ds, rfl⟩ := List.exists_cons_of_ne_nil hv.1
  have hd : isWordChar d = true := hv.2 d List.mem_cons_self
  have hne : d ≠ c := by
    intro h
    rw [h] at hd
    rw [hd] at hc
    cases hc
  simp [wordRule, List.isPrefixOf, hne]

theorem wordRule_at_word (hv : IsWord v) {w : List Char} (hw : IsWord w) {prev : Option Char}
    (hprev : (prev.map isWordChar).getD false = false) {rest : List Char}
    (hrest : headIsWord rest = false) :
    wordRule v prev (w ++ rest) = if w = v then some v.length else none := by
  obtain ⟨d, ds, hvd⟩ := List.exists_cons_of_ne_nil hv.1
  have hd : isWordChar d = true := hv.2 d (by simp [hvd])
  have hstart : boundary prev v.head? = true := by simp [boundary, hvd, hprev, hd]
  obtain ⟨x, hlastv⟩ : ∃ x, v.getLast? = some x :=
    Option.isSome_iff_exists.mp (by simp [hvd])
  have hx : isWordChar x = true := hv.2 x (List.mem_of_getLast? hlastv)
  by_cases hwv : w = v
  · subst hwv
    have hpre : w.isPrefixOf (w ++ rest) = true :=
      List.isPrefixOf_iff_prefix.mpr (List.prefix_append w rest)
    have hend : boundary w.getLast? rest.head? = true := by
      rw [hlastv]
      cases rest with
      | nil => simp [boundary, hx]
      | cons r rs =>
          have hr : isWordChar r = false := by simpa [headIsWord] using hrest
          simp [boundary, hx, hr]
    simp [wordRule, hpre, hstart, hend]
  · rw [if_neg hwv]
    simp only [wordRule]
    rw [if_neg]
    intro hcond
    simp only [Bool.and_eq_true] at hcond
    obtain ⟨⟨hpre, -⟩, hend⟩ := hcond
    have hpfx := List.prefix_iff_eq_take.mp (List.isPrefixOf_iff_prefix.mp hpre)
    rcases Nat.lt_or_ge w.length v.length with hlt | hge
    · -- `w` is a proper prefix of `v`, so `v` goes on into `rest`, whose first character is no
      -- word character
      rw [List.take_append, List.take_of_length_le (by omega)] at hpfx
      cases rest with
      | nil =>
          have := congrArg List.length hpfx
          simp at this
          omega
      | cons r rs =>
          have hr : isWordChar r = false := by simpa [headIsWord] using hrest
          obtain ⟨k, hk⟩ : ∃ k, v.length - w.length = k + 1 := ⟨v.length - w.length - 1, by omega⟩
          have hmem : r ∈ v := by
            rw [hpfx, hk]
            simp
          rw [hv.2 r hmem] at hr
          cases hr
    · -- `v` is a prefix of `w`, and a proper one, so a word character follows it
      rw [List.take_append_of_le_length hge] at hpfx
      have hw' : w = v ++ w.drop v.length := by
        conv => lhs; rw [← List.take_append_drop v.length w]
        rw [← hpfx]
      obtain ⟨t, ts, hts⟩ : ∃ t ts, w.drop v.length = t :: ts := by
        cases h : w.drop v.length with
        | nil =>
            rw [h, List.append_nil] at hw'
            exact absurd hw' hwv
        | cons t ts => exact ⟨t, ts, rfl⟩
      have ht : isWordChar t = true := hw.2 t (by rw [hw', hts]; simp)
      rw [List.drop_append_of_le_length hge, hts, hlastv] at hend
      simp [boundary, hx, ht] at hend

/-! ## Scanning chunks for a word -/

def wordIndices (v : List Char) : Nat → List Chunk → List Nat
  | _, [] => []
  | i, .word w :: cs => if w = v then i :: wordIndices v (i + 1) cs else wordIndices v (i + 1) cs
  | i, .other _ :: cs => wordIndices v (i + 1) cs

theorem wordIndices_bounds (v : List Char) :
    ∀ (i : Nat) (cs : List Chunk), ∀ j ∈ wordIndices v i cs, i ≤ j ∧ j < i + cs.length
  | _, [] => by simp [wordIndices]
  | i, .word w :: cs => by
      have ih := wordIndices_bounds v (i + 1) cs
      intro j hj
      simp only [wordIndices] at hj
      split at hj
      · rcases List.mem_cons.mp hj with rfl | hj
        · simp
        · have := ih j hj
          simp only [List.length_cons]
          omega
      · have := ih j hj
        simp only [List.length_cons]
        omega
  | i, .other _ :: cs => by
      have ih := wordIndices_bounds v (i + 1) cs
      intro j hj
      have := ih j hj
      simp only [List.length_cons]
      omega

theorem mem_wordIndices (v : List Char) (j : Nat) :
    ∀ (i : Nat) (cs : List Chunk), j ∈ wordIndices v i cs ↔ i ≤ j ∧ cs[j - i]? = some (.word v)
  | i, [] => by simp [wordIndices]
  | i, k :: cs => by
      have ih := mem_wordIndices v j (i + 1) cs
      -- an index past this chunk names one of the rest
      have hrest : (i + 1 ≤ j ∧ cs[j - (i + 1)]? = some (.word v)) ↔
          (i < j ∧ (k :: cs)[j - i]? = some (.word v)) := by
        constructor
        · rintro ⟨hij, hj⟩
          refine ⟨hij, ?_⟩
          rwa [show j - i = (j - (i + 1)) + 1 by omega, List.getElem?_cons_succ]
        · rintro ⟨hij, hj⟩
          refine ⟨hij, ?_⟩
          rwa [show j - i = (j - (i + 1)) + 1 by omega, List.getElem?_cons_succ] at hj
      -- the index of this chunk itself
      have hhere : (i ≤ j ∧ (k :: cs)[j - i]? = some (.word v)) ↔
          ((j = i ∧ k = .word v) ∨ (i < j ∧ (k :: cs)[j - i]? = some (.word v))) := by
        constructor
        · rintro ⟨hij, hj⟩
          rcases Nat.eq_or_lt_of_le hij with rfl | hlt
          · exact Or.inl ⟨rfl, by simpa using hj⟩
          · exact Or.inr ⟨hlt, hj⟩
        · rintro (⟨rfl, rfl⟩ | ⟨hlt, hj⟩)
          · simp
          · exact ⟨Nat.le_of_lt hlt, hj⟩
      rw [hhere, ← hrest, ← ih]
      cases k with
      | other c =>
          simp [wordIndices]
      | word w =>
          simp only [wordIndices]
          split
          · rename_i hw
            simp [hw]
          · rename_i hw
            simp [hw]

theorem spansFrom_skip_word (hv : IsWord v) (rest : List Char) :
    ∀ {gap : List Char} {p : Char} {offset : Nat}, isWordChar p = true →
      (∀ c ∈ gap, isWordChar c = true) →
      spansFrom (wordRule v) (some p) offset (gap ++ rest) =
        spansFrom (wordRule v) (some (gap.getLast?.getD p)) (offset + byteSize gap) rest
  | [], _, _, _, _ => by simp
  | c :: cs, p, offset, hp, hgap => by
      have hc : isWordChar c = true := hgap c List.mem_cons_self
      rw [List.cons_append, spansFrom.eq_2, wordRule_after_word hv hp]
      simp only
      rw [spansFrom_skip_word hv rest hc fun d hd => hgap d (List.mem_cons_of_mem c hd)]
      cases cs with
      | nil => simp
      | cons d ds => simp [List.getLast?_cons, Nat.add_assoc]

theorem spansFrom_wordRule_unchunk (hv : IsWord v) :
    ∀ {cs : List Chunk}, Chunked cs → ∀ (pre : List Chunk) (prev : Option Char),
      (startsWithWord cs = true → (prev.map isWordChar).getD false = false) →
      spansFrom (wordRule v) prev (byteSize (unchunk pre)) (unchunk cs) =
        (wordIndices v pre.length cs).map (chunkSpan (pre ++ cs)) := by
  intro cs hcs
  induction hcs with
  | nil =>
      intro pre prev _
      simp [spansFrom.eq_1, wordIndices]
  | @other c rest hc _ ih =>
      intro pre prev _
      have hnext := ih (pre ++ [.other c]) (some c) (fun _ => by simp [hc])
      simp only [unchunk_cons, Chunk.chars, List.cons_append, List.nil_append]
      rw [spansFrom.eq_2, wordRule_at_other hv hc]
      simp only [unchunk_append, byteSize_append, unchunk_cons, unchunk_nil, Chunk.chars,
        List.append_nil, byteSize_cons, byteSize_nil, Nat.add_zero, List.length_append,
        List.length_singleton, List.append_assoc, List.singleton_append] at hnext
      simp [wordIndices, hnext]
  | @word w rest hw hstart hrest ih =>
      intro pre prev hprev
      have hprev' := hprev (by simp [startsWithWord])
      have hhead := headIsWord_unchunk hrest hstart
      have hnext : ∀ p, spansFrom (wordRule v) p (byteSize (unchunk pre) + byteSize w)
          (unchunk rest) = (wordIndices v (pre.length + 1) rest).map
            (chunkSpan (pre ++ .word w :: rest)) := by
        intro p
        have := ih (pre ++ [.word w]) p (fun h => by rw [hstart] at h; cases h)
        simpa [Chunk.chars, List.append_assoc] using this
      obtain ⟨d, ds, rfl⟩ := List.exists_cons_of_ne_nil hw.1
      simp only [unchunk_cons, Chunk.chars]
      by_cases hwv : d :: ds = v
      · subst hwv
        have hrule := wordRule_at_word hv hw hprev' hhead
        rw [if_pos rfl] at hrule
        rw [List.cons_append, spansFrom.eq_2, ← List.cons_append, hrule]
        simp only [List.length_cons]
        rw [List.take_left' (by simp), List.drop_left' (by simp), hnext]
        simp [wordIndices, chunkSpan_append_length, Chunk.chars]
      · have hrule := wordRule_at_word hv hw hprev' hhead
        rw [if_neg hwv] at hrule
        have hd : isWordChar d = true := hw.2 d List.mem_cons_self
        rw [List.cons_append, spansFrom.eq_2, ← List.cons_append, hrule]
        simp only
        rw [spansFrom_skip_word hv _ hd fun c hc => hw.2 c (List.mem_cons_of_mem d hc)]
        have hsize : byteSize (unchunk pre) + d.utf8Size + byteSize ds =
            byteSize (unchunk pre) + byteSize (d :: ds) := by simp; omega
        rw [hsize, hnext]
        simp [wordIndices, hwv]

/-- The whole occurrences of a word in a chunked text are the spans of the chunks equal to it. -/
theorem wordSpans_unchunk (hv : IsWord v) {cs : List Chunk} (hcs : Chunked cs) :
    wordSpans (unchunk cs) v = (wordIndices v 0 cs).map (chunkSpan cs) := by
  have := spansFrom_wordRule_unchunk hv hcs [] none (fun _ => rfl)
  simpa [wordSpans, spans] using this

end

end Text
end Obfuscator
