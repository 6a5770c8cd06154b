import Obfuscator.Lexer
import Obfuscator.Proofs.Tiling
/-!
# Texts as chunks

Renaming replaces whole words, and a whole word of a text is a maximal run of word characters.
So the natural view of a text, for everything renaming touches, is its list of chunks: the
maximal runs of word characters, and every other character on its own. Quotes, line breaks and
braces are never word characters, so the lexer's structure (literals, their holes, the letters
before a quote) lives in the chunks that are single characters, and a chunk that is a word is
passed over as a whole.

Positions become chunk indices: chunk `i` starts at byte `pos cs i`, the bytes of the chunks
before it. Replacing words by other words keeps the indices, and `Kind` forgets of a word all but
one bit, so that whatever the lexer computes from the kinds is the same before and after.
-/

namespace Obfuscator
namespace Text

/-- A chunk of a text: a run of word characters, or a single other character. -/
inductive Chunk where
  | word (w : List Char)
  | other (c : Char)
  deriving DecidableEq, Repr

namespace Chunk

def chars : Chunk → List Char
  | word w => w
  | other c => [c]

def isWord : Chunk → Bool
  | word _ => true
  | other _ => false

end Chunk

def unchunk (cs : List Chunk) : List Char := cs.flatMap Chunk.chars

@[simp] theorem unchunk_nil : unchunk [] = [] := rfl

@[simp] theorem unchunk_cons (k : Chunk) (cs : List Chunk) :
    unchunk (k :: cs) = k.chars ++ unchunk cs := rfl

@[simp] theorem unchunk_append (as bs : List Chunk) :
    unchunk (as ++ bs) = unchunk as ++ unchunk bs := by
  simp [unchunk]

def IsWord (w : List Char) : Prop := w ≠ [] ∧ ∀ c ∈ w, isWordChar c = true

def startsWithWord : List Chunk → Bool
  | .word _ :: _ => true
  | _ => false

/-- The chunks of a text are chunked: words are words, other chunks are characters that are
not word characters, and no two words stand side by side. -/
inductive Chunked : List Chunk → Prop
  | nil : Chunked []
  | other {c : Char} {rest : List Chunk} :
      isWordChar c = false → Chunked rest → Chunked (.other c :: rest)
  | word {w : List Char} {rest : List Chunk} :
      IsWord w → startsWithWord rest = false → Chunked rest → Chunked (.word w :: rest)

/-- The chunks of a text, from the left. -/
def chunks : List Char → List Chunk
  | [] => []
  | c :: cs =>
    if isWordChar c then
      .word (c :: cs.takeWhile isWordChar) :: chunks (cs.dropWhile isWordChar)
    else
      .other c :: chunks cs
termination_by cs => cs.length
decreasing_by
  · have := congrArg List.length (List.takeWhile_append_dropWhile (p := isWordChar) (l := cs))
    simp only [List.length_append, List.length_cons] at this ⊢
    omega
  · simp

theorem unchunk_chunks (text : List Char) : unchunk (chunks text) = text := by
  fun_induction chunks text with
  | case1 =>
      rfl
  | case2 c cs hc ih =>
      simp [Chunk.chars, ih]
  | case3 c cs hc ih =>
      simp [Chunk.chars, ih]

theorem startsWithWord_chunks_dropWhile (cs : List Char) :
    startsWithWord (chunks (cs.dropWhile isWordChar)) = false := by
  cases h : cs.dropWhile isWordChar with
  | nil =>
      simp [chunks, startsWithWord]
  | cons d ds =>
      have hd : isWordChar d = false := by
        have := List.head?_dropWhile_not isWordChar cs
        simpa [h] using this
      simp [chunks, hd, startsWithWord]

theorem chunks_chunked (text : List Char) : Chunked (chunks text) := by
  fun_induction chunks text with
  | case1 =>
      exact Chunked.nil
  | case2 c cs hc ih =>
      refine Chunked.word ⟨by simp, ?_⟩ (startsWithWord_chunks_dropWhile cs) ih
      intro d hd
      rcases List.mem_cons.mp hd with rfl | hd
      · exact hc
      · exact List.all_eq_true.mp List.all_takeWhile d hd
  | case3 c cs hc ih =>
      exact Chunked.other (by simpa using hc) ih

/-! ## Positions -/

/-- The byte offset where chunk `i` starts. -/
def pos (cs : List Chunk) (i : Nat) : Nat := byteSize (unchunk (cs.take i))

def chunkSpan (cs : List Chunk) (i : Nat) : Span := ⟨pos cs i, pos cs (i + 1)⟩

theorem pos_append_length (pre rest : List Chunk) (j : Nat) :
    pos (pre ++ rest) (pre.length + j) = byteSize (unchunk pre) + pos rest j := by
  simp [pos, List.take_append, List.take_of_length_le]

theorem pos_length_append (pre rest : List Chunk) :
    pos (pre ++ rest) pre.length = byteSize (unchunk pre) := by
  have h := pos_append_length pre rest 0
  rw [Nat.add_zero] at h
  rw [h]
  simp [pos]

theorem chunkSpan_append_length (pre : List Chunk) (k : Chunk) (rest : List Chunk) :
    chunkSpan (pre ++ k :: rest) pre.length =
      ⟨byteSize (unchunk pre), byteSize (unchunk pre) + byteSize k.chars⟩ := by
  have hstop := pos_append_length pre (k :: rest) 1
  simp only [chunkSpan, pos_length_append, hstop, Span.mk.injEq, true_and]
  simp [pos]

theorem pos_add (cs : List Chunk) (i n : Nat) :
    pos cs (i + n) = pos cs i + byteSize (unchunk ((cs.drop i).take n)) := by
  simp [pos, List.take_add]

theorem pos_mono (cs : List Chunk) {i j : Nat} (h : i ≤ j) : pos cs i ≤ pos cs j := by
  obtain ⟨n, rfl⟩ := Nat.exists_eq_add_of_le h
  rw [pos_add]
  exact Nat.le_add_right _ _

theorem byteSize_pos {cs : List Char} (h : cs ≠ []) : 0 < byteSize cs := by
  obtain ⟨c, cs, rfl⟩ := List.exists_cons_of_ne_nil h
  have := Char.utf8Size_pos c
  simp only [byteSize_cons]
  omega

theorem Chunked.chars_ne_nil {cs : List Chunk} (h : Chunked cs) :
    ∀ k ∈ cs, k.chars ≠ [] := by
  induction h with
  | nil =>
      intro k hk
      cases hk
  | other _ _ ih =>
      intro k hk
      rcases List.mem_cons.mp hk with rfl | hk
      · simp [Chunk.chars]
      · exact ih k hk
  | word hw _ _ ih =>
      intro k hk
      rcases List.mem_cons.mp hk with rfl | hk
      · exact hw.1
      · exact ih k hk

theorem pos_lt_pos {cs : List Chunk} (hne : ∀ k ∈ cs, k.chars ≠ []) {i j : Nat}
    (hij : i < j) (hj : j ≤ cs.length) : pos cs i < pos cs j := by
  obtain ⟨n, rfl⟩ : ∃ n, j = i + (n + 1) := ⟨j - i - 1, by omega⟩
  rw [pos_add]
  have hlen : i < cs.length := by omega
  have hsome : (cs.drop i).take (n + 1) ≠ [] := by simp; omega
  obtain ⟨k, ks, hks⟩ := List.exists_cons_of_ne_nil hsome
  have hk : k ∈ cs := List.mem_of_mem_drop (List.mem_of_mem_take (hks ▸ List.mem_cons_self))
  have hchars := hne k hk
  have hpos : 0 < byteSize (unchunk ((cs.drop i).take (n + 1))) := by
    rw [hks, unchunk_cons, byteSize_append]
    have := byteSize_pos hchars
    omega
  omega

theorem pos_lt_pos_iff {cs : List Chunk} (hne : ∀ k ∈ cs, k.chars ≠ []) {i j : Nat}
    (hj : j ≤ cs.length) : pos cs i < pos cs j ↔ i < j := by
  constructor
  · intro h
    exact Nat.lt_of_not_le fun hji => Nat.not_le_of_lt h (pos_mono cs hji)
  · intro h
    exact pos_lt_pos hne h hj

theorem pos_le_pos_iff {cs : List Chunk} (hne : ∀ k ∈ cs, k.chars ≠ []) {i j : Nat}
    (hi : i ≤ cs.length) : pos cs i ≤ pos cs j ↔ i ≤ j := by
  rw [← Nat.not_lt, pos_lt_pos_iff hne hi, Nat.not_lt]

end Text
end Obfuscator
