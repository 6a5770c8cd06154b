import Obfuscator.Proofs.CodePositions
/-!
# Replacing chunks

Renaming writes a generated name over some of the word chunks of a text. On chunks this is
`replaceChunks r`: chunk `j` becomes the word `t` where `r j k = some t`, and stays as it is where
`r j k = none`. The edits that do the same on the text are `replaceEdits r`, one for each replaced
chunk, over the chunk's byte span.

The main facts: splicing the text with these edits gives the replaced text
(`splice_replaceEdits`); the edits come in order and never overlap; replacing words by words keeps
a text chunked, keeps its kinds when no interpolation mark changes, and keeps the places of every
word that is neither replaced nor written.
-/

namespace Obfuscator
namespace Text

def replaceChunk (r : Nat → Chunk → Option (List Char)) (j : Nat) (k : Chunk) : Chunk :=
  match r j k with
  | some t => .word t
  | none => k

/-- The chunks from index `i` on, each replaced as `r` says. -/
def replaceChunks (r : Nat → Chunk → Option (List Char)) : Nat → List Chunk → List Chunk
  | _, [] => []
  | i, k :: ks => replaceChunk r i k :: replaceChunks r (i + 1) ks

/-- The edits of the text of `cs` that replace its chunks from index `i` on, where `ks` are those
chunks. -/
def replaceEdits (r : Nat → Chunk → Option (List Char)) (cs : List Chunk) :
    Nat → List Chunk → List Edit
  | _, [] => []
  | i, k :: ks =>
    match r i k with
    | some t => ⟨chunkSpan cs i, t⟩ :: replaceEdits r cs (i + 1) ks
    | none => replaceEdits r cs (i + 1) ks

variable {r : Nat → Chunk → Option (List Char)}

@[simp] theorem length_replaceChunks (i : Nat) (ks : List Chunk) :
    (replaceChunks r i ks).length = ks.length := by
  induction ks generalizing i with
  | nil => rfl
  | cons k ks ih => simp [replaceChunks, ih]

/-! ## Splicing the replacement -/

theorem spliceFrom_replaceEdits (r : Nat → Chunk → Option (List Char)) :
    ∀ (pre ks : List Chunk) (P gap : List Char), unchunk pre = P ++ gap →
      spliceFrom (unchunk (pre ++ ks)) (byteSize P) (replaceEdits r (pre ++ ks) pre.length ks) =
        some (gap ++ unchunk (replaceChunks r pre.length ks))
  | pre, [], P, gap, hpre => by
      simp only [List.append_nil, replaceEdits, replaceChunks, unchunk_nil, hpre]
      rw [spliceFrom]
      exact dropBytes?_append P gap
  | pre, k :: ks, P, gap, hpre => by
      have hcut : pre ++ k :: ks = pre ++ [k] ++ ks := by simp
      simp only [replaceEdits, replaceChunks, replaceChunk]
      cases hk : r pre.length k with
      | none =>
          -- the chunk is kept: it joins the gap before the next edit
          have ih := spliceFrom_replaceEdits r (pre ++ [k]) ks P (gap ++ k.chars)
            (by simp [hpre])
          rw [hcut]
          simpa using ih
      | some t =>
          -- the chunk is replaced: the gap before it is kept, then its text, then the rest
          have ih := spliceFrom_replaceEdits r (pre ++ [k]) ks (P ++ gap ++ k.chars) []
            (by simp [hpre])
          rw [← hcut] at ih
          have hgap : slice? (unchunk (pre ++ k :: ks)) (byteSize P)
              (chunkSpan (pre ++ k :: ks) pre.length).start = some gap := by
            rw [chunkSpan_append_length, unchunk_append, hpre, byteSize_append]
            exact slice?_append P gap _
          have hstop : (chunkSpan (pre ++ k :: ks) pre.length).stop =
              byteSize (P ++ gap ++ k.chars) := by
            rw [chunkSpan_append_length, hpre]
            simp [Nat.add_assoc]
          simp only [List.length_append, List.length_singleton] at ih
          rw [spliceFrom.eq_2, hgap, hstop, ih]
          simp [Chunk.chars]

/-- Splicing the text of `cs` with the edits of a replacement gives the replaced text. -/
theorem splice_replaceEdits (r : Nat → Chunk → Option (List Char)) (cs : List Chunk) :
    splice (unchunk cs) (replaceEdits r cs 0 cs) = some (unchunk (replaceChunks r 0 cs)) := by
  simpa [splice] using spliceFrom_replaceEdits r [] cs [] [] rfl

/-! ## The edits -/

theorem mem_replaceEdits (cs : List Chunk) (e : Edit) :
    ∀ (i : Nat) (ks : List Chunk), e ∈ replaceEdits r cs i ks ↔
      ∃ j, ∃ h : j < ks.length, r (i + j) ks[j] = some e.text ∧ e.span = chunkSpan cs (i + j)
  | _, [] => by simp [replaceEdits]
  | i, k :: ks => by
      have ih := mem_replaceEdits cs e (i + 1) ks
      simp only [replaceEdits]
      constructor
      · intro he
        split at he
        · rename_i t hk
          rcases List.mem_cons.mp he with rfl | he
          · exact ⟨0, by simp, by simpa using hk, by simp⟩
          · obtain ⟨j, hj, hr, hs⟩ := ih.mp he
            exact ⟨j + 1, by simpa using hj, by simpa [Nat.add_assoc, Nat.add_comm 1] using hr,
              by simpa [Nat.add_assoc, Nat.add_comm 1] using hs⟩
        · obtain ⟨j, hj, hr, hs⟩ := ih.mp he
          exact ⟨j + 1, by simpa using hj, by simpa [Nat.add_assoc, Nat.add_comm 1] using hr,
            by simpa [Nat.add_assoc, Nat.add_comm 1] using hs⟩
      · rintro ⟨j, hj, hr, hs⟩
        have hnext : ∀ j', j = j' + 1 → e ∈ replaceEdits r cs (i + 1) ks := by
          rintro j' rfl
          exact ih.mpr ⟨j', by simpa using hj, by simpa [Nat.add_assoc, Nat.add_comm 1] using hr,
            by simpa [Nat.add_assoc, Nat.add_comm 1] using hs⟩
        split
        · rename_i t hk
          cases j with
          | zero =>
              simp only [Nat.add_zero, List.getElem_cons_zero, hk, Option.some.injEq] at hr hs
              exact List.mem_cons.mpr (Or.inl (by cases e; simp_all))
          | succ j' => exact List.mem_cons_of_mem _ (hnext j' rfl)
        · rename_i hk
          cases j with
          | zero =>
              simp only [Nat.add_zero, List.getElem_cons_zero, hk] at hr
              cases hr
          | succ j' => exact hnext j' rfl

theorem replaceEdits_pairwise (cs : List Chunk) (i : Nat) (ks : List Chunk) :
    (replaceEdits r cs i ks).Pairwise fun a b => a.span.stop ≤ b.span.start := by
  induction ks generalizing i with
  | nil => simp [replaceEdits]
  | cons k ks ih =>
      simp only [replaceEdits]
      split
      · refine List.pairwise_cons.mpr ⟨?_, ih (i + 1)⟩
        intro e he
        obtain ⟨j, _, _, hs⟩ := (mem_replaceEdits cs e (i + 1) ks).mp he
        rw [hs]
        exact pos_mono cs (by omega)
      · exact ih (i + 1)

theorem replaceEdits_word (cs : List Chunk) (v t : List Char) (P : Nat → Bool) :
    ∀ (i : Nat) (ks : List Chunk),
      replaceEdits (fun j k => if k = .word v ∧ P j = true then some t else none) cs i ks =
        ((wordIndices v i ks).filter P).map fun j => ⟨chunkSpan cs j, t⟩
  | _, [] => rfl
  | i, .other c :: ks => by
      simp [replaceEdits, wordIndices, replaceEdits_word cs v t P (i + 1) ks]
  | i, .word w :: ks => by
      have ih := replaceEdits_word cs v t P (i + 1) ks
      by_cases hw : w = v
      · subst hw
        by_cases hp : P i = true
        · simp [replaceEdits, wordIndices, hp, ih]
        · simp [replaceEdits, wordIndices, hp, ih]
      · simp [replaceEdits, wordIndices, hw, ih]

/-! ## What a replacement of words by words keeps -/

def WordsForWords (r : Nat → Chunk → Option (List Char)) : Prop :=
  ∀ j k t, r j k = some t → k.isWord = true ∧ IsWord t

theorem startsWithWord_replaceChunks (hr : WordsForWords r) (i : Nat) (ks : List Chunk) :
    startsWithWord (replaceChunks r i ks) = startsWithWord ks := by
  cases ks with
  | nil => rfl
  | cons k ks =>
      simp only [replaceChunks, replaceChunk]
      split
      · rename_i t hk
        have hword := (hr i k t hk).1
        cases k with
        | word w => rfl
        | other c => cases hword
      · cases k <;> rfl

theorem Chunked.replaceChunks (hr : WordsForWords r) {cs : List Chunk} (h : Chunked cs) :
    ∀ i, Chunked (Text.replaceChunks r i cs) := by
  induction h with
  | nil => intro i; exact Chunked.nil
  | @other c rest hc _ ih =>
      intro i
      have hkeep : r i (.other c) = none := by
        cases hk : r i (.other c) with
        | none => rfl
        | some t => cases (hr i _ t hk).1
      simp only [Text.replaceChunks, replaceChunk, hkeep]
      exact Chunked.other hc (ih (i + 1))
  | @word w rest hw hstart _ ih =>
      intro i
      simp only [Text.replaceChunks, replaceChunk]
      have hstart' := (startsWithWord_replaceChunks hr (i + 1) rest).trans hstart
      split
      · rename_i t hk
        exact Chunked.word (hr i _ t hk).2 hstart' (ih (i + 1))
      · exact Chunked.word hw hstart' (ih (i + 1))

theorem kinds_replaceChunks (m : Option Char)
    (hr : ∀ j k t, r j k = some t → k.kind m = Chunk.kind m (.word t)) :
    ∀ (i : Nat) (ks : List Chunk), kinds m (replaceChunks r i ks) = kinds m ks
  | _, [] => rfl
  | i, k :: ks => by
      have ih := kinds_replaceChunks m hr (i + 1) ks
      simp only [replaceChunks, kinds_cons, ih, List.cons.injEq, and_true, replaceChunk]
      split
      · rename_i t hk
        exact (hr i k t hk).symm
      · rfl

theorem wordIndices_replaceChunks {v : List Char}
    (hr : ∀ j k t, r j k = some t → t ≠ v ∧ k ≠ .word v) :
    ∀ (i : Nat) (ks : List Chunk), wordIndices v i (replaceChunks r i ks) = wordIndices v i ks
  | _, [] => rfl
  | i, k :: ks => by
      have ih := wordIndices_replaceChunks hr (i + 1) ks
      simp only [replaceChunks, replaceChunk]
      split
      · rename_i t hk
        obtain ⟨htv, hkv⟩ := hr i k t hk
        cases k with
        | word w =>
            have hwv : w ≠ v := fun h => hkv (by rw [h])
            simp [wordIndices, htv, hwv, ih]
        | other c => simp [wordIndices, htv, ih]
      · cases k with
        | word w => simp [wordIndices, ih]
        | other c => simp [wordIndices, ih]

theorem replaceChunks_replaceChunks {r₁ r₂ r : Nat → Chunk → Option (List Char)}
    (h : ∀ j k, replaceChunk r₂ j (replaceChunk r₁ j k) = replaceChunk r j k) :
    ∀ (i : Nat) (ks : List Chunk),
      replaceChunks r₂ i (replaceChunks r₁ i ks) = replaceChunks r i ks
  | _, [] => rfl
  | i, k :: ks => by
      simp only [replaceChunks, h, replaceChunks_replaceChunks h (i + 1) ks]

end Text
end Obfuscator
