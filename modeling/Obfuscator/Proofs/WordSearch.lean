import Obfuscator.Proofs.CodePositions
/-!
# Whole-word search

The search for a word reports its whole occurrences: the places where the text spells the word
and the character on either side, if there is one, is not a word character. `WholeOccurrence`
states that rule without the scan. Main statement: the search finds exactly these places, from
the left (`Source.wordSpans_eq_iff_wholeOccurrences`), so a list of spans is its result exactly
when the spans come one after another and are the whole occurrences of the word; each of them
starts and ends on a character boundary. A longer word that contains the one searched for, as
`totally`, `subtotal` and `total_x` contain `total`, holds no occurrence of it.

Both directions go through chunks. An occurrence found by the scan is a chunk equal to the word,
so the chunks around it give the characters on either side. Conversely a whole occurrence splits
the text into the chunks of what stands before it, the word as one chunk, and the chunks of what
stands after it; that list is chunked, and the scan over a chunked text meets every chunk equal
to the word (`wordSpans_unchunk`).
-/

namespace Obfuscator
namespace Text

/-- `sp` is a whole occurrence of `word` in `text`: the text is `pre ++ word ++ post`, `sp` is the
span of the bytes of `word`, and neither the last character of `pre` nor the first of `post` is
a word character. -/
def WholeOccurrence (text word : List Char) (sp : Span) : Prop :=
  ∃ pre post, text = pre ++ word ++ post ∧ sp = ⟨byteSize pre, byteSize pre + byteSize word⟩ ∧
    (∀ c ∈ pre.getLast?, isWordChar c = false) ∧ ∀ c ∈ post.head?, isWordChar c = false

/-! ## Chunks at a word boundary -/

theorem headIsWord_eq_false_iff {text : List Char} :
    headIsWord text = false ↔ ∀ c ∈ text.head?, isWordChar c = false := by
  cases text <;> simp [headIsWord]

theorem startsWithWord_chunks {text : List Char} (h : ∀ c ∈ text.head?, isWordChar c = false) :
    startsWithWord (chunks text) = false := by
  cases text with
  | nil => simp [chunks, startsWithWord]
  | cons c cs =>
      have hc : isWordChar c = false := h c rfl
      simp [chunks, hc, startsWithWord]

theorem Chunked.chunks_append {rest : List Chunk} (hrest : Chunked rest) (pre : List Char) :
    (∀ c ∈ pre.getLast?, isWordChar c = false) → Chunked (chunks pre ++ rest) := by
  fun_induction chunks pre with
  | case1 =>
      intro _
      simpa [chunks] using hrest
  | case2 c cs hc ih =>
      intro hlast
      -- the word run from `c` ends before the text does, since the last character is no word
      -- character; what follows it starts with that character's own chunk
      obtain ⟨d, ds, hd⟩ : ∃ d ds, cs.dropWhile isWordChar = d :: ds := by
        cases hdrop : cs.dropWhile isWordChar with
        | cons d ds => exact ⟨d, ds, rfl⟩
        | nil =>
            have hall := List.dropWhile_eq_nil_iff.mp hdrop
            obtain ⟨x, hx⟩ : ∃ x, (c :: cs).getLast? = some x := ⟨_, List.getLast?_cons⟩
            have hxw : isWordChar x = true := by
              rcases List.mem_cons.mp (List.mem_of_getLast? hx) with rfl | hmem
              · exact hc
              · simpa using hall x hmem
            rw [hlast x hx] at hxw
            cases hxw
      have hdw : isWordChar d = false := by
        have := List.head?_dropWhile_not isWordChar cs
        simpa [hd] using this
      have hlast' : ∀ x ∈ (cs.dropWhile isWordChar).getLast?, isWordChar x = false := by
        intro x hx
        apply hlast x
        have hsplit : c :: cs = (c :: cs.takeWhile isWordChar) ++ cs.dropWhile isWordChar := by
          simp
        rw [hsplit, List.getLast?_append, hx]
        rfl
      refine Chunked.word ⟨by simp, ?_⟩ ?_ (ih hlast')
      · intro x hx
        rcases List.mem_cons.mp hx with rfl | hx
        · exact hc
        · exact List.all_eq_true.mp List.all_takeWhile x hx
      · rw [hd]
        simp [chunks, hdw, startsWithWord]
  | case3 c cs hc ih =>
      intro hlast
      refine Chunked.other (by simpa using hc) (ih ?_)
      intro x hx
      apply hlast x
      rw [Option.mem_def] at hx
      simp [List.getLast?_cons, hx]

theorem exists_split_of_getElem? {cs : List Chunk} {j : Nat} {k : Chunk} (h : cs[j]? = some k) :
    ∃ pre rest, cs = pre ++ k :: rest ∧ pre.length = j := by
  obtain ⟨hj, hk⟩ := List.getElem?_eq_some_iff.mp h
  refine ⟨cs.take j, cs.drop (j + 1), ?_, by simp; omega⟩
  conv => lhs; rw [← List.take_append_drop j cs, List.drop_eq_getElem_cons hj, hk]

/-! ## Occurrences are chunks -/

section

variable {v : List Char}

theorem wholeOccurrence_chunkSpan {cs : List Chunk} (hcs : Chunked cs) {j : Nat}
    (hj : cs[j]? = some (.word v)) : WholeOccurrence (unchunk cs) v (chunkSpan cs j) := by
  obtain ⟨pre, rest, rfl, rfl⟩ := exists_split_of_getElem? hj
  have hbefore := hcs.before_word
  have hafter : headIsWord (unchunk rest) = false := by
    cases Chunked.drop_append hcs with
    | word _ hstart hrest => exact headIsWord_unchunk hrest hstart
  refine ⟨unchunk pre, unchunk rest, by simp [Chunk.chars], ?_, ?_, ?_⟩
  · rw [chunkSpan_append_length]
    rfl
  · intro c hc
    rw [← List.head?_reverse] at hc
    exact headIsWord_eq_false_iff.mp hbefore c hc
  · exact headIsWord_eq_false_iff.mp hafter

theorem chunked_around_word (hv : IsWord v) {pre post : List Char}
    (hpre : ∀ c ∈ pre.getLast?, isWordChar c = false)
    (hpost : ∀ c ∈ post.head?, isWordChar c = false) :
    Chunked (chunks pre ++ .word v :: chunks post) := by
  apply Chunked.chunks_append _ pre hpre
  exact Chunked.word hv (startsWithWord_chunks hpost) (chunks_chunked post)

theorem wholeOccurrence_of_mem_wordSpans (hv : IsWord v) {text : List Char} {sp : Span}
    (h : sp ∈ Lexer.wordSpans text v) : WholeOccurrence text v sp := by
  have hchunked := chunks_chunked text
  have hspans := wordSpans_unchunk hv hchunked
  rw [unchunk_chunks] at hspans
  rw [hspans] at h
  obtain ⟨j, hj, rfl⟩ := List.mem_map.mp h
  have hword := ((mem_wordIndices v j 0 _).mp hj).2
  rw [Nat.sub_zero] at hword
  have hwhole := wholeOccurrence_chunkSpan hchunked hword
  rwa [unchunk_chunks] at hwhole

theorem mem_wordSpans_of_wholeOccurrence (hv : IsWord v) {text : List Char} {sp : Span}
    (h : WholeOccurrence text v sp) : sp ∈ Lexer.wordSpans text v := by
  obtain ⟨pre, post, rfl, rfl, hpre, hpost⟩ := h
  have hcs := chunked_around_word hv hpre hpost
  have htext : unchunk (chunks pre ++ .word v :: chunks post) = pre ++ v ++ post := by
    simp [unchunk_chunks, Chunk.chars]
  rw [← htext, wordSpans_unchunk hv hcs]
  refine List.mem_map.mpr ⟨(chunks pre).length, ?_, ?_⟩
  · rw [mem_wordIndices]
    simp
  · rw [chunkSpan_append_length]
    simp [unchunk_chunks, Chunk.chars]

theorem mem_wordSpans_iff (hv : IsWord v) {text : List Char} {sp : Span} :
    sp ∈ Lexer.wordSpans text v ↔ WholeOccurrence text v sp :=
  ⟨wholeOccurrence_of_mem_wordSpans hv, mem_wordSpans_of_wholeOccurrence hv⟩

end

/-! ## Order and boundaries -/

namespace WholeOccurrence

variable {text word : List Char} {sp : Span}

theorem start_lt_stop (hw : word ≠ []) (h : WholeOccurrence text word sp) : sp.start < sp.stop := by
  obtain ⟨pre, post, -, rfl, -, -⟩ := h
  have := byteSize_pos hw
  simp only
  omega

theorem pairwise_start_lt (hw : word ≠ []) {ls : List Span}
    (hls : ls.Pairwise fun a b => a.stop ≤ b.start)
    (hwhole : ∀ sp ∈ ls, WholeOccurrence text word sp) :
    ls.Pairwise fun a b => a.start < b.start := by
  refine hls.imp_of_mem fun {a b} ha _ hab => ?_
  have := (hwhole a ha).start_lt_stop hw
  omega

theorem isBoundary (h : WholeOccurrence text word sp) :
    IsBoundary text sp.start ∧ IsBoundary text sp.stop := by
  obtain ⟨pre, post, rfl, rfl, -, -⟩ := h
  unfold IsBoundary
  constructor
  · rw [List.append_assoc, splitAtByte?_byteSize_append pre (word ++ post)]
    rfl
  · rw [← byteSize_append, splitAtByte?_byteSize_append (pre ++ word) post]
    rfl

end WholeOccurrence

end Text

namespace Source

open Text

/-- The whole-word search finds exactly the whole occurrences of a word, from the left: for a
word of word characters, a list of spans is the search's result exactly when each span ends
before the next one starts and the spans are the whole occurrences of the word. Every span found
starts and ends on a character boundary. -/
theorem wordSpans_eq_iff_wholeOccurrences (s : Source) {v : List Char} (hv : IsWord v) :
    (∀ spans : List Span, s.wordSpans v = spans ↔
      spans.Pairwise (fun a b => a.stop ≤ b.start) ∧
        ∀ sp, sp ∈ spans ↔ WholeOccurrence s.text v sp) ∧
    ∀ sp ∈ s.wordSpans v, IsBoundary s.text sp.start ∧ IsBoundary s.text sp.stop := by
  have hmem : ∀ sp, sp ∈ s.wordSpans v ↔ WholeOccurrence s.text v sp :=
    fun _ => mem_wordSpans_iff hv
  have hordered : (s.wordSpans v).Pairwise fun a b => a.stop ≤ b.start :=
    (Lexer.spans_tiling _ s.text).pairwise
  refine ⟨fun spans => ⟨?_, ?_⟩, fun sp hsp => ((hmem sp).mp hsp).isBoundary⟩
  · rintro rfl
    exact ⟨hordered, hmem⟩
  · rintro ⟨hspans, hspans_mem⟩
    -- both lists are ordered by their starts and have the same members
    have : Std.Irrefl fun a b : Span => a.start < b.start := ⟨fun a => Nat.lt_irrefl a.start⟩
    exact List.Pairwise.eq_of_mem_iff
      (WholeOccurrence.pairwise_start_lt hv.1 hordered fun sp => (hmem sp).mp)
      (WholeOccurrence.pairwise_start_lt hv.1 hspans fun sp => (hspans_mem sp).mp)
      fun sp => by rw [hmem, hspans_mem]

/-- The search for `total` in a text where it also stands inside `totally`, `subtotal` and
`total_x`. -/
theorem wordSpans_total_eq_iff :
    IsWord "total".toList ∧
    (∀ spans : List Span,
      (⟨.javaScript, "totally subtotal total_x total".toList⟩ : Source).wordSpans "total".toList =
          spans ↔
        spans.Pairwise (fun a b => a.stop ≤ b.start) ∧
          ∀ sp, sp ∈ spans ↔
            WholeOccurrence "totally subtotal total_x total".toList "total".toList sp) ∧
    ∀ sp ∈ (⟨.javaScript, "totally subtotal total_x total".toList⟩ : Source).wordSpans
        "total".toList,
      IsBoundary "totally subtotal total_x total".toList sp.start ∧
        IsBoundary "totally subtotal total_x total".toList sp.stop := by
  have hv : IsWord "total".toList := ⟨by simp, List.all_eq_true.mp (by decide)⟩
  exact ⟨hv, wordSpans_eq_iff_wholeOccurrences _ hv⟩

end Source
end Obfuscator
