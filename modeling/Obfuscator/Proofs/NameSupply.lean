import Obfuscator.Proofs.Totality
import Obfuscator.Proofs.GeneratedNames
/-!
# The supply of generated names is finite

A generated name is a prefix and four hexadecimal digits, so each prefix has 65536 of them.
Drawing a fresh name takes draws until one of them names a free name, one that is neither
generated in this run nor a whole word of the current text. The draws it may make are bounded,
and it succeeds exactly when one of them names a free name (`freshName_isSome_iff`): a stream of
draws that reaches every 16-bit value finds a fresh name exactly when one of the 65536 is free.

In a text that already holds every generated name as a word none is free, and no stream of draws
helps (`freshName_eq_none_of_taken`). Such a text is written here as its chunks, every name with a
space after it and then one more word (`textOfEveryName`). With the word `total` last, renaming
JavaScript fails whatever the draws, and so does every run of the pipeline with the default
settings, which rename (`renaming_fails_when_every_name_is_taken`).
-/

namespace Obfuscator

open Text Lexer

namespace Rename

/-! ## Drawing a fresh name -/

/-- A draw names a free name: one neither generated in this run nor a whole word of the text. -/
def IsFree (namePrefix : String) (src : Source) (m : RenameMap) (x : UInt16) : Prop :=
  m.isGenerated (namePrefix ++ hex4 x) = false ∧ src.containsWord (namePrefix ++ hex4 x).toList = false

variable {namePrefix : String} {src : Source} {m : RenameMap}

theorem isFree_iff (x : UInt16) :
    IsFree namePrefix src m x ↔
      (m.isGenerated (namePrefix ++ hex4 x) || src.containsWord (namePrefix ++ hex4 x).toList) =
        false := by
  simp [IsFree]

/-- Drawing a fresh name succeeds exactly when one of the draws it may make names a free name:
the search runs over the draws in order, and passes over a draw only when its name is taken. -/
theorem freshName_isSome_iff :
    ∀ {budget : Nat} {d : Draws},
      (freshName namePrefix src m budget d).isSome ↔ ∃ x ∈ d.take budget, IsFree namePrefix src m x
  | 0, d => by simp [freshName, Draws.take]
  | budget + 1, d => by
      rcases hnext : d.next with ⟨x, d'⟩
      have ih := @freshName_isSome_iff budget d'
      simp only [freshName, Draws.take, hnext, List.mem_cons, exists_eq_or_imp]
      by_cases htaken : (m.isGenerated (namePrefix ++ hex4 x) ||
          src.containsWord (namePrefix ++ hex4 x).toList) = true
      · -- a taken name is passed over, and the search goes on with the next draw
        have hnot : ¬ IsFree namePrefix src m x := fun hfree => by
          rw [isFree_iff, htaken] at hfree
          cases hfree
        rw [if_pos htaken, ih]
        simp [hnot]
      · have hfree : IsFree namePrefix src m x := (isFree_iff x).mpr (by simpa using htaken)
        rw [if_neg htaken]
        simp [hfree]

/-- Where every name is taken, no draw gives a fresh one, however many draws are made. -/
theorem freshName_eq_none_of_taken (h : ∀ x : UInt16, ¬ IsFree namePrefix src m x)
    (budget : Nat) (d : Draws) : freshName namePrefix src m budget d = none := by
  rw [← Option.not_isSome_iff_eq_none, freshName_isSome_iff]
  rintro ⟨x, -, hx⟩
  exact h x hx

end Rename

/-! ## A text that holds every generated name -/

def everyName (namePrefix : String) : List (List Char) :=
  (List.range 65536).map fun n => (namePrefix ++ Rename.hex4 n.toUInt16).toList

theorem mem_everyName (namePrefix : String) (x : UInt16) :
    (namePrefix ++ Rename.hex4 x).toList ∈ everyName namePrefix := by
  refine List.mem_map.mpr ⟨x.toNat, List.mem_range.mpr x.toNat_lt, ?_⟩
  simp

def spacedWords (words : List (List Char)) (last : List Char) : List Chunk :=
  words.flatMap (fun w => [.word w, .other ' ']) ++ [.word last]

/-- The text holding every generated name of a prefix, each followed by a space, and then one
more word. -/
def textOfEveryName (namePrefix : String) (last : List Char) : List Char :=
  unchunk (spacedWords (everyName namePrefix) last)

theorem isWordChar_space : isWordChar ' ' = false := by decide

theorem chunked_spacedWords {words : List (List Char)} {last : List Char}
    (hwords : ∀ w ∈ words, IsWord w) (hlast : IsWord last) : Chunked (spacedWords words last) := by
  induction words with
  | nil => exact Chunked.word hlast rfl Chunked.nil
  | cons w ws ih =>
      have hrest := ih fun v hv => hwords v (List.mem_cons_of_mem w hv)
      exact Chunked.word (hwords w List.mem_cons_self) rfl (Chunked.other isWordChar_space hrest)

theorem containsWord_unchunk (L : Language) {cs : List Chunk} (hcs : Chunked cs) {v : List Char}
    (hv : IsWord v) : Source.containsWord ⟨L, unchunk cs⟩ v = true ↔ .word v ∈ cs := by
  simp only [Source.containsWord, Source.wordSpans, wordSpans_unchunk hv hcs, List.isEmpty_map,
    Bool.not_eq_true', List.isEmpty_eq_false_iff_exists_mem, mem_wordIndices, Nat.zero_le,
    true_and, Nat.sub_zero]
  constructor
  · rintro ⟨j, hj⟩
    exact List.mem_of_getElem? hj
  · intro hmem
    exact List.mem_iff_getElem?.mp hmem

theorem codeWordSpans_of_no_quote (L : Language) {text : List Char}
    (h : ∀ c ∈ text, isQuote c = false) (v : List Char) :
    Source.codeWordSpans ⟨L, text⟩ v = Source.wordSpans ⟨L, text⟩ v := by
  have hlits : Source.literals ⟨L, text⟩ = [] := by
    have hscan := literalsFrom_append h [] 0
    rw [List.append_nil] at hscan
    simpa [Source.literals, Lexer.literals, literalsFrom] using hscan
  rw [Source.codeWordSpans, List.filter_eq_self]
  intro hit _
  simp [Source.isCodeHit, hlits]

theorem isQuote_of_mem_spacedWords {words : List (List Char)} {last : List Char}
    (hwords : ∀ w ∈ words, IsWord w) (hlast : IsWord last) :
    ∀ c ∈ unchunk (spacedWords words last), isQuote c = false := by
  intro c hc
  obtain ⟨k, hk, hck⟩ := List.mem_flatMap.mp hc
  simp only [spacedWords, List.mem_append, List.mem_flatMap, List.mem_cons, List.not_mem_nil,
    or_false] at hk
  -- a chunk of the text is one of the words, or a space
  rcases hk with ⟨w, hw, rfl | rfl⟩ | rfl
  · exact isQuote_of_isWordChar ((hwords w hw).2 c hck)
  · rw [List.mem_singleton.mp hck]
    rfl
  · exact isQuote_of_isWordChar (hlast.2 c hck)

theorem isWord_of_mem_everyName (L : Language) : ∀ w ∈ everyName L.profile.renamePrefix, IsWord w := by
  intro w hw
  obtain ⟨n, -, rfl⟩ := List.mem_map.mp hw
  exact (isGeneratedName_hex4 _ _).isWord

section EveryName

variable (L : Language) {last : List Char} (hlast : IsWord last)
include hlast

theorem not_isFree_textOfEveryName (m : RenameMap) (x : UInt16) :
    ¬ Rename.IsFree L.profile.renamePrefix ⟨L, textOfEveryName L.profile.renamePrefix last⟩ m x := by
  have hcs := chunked_spacedWords (isWord_of_mem_everyName L) hlast
  have hword : Chunk.word (L.profile.renamePrefix ++ Rename.hex4 x).toList ∈
      spacedWords (everyName L.profile.renamePrefix) last := by
    simp only [spacedWords, List.mem_append, List.mem_flatMap]
    exact .inl ⟨_, mem_everyName _ x, List.mem_cons_self⟩
  have hcontains : Source.containsWord ⟨L, textOfEveryName L.profile.renamePrefix last⟩
      (L.profile.renamePrefix ++ Rename.hex4 x).toList = true :=
    (containsWord_unchunk L hcs (isGeneratedName_hex4 _ x).isWord).mpr hword
  intro hfree
  exact Bool.false_ne_true (hfree.2.symm.trans hcontains)

theorem codeWordSpans_textOfEveryName_ne_nil :
    Source.codeWordSpans ⟨L, textOfEveryName L.profile.renamePrefix last⟩ last ≠ [] := by
  have hwords := isWord_of_mem_everyName L
  have hcs := chunked_spacedWords hwords hlast
  have hcontains := (containsWord_unchunk L hcs hlast).mpr (by simp [spacedWords])
  rw [textOfEveryName, codeWordSpans_of_no_quote L (isQuote_of_mem_spacedWords hwords hlast)]
  simpa [Source.containsWord] using hcontains

end EveryName

theorem isWord_total : IsWord "total".toList := by
  have hall : "total".toList.all isWordChar = true := by decide
  exact ⟨by simp, List.all_eq_true.mp hall⟩

theorem renamePrefix_javaScript : Language.javaScript.profile.renamePrefix = "_0x" := rfl

theorem exclusionList_default : ({} : Settings).exclusionList = [] := by
  cbv

/-- Renaming needs a fresh name for `total`, which stands in code in the text of every name, and
finds none whatever the draws: every name is a whole word of the text. So renaming JavaScript
fails for every stream of draws, and so does the pipeline with the default settings, which rename
JavaScript, for every seed. -/
theorem renaming_fails_when_every_name_is_taken :
    (∀ draws : Draws,
      Rename.run .javaScript [] draws (textOfEveryName "_0x" "total".toList) = none) ∧
    ∀ seed : UInt64, Pipeline.run seed {} (String.ofList (textOfEveryName "_0x" "total".toList)) =
      none := by
  have hrename : ∀ draws : Draws,
      Rename.run .javaScript [] draws (textOfEveryName "_0x" "total".toList) = none := by
    intro draws
    rw [Rename.run_eq_none_iff]
    have hcode := codeWordSpans_textOfEveryName_ne_nil .javaScript isWord_total
    have hfresh := Rename.freshName_eq_none_of_taken
      (not_isFree_textOfEveryName .javaScript isWord_total {}) Rename.drawBudget draws
    rw [renamePrefix_javaScript] at hcode hfresh
    refine ⟨rfl, [], "total", _, ⟨textOfEveryName "_0x" "total".toList, {}, draws⟩, rfl, rfl, ?_⟩
    -- the state's fields are read off before the facts are matched against them
    refine ⟨rfl, rfl, rfl, ?_, ?_⟩
    · dsimp only
      exact hcode
    · dsimp only
      exact hfresh
  refine ⟨hrename, fun seed => ?_⟩
  rw [Pipeline.run_eq_none_iff, String.toList_ofList, exclusionList_default]
  exact ⟨rfl, hrename _⟩

end Obfuscator
