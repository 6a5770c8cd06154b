import Obfuscator.Pipeline
import Obfuscator.Proofs.CodePositions
/-!
# Where a run can fail

The passes cut texts at byte offsets and splice them along spans, and a cut that falls inside a
character, past the end, or before the previous one is refused. This module shows that no pass
ever makes such a cut:

* the spans a pass splices along come from a scan of the text, or are some of them, so they
  tile the text (`Tiling`), and splicing along a tiling never fails;
* every literal lies on character boundaries: the text before it and its content can be cut out
  of the source, and the content cut out is the literal's text;
* the line before an indented break can always be cut out.

So recoding and minifying always succeed, and a step of renaming fails exactly when the
candidate is due a name and the draws give no fresh one (`Rename.step_eq_none_iff`). A run of
the pipeline fails exactly when renaming, enabled and supported by the language, runs out of
names for one of its candidates.
-/

namespace Obfuscator

open Text Lexer

/-! ## Literals lie on character boundaries -/

namespace Lexer

theorem closeLiteral_eq_some {q : Char} :
    ∀ {cs body rest : List Char}, closeLiteral q cs = some (body, rest) → cs = body ++ q :: rest
  | [], _, _, h => by cases h
  | c :: cs, body, rest, h => by
      rw [closeLiteral_cons] at h
      split at h
      · rename_i hcq
        simp only [Option.some.injEq, Prod.mk.injEq] at h
        obtain ⟨rfl, rfl⟩ := h
        rw [hcq]
        rfl
      · split at h
        · cases h
        · obtain ⟨⟨body', rest'⟩, hrec, heq⟩ := Option.map_eq_some_iff.mp h
          simp only [Prod.mk.injEq] at heq
          obtain ⟨rfl, rfl⟩ := heq
          rw [closeLiteral_eq_some hrec]
          rfl

end Lexer

namespace Literal

def chars (l : Literal) : List Char := l.quote :: (l.text ++ [l.quote])

/-- `l.StandsIn text offset`: the literal's quote, text and quote stand in `text`, which starts at
byte `offset`, where its span says, with its content just inside the quotes. -/
structure StandsIn (l : Literal) (text : List Char) (offset : Nat) : Prop where
  split : ∃ pre rest, text = pre ++ l.chars ++ rest ∧ l.span.start = offset + byteSize pre
  content_start : l.content.start = l.span.start + l.quote.utf8Size
  content_stop : l.content.stop = l.content.start + byteSize l.text
  span_stop : l.span.stop = l.content.stop + l.quote.utf8Size

namespace StandsIn

variable {l : Literal} {pre rest : List Char} {offset : Nat}

theorem append (h : l.StandsIn rest (offset + byteSize pre)) : l.StandsIn (pre ++ rest) offset := by
  obtain ⟨⟨pre', post, hrest, hstart⟩, h₁, h₂, h₃⟩ := h
  refine ⟨⟨pre ++ pre', post, by simp [hrest], ?_⟩, h₁, h₂, h₃⟩
  simp [hstart]
  omega

theorem cons {c : Char} (h : l.StandsIn rest (offset + c.utf8Size)) :
    l.StandsIn (c :: rest) offset := by
  have h' : l.StandsIn rest (offset + byteSize [c]) := by simpa using h
  simpa using h'.append

end StandsIn

end Literal

namespace Lexer

theorem byteSize_closed (offset : Nat) (c : Char) (body : List Char) :
    offset + c.utf8Size + byteSize body + c.utf8Size = offset + byteSize (c :: (body ++ [c])) := by
  simp
  omega

theorem mem_literalsFrom (offset : Nat) (text : List Char) :
    ∀ l ∈ literalsFrom offset text, l.StandsIn text offset := by
  fun_induction literalsFrom offset text with
  | case1 =>
      intro l hl
      cases hl
  | case2 offset c cs hq body rest hc contentStart contentStop ih =>
      have hcs := closeLiteral_eq_some hc
      intro l hl
      rcases List.mem_cons.mp hl with rfl | hl
      · refine ⟨⟨[], rest, ?_, by simp⟩, rfl, rfl, rfl⟩
        simp [Literal.chars, hcs]
      · -- a later literal stands in the rest, after the quote, the body and the quote
        have hlater := ih l hl
        rw [byteSize_closed offset c body] at hlater
        rw [hcs, show c :: (body ++ c :: rest) = c :: (body ++ [c]) ++ rest by simp]
        exact hlater.append
  | case3 offset c cs _ _ ih =>
      exact fun l hl => (ih l hl).cons
  | case4 offset c cs _ ih =>
      exact fun l hl => (ih l hl).cons

theorem literalsFrom_tiling (offset : Nat) (text : List Char) :
    Tiling offset text ((literalsFrom offset text).map Literal.span) := by
  fun_induction literalsFrom offset text with
  | case1 =>
      exact Tiling.nil _ _
  | case2 offset c cs hq body rest hc contentStart contentStop ih =>
      have htext : c :: cs = (c :: (body ++ [c])) ++ rest := by
        simp [closeLiteral_eq_some hc]
      have hstop : contentStop + c.utf8Size = offset + byteSize (c :: (body ++ [c])) :=
        byteSize_closed offset c body
      rw [List.map_cons, htext, hstop]
      rw [hstop] at ih
      exact Tiling.span ih
  | case3 _ _ _ _ _ ih =>
      exact Tiling.skip ih
  | case4 _ _ _ _ ih =>
      exact Tiling.skip ih

end Lexer

namespace Literal

variable {l : Literal} {text : List Char}

theorem StandsIn.slice?_before (h : l.StandsIn text 0) : (slice? text 0 l.span.start).isSome := by
  obtain ⟨⟨pre, rest, htext, hstart⟩, -, -, -⟩ := h
  have hcut := slice?_append [] pre (l.chars ++ rest)
  simp only [byteSize_nil, Nat.zero_add, List.nil_append, ← List.append_assoc] at hcut
  rw [hstart, Nat.zero_add, htext, hcut]
  rfl

theorem StandsIn.slice?_content (h : l.StandsIn text 0) :
    slice? text l.content.start l.content.stop = some l.text := by
  obtain ⟨⟨pre, rest, htext, hstart⟩, hcstart, hcstop, -⟩ := h
  have hsplit : text = (pre ++ [l.quote]) ++ l.text ++ (l.quote :: rest) := by
    simp [htext, chars]
  have hoffset : l.content.start = byteSize (pre ++ [l.quote]) := by
    simp [hcstart, hstart]
  rw [hcstop, hoffset, hsplit]
  exact slice?_append _ _ _

end Literal

namespace Source

theorem literal_slices (src : Source) {l : Literal} (hl : l ∈ src.literals) :
    (slice? src.text 0 l.span.start).isSome ∧
      slice? src.text l.content.start l.content.stop = some l.text := by
  have h := mem_literalsFrom 0 src.text l hl
  exact ⟨h.slice?_before, h.slice?_content⟩

end Source
/-! ## Splicing along scanned spans -/

namespace Text.Tiling

theorem splice_map_isSome {text : List Char} {spans : List Span} (h : Tiling 0 text spans)
    (f : Span → List Char) : (splice text (spans.map fun s => { span := s, text := f s })).isSome :=
  h.splice_isSome (by simp [List.map_map, Function.comp_def])

end Text.Tiling

private theorem map_filterMap_sublist {α β γ : Type} {g : α → Option β} {f : β → γ} {k : α → γ}
    (hg : ∀ a b, g a = some b → f b = k a) :
    ∀ xs : List α, ((xs.filterMap g).map f).Sublist (xs.map k)
  | [] => List.Sublist.slnil
  | a :: xs => by
      cases hga : g a with
      | none =>
          rw [List.filterMap_cons_none hga, List.map_cons]
          exact (map_filterMap_sublist hg xs).cons _
      | some b =>
          rw [List.filterMap_cons_some hga, List.map_cons, List.map_cons, hg a b hga]
          exact (map_filterMap_sublist hg xs).cons_cons _

private theorem mapM_edits {f : Span → Option Edit} :
    ∀ spans : List Span, (∀ s ∈ spans, (f s).map Edit.span = some s) →
      ∃ edits, spans.mapM f = some edits ∧ edits.map Edit.span = spans
  | [], _ => ⟨[], rfl, rfl⟩
  | s :: spans, h => by
      obtain ⟨e, he, hspan⟩ := Option.map_eq_some_iff.mp (h s List.mem_cons_self)
      obtain ⟨edits, hedits, hmap⟩ :=
        mapM_edits spans fun s' hs' => h s' (List.mem_cons_of_mem s hs')
      refine ⟨e :: edits, ?_, by simp [hspan, hmap]⟩
      simp [List.mapM_cons, he, hedits]

namespace Source

open Text.Tiling

theorem codeWordSpans_tiling (src : Source) (word : List Char) :
    Tiling 0 src.text (src.codeWordSpans word) :=
  (spans_tiling (wordRule word) src.text).sublist List.filter_sublist

theorem literals_tiling (src : Source) : Tiling 0 src.text (src.literals.map Literal.span) :=
  literalsFrom_tiling 0 src.text

end Source

/-! ## Passes that always succeed -/

namespace Recode

theorem run_isSome (language : Language) (code : List Char) :
    (run language code).isSome := by
  let src : Source := { language, text := code }
  simp only [run, Option.isSome_map]
  refine (src.literals_tiling.sublist ((map_filterMap_sublist (k := fun p => p.1.span) ?keys
    _).trans ?_)).splice_isSome rfl
  case keys =>
    -- only a literal that is replaced gives an edit, and the edit keeps its span
    rintro ⟨l, _ | x | _⟩ e he <;> simp at he
    rw [← he]
  rw [List.map_map]
  exact List.Sublist.refl _

end Recode

namespace Minify

theorem run_isSome (language : Language) (code : List Char) :
    (run language code).isSome := by
  dsimp only [run]
  split
  · exact (spans_tiling blankRunRule code).splice_map_isSome _
  · have hbreaks := spans_tiling indentedBreakRule code
    obtain ⟨edits, hedits, hmap⟩ := mapM_edits (indentedBreaks code)
      (f := fun r => (lineBefore? code r.start).map fun line =>
        { span := r, text := joiner language.profile line }) fun r hr => by
      obtain ⟨line, hline⟩ := Option.isSome_iff_exists.mp (hbreaks.slice?_isSome hr).1
      simp [lineBefore?, hline]
    rw [Option.bind_eq_bind, hedits, Option.bind_some]
    exact hbreaks.splice_isSome hmap

end Minify

/-! ## Renaming fails only for want of names -/

namespace Rename

/-- The step is due to rename `candidate`, which is not excluded, not reserved, not renamed yet
and stands in code, but the draws give no fresh name for it. -/
def Stuck (language : Language) (excluded : List String) (s : State) (candidate : String) : Prop :=
  excluded.contains candidate = false ∧ language.profile.isReserved candidate = false ∧
    s.names.get? candidate = none ∧
    Source.codeWordSpans ⟨language, s.code⟩ candidate.toList ≠ [] ∧
    freshName language.profile.renamePrefix ⟨language, s.code⟩ s.names drawBudget s.draws = none

/-- A step of renaming fails exactly when it is stuck: writing the fresh name over the code
occurrences never fails, since they tile the text. -/
theorem step_eq_none_iff {language : Language} {excluded : List String} {s : State}
    {candidate : String} :
    step language excluded s candidate = none ↔ Stuck language excluded s candidate := by
  dsimp only [step]
  by_cases hskip : (excluded.contains candidate || language.profile.isReserved candidate ||
      (s.names.get? candidate).isSome) = true
  · rw [if_pos hskip]
    refine ⟨fun h => (by cases h), fun ⟨hex, hres, hnamed, _, _⟩ => ?_⟩
    rw [hex, hres, hnamed] at hskip
    exact absurd hskip (by decide)
  · rw [if_neg hskip]
    simp only [Bool.or_eq_true, not_or, Bool.not_eq_true, Option.isSome_eq_false_iff,
      Option.isNone_iff_eq_none] at hskip
    obtain ⟨⟨hex, hres⟩, hnamed⟩ := hskip
    have htiling := Source.codeWordSpans_tiling ⟨language, s.code⟩ candidate.toList
    cases hhits : Source.codeWordSpans ⟨language, s.code⟩ candidate.toList with
    | nil =>
        exact ⟨fun h => (by cases h), fun h => absurd hhits h.2.2.2.1⟩
    | cons hit hits =>
        rw [hhits] at htiling
        dsimp only at htiling
        cases hfresh : freshName language.profile.renamePrefix ⟨language, s.code⟩ s.names
            drawBudget s.draws with
        | none =>
            exact ⟨fun _ => ⟨hex, hres, hnamed, by simp [hhits], hfresh⟩, fun _ => rfl⟩
        | some found =>
            obtain ⟨name, draws⟩ := found
            obtain ⟨out, hout⟩ :=
              Option.isSome_iff_exists.mp (htiling.splice_map_isSome fun _ => name.toList)
            refine ⟨fun h => ?_, fun h => ?_⟩
            · simp at h
              exact (h out (by simpa using hout)).elim
            · have hnone := h.2.2.2.2
              rw [hfresh] at hnone
              cases hnone

private theorem foldlM_eq_none_iff {α β : Type} (f : β → α → Option β) :
    ∀ (xs : List α) (b : β), xs.foldlM f b = none ↔
      ∃ pre x post b', xs = pre ++ x :: post ∧ pre.foldlM f b = some b' ∧ f b' x = none
  | [], b => by simp
  | x :: xs, b => by
      rw [List.foldlM_cons]
      cases hx : f b x with
      | none =>
          exact ⟨fun _ => ⟨[], x, xs, b, rfl, rfl, hx⟩, fun _ => rfl⟩
      | some b₁ =>
          show xs.foldlM f b₁ = none ↔ _
          rw [foldlM_eq_none_iff f xs b₁]
          constructor
          · rintro ⟨pre, y, post, b', rfl, hpre, hy⟩
            refine ⟨x :: pre, y, post, b', rfl, ?_, hy⟩
            simp [List.foldlM_cons, hx, hpre]
          · rintro ⟨pre, y, post, b', hsplit, hpre, hy⟩
            cases pre with
            | nil =>
                simp only [List.nil_append, List.cons.injEq] at hsplit
                obtain ⟨rfl, -⟩ := hsplit
                simp only [List.foldlM_nil, Option.pure_def, Option.some.injEq] at hpre
                subst hpre
                rw [hx] at hy
                cases hy
            | cons z pre =>
                simp only [List.cons_append, List.cons.injEq] at hsplit
                obtain ⟨rfl, rfl⟩ := hsplit
                refine ⟨pre, y, post, b', rfl, ?_, hy⟩
                simpa [List.foldlM_cons, hx] using hpre

/-- Renaming runs out of names: some candidate, reached after the ones before it were renamed or
passed over, finds the step stuck. -/
def RunsOutOfNames (language : Language) (excluded : List String) (draws : Draws)
    (names : List String) (code : List Char) : Prop :=
  ∃ pre candidate post s, names = pre ++ candidate :: post ∧
    pre.foldlM (step language excluded) ⟨code, {}, draws⟩ = some s ∧
    Stuck language excluded s candidate

theorem candidates_eq_none_iff {language : Language} {excluded : List String} {draws : Draws}
    {names : List String} {code : List Char} :
    candidates language excluded draws names code = none ↔
      RunsOutOfNames language excluded draws names code := by
  simp only [candidates, Option.map_eq_none_iff, foldlM_eq_none_iff, step_eq_none_iff]
  rfl

theorem run_eq_none_iff {language : Language} {excluded : List String} {draws : Draws}
    {code : List Char} :
    run language excluded draws code = none ↔ language.profile.renames = true ∧
      RunsOutOfNames language excluded draws language.profile.renameCandidates code := by
  dsimp only [run]
  split
  · rename_i hrenames
    rw [candidates_eq_none_iff]
    exact ⟨fun h => ⟨hrenames, h⟩, And.right⟩
  · rename_i hrenames
    exact ⟨fun h => (by cases h), fun h => absurd h.1 hrenames⟩

end Rename

/-! ## The pipeline -/

namespace Pipeline

theorem run_eq_none_iff (seed : UInt64) (settings : Settings) (code : String) :
    run seed settings code = none ↔ settings.renameVariables = true ∧
      Rename.run settings.language settings.exclusionList (Draws.ofSeed seed) code.toList =
        none := by
  have hrecode (t : List Char) : ∃ r, Recode.run settings.language t = some r :=
    Option.isSome_iff_exists.mp (Recode.run_isSome _ t)
  have hminify (t : List Char) : ∃ r, Minify.run settings.language t = some r :=
    Option.isSome_iff_exists.mp (Minify.run_isSome _ t)
  simp only [run]
  -- the passes that run are those the settings ask for; only renaming can fail
  cases settings.renameVariables with
  | false =>
      cases settings.stringEncryption <;> cases settings.intensity.minifies <;>
        simp [hrecode, hminify]
  | true =>
      cases Rename.run settings.language settings.exclusionList (Draws.ofSeed seed)
          code.toList with
      | none => simp
      | some renamed =>
          cases settings.stringEncryption <;> cases settings.intensity.minifies <;>
            simp [hrecode, hminify]

/-- No pass cuts a text anywhere but at character boundaries or splices it along spans out of
order: every literal can be cut out where it stands, recoding and minifying always succeed, and
renaming, with any list of candidates, fails exactly when it runs out of fresh names. So a run
of the pipeline fails exactly when renaming is asked for, the language renames, and renaming
runs out of names. -/
theorem run_fails_only_for_want_of_names :
    (∀ (src : Source) (l : Literal), l ∈ src.literals →
      (slice? src.text 0 l.span.start).isSome ∧
        slice? src.text l.content.start l.content.stop = some l.text) ∧
    (∀ (language : Language) (code : List Char), (Recode.run language code).isSome) ∧
    (∀ (language : Language) (code : List Char), (Minify.run language code).isSome) ∧
    (∀ (language : Language) (excluded : List String) (draws : Draws) (names : List String)
        (code : List Char),
      Rename.candidates language excluded draws names code = none ↔
        Rename.RunsOutOfNames language excluded draws names code) ∧
    (∀ (seed : UInt64) (settings : Settings) (code : String),
      run seed settings code = none ↔
        settings.renameVariables = true ∧ settings.language.profile.renames = true ∧
          Rename.RunsOutOfNames settings.language settings.exclusionList (Draws.ofSeed seed)
            settings.language.profile.renameCandidates code.toList) := by
  refine ⟨fun src l hl => src.literal_slices hl, Recode.run_isSome, Minify.run_isSome,
    fun _ _ _ _ _ => Rename.candidates_eq_none_iff, fun seed settings code => ?_⟩
  rw [run_eq_none_iff, Rename.run_eq_none_iff]

end Pipeline

end Obfuscator
