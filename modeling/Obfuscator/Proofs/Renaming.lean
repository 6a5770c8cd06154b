import Obfuscator.Proofs.ChunkReplace
import Obfuscator.Proofs.GeneratedNames
/-!
# Renaming is one substitution on the original text

Renaming takes its candidates one after another. Each one is looked up in the text as renamed so
far, and its fresh name is checked against that text, while the law one wants speaks of the
original text only: the identifiers that get names are the candidates that stand in code in the
original, no name is a word of the original, and the result is the original with every code
occurrence of a renamed identifier replaced by its name.

The law holds for candidates that are ASCII identifiers, that do not have the shape of a
generated name, and that are no interpolation prefix (`SafeCandidate`). Under these conditions a
replacement changes no chunk structure and no kind, so every later candidate and every fresh name
sees the code positions of the original. `Renamed` is the invariant; `Renamed.step` is what one
candidate does to it and `Renamed.foldlM` what the whole list does.

Without the conditions the law fails: a candidate that looks like a generated name can be
written into the text by an earlier candidate and then renamed itself, and renaming `f` in
Python turns `f"…"` into a plain literal, whose holes are no longer code.
-/

namespace Obfuscator
namespace Rename

open Text Lexer

/-! ## Candidates and the substitution on chunks -/

/-- A candidate the renaming law is stated for: a nonempty ASCII identifier that does not have
the shape of a generated name and does not mark a literal as interpolating. -/
structure SafeCandidate (L : Language) (k : String) : Prop where
  nonempty : k.toList ≠ []
  identifier : ∀ c ∈ k.toList, c.isAlphanum = true ∨ c = '_'
  not_generated : ¬ IsGeneratedName L.profile.renamePrefix k
  unmarked : marksInterpolation L.profile.interpolationMarker k.toList = false

def isSafeCandidate (L : Language) (k : String) : Bool :=
  !k.toList.isEmpty && k.toList.all (fun c => c.isAlphanum || c == '_') &&
    !isGeneratedShape L.profile.renamePrefix k &&
    !marksInterpolation L.profile.interpolationMarker k.toList

theorem safeCandidate_iff {L : Language} {k : String} :
    SafeCandidate L k ↔ isSafeCandidate L k = true := by
  simp only [isSafeCandidate, Bool.and_eq_true, List.isEmpty_eq_false_iff, List.all_eq_true,
    Bool.or_eq_true, beq_iff_eq, Bool.not_eq_eq_eq_not, Bool.not_true]
  constructor
  · intro h
    exact ⟨⟨⟨h.nonempty, h.identifier⟩,
      Bool.eq_false_iff.mpr fun hg => h.not_generated (isGeneratedName_iff.mpr hg)⟩, h.unmarked⟩
  · rintro ⟨⟨⟨hne, hid⟩, hgen⟩, hmark⟩
    refine ⟨hne, hid, fun hg => ?_, hmark⟩
    rw [isGeneratedName_iff, hgen] at hg
    cases hg

instance (L : Language) (k : String) : Decidable (SafeCandidate L k) :=
  decidable_of_iff _ safeCandidate_iff.symm

theorem SafeCandidate.isWord {L : Language} {k : String} (h : SafeCandidate L k) :
    IsWord k.toList := by
  refine ⟨h.nonempty, fun c hc => ?_⟩
  rcases h.identifier c hc with hc | rfl
  · exact isWordChar_of_isAlphanum hc
  · exact isWordChar_underscore

def codeKinds (L : Language) (code : List Char) : List Kind :=
  kinds L.profile.interpolationMarker (chunks code)

def renameAt (ks : List Kind) (m : RenameMap) (j : Nat) : Chunk → Option (List Char)
  | .word w => if codeAt ks j then (m.get? (String.ofList w)).map String.toList else none
  | .other _ => none

theorem renameAt_eq_some {ks : List Kind} {m : RenameMap} {j : Nat} {k : Chunk}
    {t : List Char} (h : renameAt ks m j k = some t) :
    ∃ w g, k = .word w ∧ codeAt ks j = true ∧ m.get? (String.ofList w) = some g ∧
      t = g.toList := by
  cases k with
  | other c => cases h
  | word w =>
      simp only [renameAt] at h
      split at h
      · rename_i hcode
        obtain ⟨g, hg, rfl⟩ := Option.map_eq_some_iff.mp h
        exact ⟨w, g, rfl, hcode, hg, rfl⟩
      · cases h

theorem renameAt_empty (ks : List Kind) (j : Nat) (k : Chunk) : renameAt ks {} j k = none := by
  cases k with
  | other c => rfl
  | word w =>
      simp only [renameAt, RenameMap.get?_empty, Option.map_none]
      split <;> rfl

theorem wordIndices_rename {ks : List Kind} {m : RenameMap} {v : String}
    (hv : ∀ k g, m.get? k = some g → g ≠ v ∧ k ≠ v) (cs : List Chunk) :
    wordIndices v.toList 0 (replaceChunks (renameAt ks m) 0 cs) = wordIndices v.toList 0 cs := by
  apply wordIndices_replaceChunks
  intro j k t h
  obtain ⟨w, g, rfl, _, hg, rfl⟩ := renameAt_eq_some h
  obtain ⟨hgv, hkv⟩ := hv _ g hg
  refine ⟨fun h => hgv (String.toList_inj.mp h), fun h => hkv ?_⟩
  cases h
  exact String.ofList_toList

theorem replaceChunk_rename_insert {ks : List Kind} {m : RenameMap} {k g : String}
    (hnone : m.get? k = none) (hvalues : ∀ k' g', m.get? k' = some g' → g' ≠ k) (j : Nat)
    (c : Chunk) :
    replaceChunk (fun j c => if c = .word k.toList ∧ codeAt ks j = true then some g.toList else none)
        j (replaceChunk (renameAt ks m) j c) =
      replaceChunk (renameAt ks (m.insert k g)) j c := by
  cases c with
  | other c =>
      simp [replaceChunk, renameAt]
  | word w =>
      by_cases hcode : codeAt ks j = true
      · cases hw : m.get? (String.ofList w) with
        | some t =>
            -- a word renamed before keeps its name: it is not `k`, and its name is not `k`
            have hwk : String.ofList w ≠ k := fun h => by
              rw [h, hnone] at hw
              cases hw
            have htk : t.toList ≠ k.toList := fun h => hvalues _ t hw (String.toList_inj.mp h)
            simp [replaceChunk, renameAt, hcode, hw, RenameMap.get?_insert hnone, hwk, htk]
        | none =>
            by_cases hwk : String.ofList w = k
            · subst hwk
              simp [replaceChunk, renameAt, hcode, hw, RenameMap.get?_insert hnone,
                String.toList_ofList]
            · have hwk' : w ≠ k.toList := fun h => hwk (by rw [h, String.ofList_toList])
              simp [replaceChunk, renameAt, hcode, hw, RenameMap.get?_insert hnone, hwk, hwk']
      · simp [replaceChunk, renameAt, hcode]

theorem codeWordSpans_chunks (L : Language) (code : List Char) {v : List Char}
    (hv : IsWord v) :
    Source.codeWordSpans ⟨L, code⟩ v =
      ((wordIndices v 0 (chunks code)).filter (codeAt (codeKinds L code))).map
        (chunkSpan (chunks code)) := by
  have h := Source.codeWordSpans_unchunk L (chunks_chunked code) hv
  rwa [unchunk_chunks] at h

theorem containsWord_chunks (L : Language) (code : List Char) {v : List Char}
    (hv : IsWord v) :
    Source.containsWord ⟨L, code⟩ v = !(wordIndices v 0 (chunks code)).isEmpty := by
  have h := wordSpans_unchunk hv (chunks_chunked code)
  rw [unchunk_chunks] at h
  simp [Source.containsWord, Source.wordSpans, h]

/-! ## The invariant -/

section

variable (L : Language) (excluded : List String) (code : List Char)

/-- What renaming has done after the candidates `done`: its text is the original with the
substitution of its table applied, its table names exactly the candidates that stand in code in
the original and may be renamed, and its names are fresh for the original and for each other. -/
structure Renamed (done : List String) (s : State) : Prop where
  text : s.code = unchunk (replaceChunks (renameAt (codeKinds L code) s.names) 0 (chunks code))
  keys : ∀ k, (s.names.get? k).isSome ↔ k ∈ done ∧ k ∉ excluded ∧
    L.profile.isReserved k = false ∧ Source.codeWordSpans ⟨L, code⟩ k.toList ≠ []
  fresh : ∀ k g, s.names.get? k = some g →
    IsGeneratedName L.profile.renamePrefix g ∧ Source.containsWord ⟨L, code⟩ g.toList = false
  injective : ∀ k₁ k₂ g, s.names.get? k₁ = some g → s.names.get? k₂ = some g → k₁ = k₂

theorem renamed_start (draws : Draws) :
    Renamed L excluded code [] { code, names := {}, draws } := by
  have hnone : ∀ i (ks : List Chunk),
      replaceChunks (renameAt (codeKinds L code) {}) i ks = ks := by
    intro i ks
    induction ks generalizing i with
    | nil => rfl
    | cons k ks ih =>
        simp [replaceChunks, replaceChunk, renameAt_empty, ih]
  refine ⟨?_, ?_, ?_, ?_⟩
  · simp only [hnone, unchunk_chunks]
  · simp
  · simp
  · simp

variable {L excluded code} {done : List String} {s : State}

section

variable (hr : Renamed L excluded code done s) (hsafe : ∀ k ∈ done, SafeCandidate L k)
include hr hsafe

theorem Renamed.safe_of_get? {k g : String} (hk : s.names.get? k = some g) :
    SafeCandidate L k :=
  hsafe k ((hr.keys k).mp (by simp [hk])).1

omit hsafe in
theorem Renamed.wordsForWords : WordsForWords (renameAt (codeKinds L code) s.names) := by
  intro j k t h
  obtain ⟨w, g, rfl, _, hg, rfl⟩ := renameAt_eq_some h
  exact ⟨rfl, (hr.fresh _ g hg).1.isWord⟩

theorem Renamed.kinds_eq :
    kinds L.profile.interpolationMarker
        (replaceChunks (renameAt (codeKinds L code) s.names) 0 (chunks code)) =
      codeKinds L code := by
  apply kinds_replaceChunks
  intro j k t h
  obtain ⟨w, g, rfl, _, hg, rfl⟩ := renameAt_eq_some h
  -- the renamed identifier and its name both leave a following quote alone
  have hw := (hr.safe_of_get? hsafe hg).unmarked
  rw [String.toList_ofList] at hw
  simp [Chunk.kind, hw, (hr.fresh _ g hg).1.marksInterpolation]

omit hsafe in
theorem Renamed.chunked :
    Chunked (replaceChunks (renameAt (codeKinds L code) s.names) 0 (chunks code)) :=
  (chunks_chunked code).replaceChunks hr.wordsForWords 0

theorem Renamed.codeWordSpans_eq_nil {v : String} (hv : SafeCandidate L v)
    (hnone : s.names.get? v = none) :
    Source.codeWordSpans ⟨L, s.code⟩ v.toList = [] ↔
      Source.codeWordSpans ⟨L, code⟩ v.toList = [] := by
  have hidx : wordIndices v.toList 0
      (replaceChunks (renameAt (codeKinds L code) s.names) 0 (chunks code)) =
        wordIndices v.toList 0 (chunks code) :=
    wordIndices_rename (fun k g hg =>
      ⟨fun h => hv.not_generated (by rw [← h]; exact (hr.fresh k g hg).1),
        fun h => by rw [h, hnone] at hg; cases hg⟩) (chunks code)
  rw [hr.text, Source.codeWordSpans_unchunk L hr.chunked hv.isWord, hr.kinds_eq hsafe,
    hidx, codeWordSpans_chunks L code hv.isWord]
  simp

omit hsafe in
theorem Renamed.skip {k : String}
    (hskip : k ∉ excluded → L.profile.isReserved k = false →
      Source.codeWordSpans ⟨L, code⟩ k.toList ≠ [] → (s.names.get? k).isSome) :
    Renamed L excluded code (done ++ [k]) s := by
  refine ⟨hr.text, fun k' => ?_, hr.fresh, hr.injective⟩
  rw [hr.keys k', List.mem_append, List.mem_singleton]
  constructor
  · rintro ⟨hd, hrest⟩
    exact ⟨Or.inl hd, hrest⟩
  · rintro ⟨hd | rfl, hex, hres, hcode⟩
    · exact ⟨hd, hex, hres, hcode⟩
    · exact ⟨((hr.keys k').mp (hskip hex hres hcode)).1, hex, hres, hcode⟩

theorem Renamed.rename {k g : String} {d : Draws} {code' : List Char} {hits : List Span}
    (hk : SafeCandidate L k) (hnone : s.names.get? k = none) (hex : k ∉ excluded)
    (hres : L.profile.isReserved k = false)
    (hhits : Source.codeWordSpans ⟨L, s.code⟩ k.toList = hits) (hne : hits ≠ [])
    (hfresh : freshName L.profile.renamePrefix ⟨L, s.code⟩ s.names drawBudget s.draws =
      some (g, d))
    (hsplice : splice s.code (hits.map fun h => { span := h, text := g.toList }) = some code') :
    Renamed L excluded code (done ++ [k]) { code := code', names := s.names.insert k g, draws := d } := by
  obtain ⟨hgen, hword, x, hx⟩ := freshName_spec hfresh
  have hgname : IsGeneratedName L.profile.renamePrefix g := hx ▸ isGeneratedName_hex4 _ x
  have hvalues : ∀ k' g', s.names.get? k' = some g' → g' ≠ k := fun k' g' hg h =>
    hk.not_generated (by rw [← h]; exact (hr.fresh k' g' hg).1)
  refine ⟨?_, fun k' => ?_, fun k' g' hg' => ?_, fun k₁ k₂ g' h₁ h₂ => ?_⟩
  · -- the splice writes `g` over the code occurrences of `k`, which are chunks of the text
    have hcw : Source.codeWordSpans ⟨L, s.code⟩ k.toList =
        ((wordIndices k.toList 0 (replaceChunks (renameAt (codeKinds L code) s.names) 0
          (chunks code))).filter (codeAt (codeKinds L code))).map
          (chunkSpan (replaceChunks (renameAt (codeKinds L code) s.names) 0 (chunks code))) := by
      rw [hr.text, Source.codeWordSpans_unchunk L hr.chunked hk.isWord, hr.kinds_eq hsafe]
    have hedits : hits.map (fun h => { span := h, text := g.toList }) =
        replaceEdits (fun j c => if c = .word k.toList ∧ codeAt (codeKinds L code) j = true then
          some g.toList else none)
          (replaceChunks (renameAt (codeKinds L code) s.names) 0 (chunks code)) 0
          (replaceChunks (renameAt (codeKinds L code) s.names) 0 (chunks code)) := by
      rw [← hhits, hcw, replaceEdits_word, List.map_map]
      rfl
    have hsp := splice_replaceEdits
      (fun j c => if c = .word k.toList ∧ codeAt (codeKinds L code) j = true then
        some g.toList else none)
      (replaceChunks (renameAt (codeKinds L code) s.names) 0 (chunks code))
    rw [← hedits, ← hr.text, hsplice, replaceChunks_replaceChunks
      (replaceChunk_rename_insert hnone hvalues)] at hsp
    exact Option.some.inj hsp
  · -- the table gains exactly `k`
    rw [RenameMap.get?_insert hnone, List.mem_append, List.mem_singleton]
    by_cases hkk : k' = k
    · subst hkk
      have hcode := (hr.codeWordSpans_eq_nil hsafe hk hnone).not.mp (hhits ▸ hne)
      simp [hex, hres, hcode]
    · rw [if_neg hkk, hr.keys k']
      simp [hkk]
  · -- the new name is fresh for the original: no chunk of it was renamed
    rw [RenameMap.get?_insert hnone] at hg'
    split at hg'
    · cases hg'
      refine ⟨hgname, ?_⟩
      have hidx : wordIndices g.toList 0
          (replaceChunks (renameAt (codeKinds L code) s.names) 0 (chunks code)) =
            wordIndices g.toList 0 (chunks code) :=
        wordIndices_rename (fun k₀ g₀ hg₀ =>
          ⟨fun h => RenameMap.get?_ne_of_isGenerated hgen k₀ (by rw [← h]; exact hg₀),
            fun h => (hr.safe_of_get? hsafe hg₀).not_generated (by rw [h]; exact hgname)⟩)
          (chunks code)
      have hcur := containsWord_chunks L code hgname.isWord
      rw [hr.text, Source.containsWord, Source.wordSpans,
        wordSpans_unchunk hgname.isWord hr.chunked, hidx] at hword
      rw [hcur]
      simpa using hword
    · exact hr.fresh k' g' hg'
  · -- no other identifier has the new name
    rw [RenameMap.get?_insert hnone] at h₁ h₂
    split at h₁ <;> split at h₂
    · rename_i h₁' h₂'
      rw [h₁', h₂']
    · cases h₁
      exact absurd h₂ (RenameMap.get?_ne_of_isGenerated hgen k₂)
    · cases h₂
      exact absurd h₁ (RenameMap.get?_ne_of_isGenerated hgen k₁)
    · exact hr.injective k₁ k₂ g' h₁ h₂

/-- One candidate keeps the invariant, whichever branch renaming takes. -/
theorem Renamed.step {k : String} (hk : SafeCandidate L k) {s' : State}
    (hstep : Rename.step L excluded s k = some s') :
    Renamed L excluded code (done ++ [k]) s' := by
  simp only [Rename.step] at hstep
  split at hstep
  · -- passed over: excluded, reserved, or named already
    rename_i hskip
    cases hstep
    apply hr.skip
    intro hex hres _
    simp only [Bool.or_eq_true, List.contains_iff_mem] at hskip
    rcases hskip with (hin | hres') | hsome
    · exact absurd hin hex
    · rw [hres] at hres'
      cases hres'
    · exact hsome
  · rename_i hskip
    simp only [Bool.or_eq_true, List.contains_iff_mem, not_or, Bool.not_eq_true,
      Option.isSome_eq_false_iff, Option.isNone_iff_eq_none] at hskip
    obtain ⟨⟨hex, hres⟩, hnone⟩ := hskip
    split at hstep
    · -- no occurrence in code, then none in the original either
      rename_i hnil
      cases hstep
      apply hr.skip
      intro _ _ hcode
      exact absurd ((hr.codeWordSpans_eq_nil hsafe hk hnone).mp hnil) hcode
    · rename_i hne
      obtain ⟨⟨g, d⟩, hfresh, hrest⟩ := Option.bind_eq_some_iff.mp hstep
      obtain ⟨code', hsplice, hout⟩ := Option.bind_eq_some_iff.mp hrest
      cases hout
      exact hr.rename hsafe hk hnone hex hres rfl hne hfresh hsplice

end

/-- The whole list of candidates keeps the invariant. -/
theorem Renamed.foldlM :
    ∀ (rest : List String) {done : List String} {s s' : State},
      Renamed L excluded code done s → (∀ k ∈ done ++ rest, SafeCandidate L k) →
      rest.foldlM (Rename.step L excluded) s = some s' →
      Renamed L excluded code (done ++ rest) s'
  | [], done, s, s', hr, _, h => by
      cases h
      simpa using hr
  | k :: rest, done, s, s', hr, hsafe, h => by
      rw [List.foldlM_cons] at h
      obtain ⟨s₁, h₁, h₂⟩ := Option.bind_eq_some_iff.mp h
      have hr₁ := hr.step (fun k' hk' => hsafe k' (List.mem_append_left _ hk'))
        (hsafe k (by simp)) h₁
      have hrest := Renamed.foldlM rest hr₁ (by simpa using hsafe) h₂
      simpa using hrest

end

/-! ## The law -/

/-- The renaming law of one run on `code`, with candidates `cands`, giving `out` and the table
`m`: the identifiers named are the candidates that stand in code in the original and may be
renamed; names are generated, fresh for the original and distinct; and `out` is the original
spliced, in order, at every code occurrence of a named identifier with its name. -/
structure RenameLaw (L : Language) (excluded cands : List String) (code out : List Char)
    (m : RenameMap) : Prop where
  keys : ∀ k, (m.get? k).isSome ↔ k ∈ cands ∧ k ∉ excluded ∧ L.profile.isReserved k = false ∧
    Source.codeWordSpans ⟨L, code⟩ k.toList ≠ []
  injective : ∀ k₁ k₂ g, m.get? k₁ = some g → m.get? k₂ = some g → k₁ = k₂
  fresh : ∀ k g, m.get? k = some g →
    IsGeneratedName L.profile.renamePrefix g ∧ Source.containsWord ⟨L, code⟩ g.toList = false
  substitution : ∃ edits : List Edit,
    (∀ e, e ∈ edits ↔ ∃ k g, m.get? k = some g ∧
      e.span ∈ Source.codeWordSpans ⟨L, code⟩ k.toList ∧ e.text = g.toList) ∧
    edits.Pairwise (fun a b => a.span.stop ≤ b.span.start) ∧
    splice code edits = some out

theorem mem_renameEdits {L : Language} {excluded done : List String} {code : List Char}
    {s : State} (hr : Renamed L excluded code done s) (hsafe : ∀ k ∈ done, SafeCandidate L k)
    (e : Edit) :
    e ∈ replaceEdits (renameAt (codeKinds L code) s.names) (chunks code) 0 (chunks code) ↔
      ∃ k g, s.names.get? k = some g ∧
        e.span ∈ Source.codeWordSpans ⟨L, code⟩ k.toList ∧ e.text = g.toList := by
  rw [mem_replaceEdits]
  constructor
  · rintro ⟨j, hj, hren, hspan⟩
    obtain ⟨w, g, hw, hcode, hg, htext⟩ := renameAt_eq_some hren
    have hk := hr.safe_of_get? hsafe hg
    refine ⟨String.ofList w, g, hg, ?_, htext⟩
    rw [codeWordSpans_chunks L code hk.isWord, String.toList_ofList, Nat.zero_add] at *
    refine List.mem_map.mpr ⟨j, List.mem_filter.mpr ⟨?_, hcode⟩, hspan.symm⟩
    rw [mem_wordIndices]
    simp [List.getElem?_eq_getElem hj, hw]
  · rintro ⟨k, g, hg, hspan, htext⟩
    have hk := hr.safe_of_get? hsafe hg
    rw [codeWordSpans_chunks L code hk.isWord] at hspan
    obtain ⟨j, hj, hspan⟩ := List.mem_map.mp hspan
    obtain ⟨hidx, hcode⟩ := List.mem_filter.mp hj
    obtain ⟨-, hat⟩ := (mem_wordIndices _ _ _ _).mp hidx
    rw [Nat.sub_zero] at hat
    obtain ⟨hlt, hat⟩ := List.getElem?_eq_some_iff.mp hat
    refine ⟨j, hlt, ?_, by simpa using hspan.symm⟩
    simp [hat, renameAt, hcode, String.ofList_toList, hg, htext]

/-- Renaming a list of candidates, each a nonempty ASCII identifier that neither has the shape of
a generated name nor marks a literal as interpolating, obeys the renaming law. -/
theorem candidates_renames_code_occurrences {L : Language} {excluded : List String}
    {draws : Draws} {cands : List String} {code out : List Char} {m : RenameMap}
    (hsafe : ∀ k ∈ cands, SafeCandidate L k)
    (hrun : candidates L excluded draws cands code = some (out, m)) :
    RenameLaw L excluded cands code out m := by
  obtain ⟨s, hfold, hs⟩ := Option.map_eq_some_iff.mp hrun
  simp only [Prod.mk.injEq] at hs
  obtain ⟨rfl, rfl⟩ := hs
  have hr := Renamed.foldlM cands (renamed_start L excluded code draws) (by simpa using hsafe)
    hfold
  rw [List.nil_append] at hr
  refine ⟨hr.keys, hr.injective, hr.fresh,
    replaceEdits (renameAt (codeKinds L code) s.names) (chunks code) 0 (chunks code),
    mem_renameEdits hr hsafe, replaceEdits_pairwise _ _ _, ?_⟩
  have hsplice := splice_replaceEdits (renameAt (codeKinds L code) s.names) (chunks code)
  rwa [unchunk_chunks, ← hr.text] at hsplice

theorem candidates_renames_total :
    (∀ k ∈ ["total"], SafeCandidate .javaScript k) ∧
      candidates .javaScript [] (Draws.ofSeed 0) ["total"] "total = total + 1;".toList =
        some ("_0x6f7f = _0x6f7f + 1;".toList, ⟨[("total", "_0x6f7f")]⟩) ∧
      RenameLaw .javaScript [] ["total"] "total = total + 1;".toList
        "_0x6f7f = _0x6f7f + 1;".toList ⟨[("total", "_0x6f7f")]⟩ := by
  have hsafe : ∀ k ∈ ["total"], SafeCandidate .javaScript k := by
    intro k hk
    rw [List.mem_singleton] at hk
    subst hk
    decide
  have hrun : candidates .javaScript [] (Draws.ofSeed 0) ["total"] "total = total + 1;".toList =
      some ("_0x6f7f = _0x6f7f + 1;".toList, ⟨[("total", "_0x6f7f")]⟩) := by
    decide +kernel
  exact ⟨hsafe, hrun, candidates_renames_code_occurrences hsafe hrun⟩

/-- Without the conditions on the candidates the law fails: in JavaScript a candidate shaped like
a generated name is written into the text by the first renaming and then renamed itself, and in
Python renaming `f` leaves `x` in a plain literal, where it is no longer code. -/
theorem candidates_law_needs_safe_candidates :
    candidates .javaScript [] (Draws.ofSeed 0) ["total", "_0x6f7f"] "total".toList =
        some ("_0x3fb2".toList, ⟨[("_0x6f7f", "_0x3fb2"), ("total", "_0x6f7f")]⟩) ∧
      ¬ RenameLaw .javaScript [] ["total", "_0x6f7f"] "total".toList "_0x3fb2".toList
        ⟨[("_0x6f7f", "_0x3fb2"), ("total", "_0x6f7f")]⟩ ∧
      candidates .python [] (Draws.ofSeed 0) ["f", "x"] "f\"\x7bx\x7d\"".toList =
        some ("_var_6f7f\"\x7bx\x7d\"".toList, ⟨[("f", "_var_6f7f")]⟩) ∧
      ¬ RenameLaw .python [] ["f", "x"] "f\"\x7bx\x7d\"".toList "_var_6f7f\"\x7bx\x7d\"".toList
        ⟨[("f", "_var_6f7f")]⟩ := by
  refine ⟨by decide +kernel, fun h => ?_, by decide +kernel, fun h => ?_⟩
  · -- a candidate absent from the original gets a name
    have hcode := ((h.keys "_0x6f7f").mp (by decide)).2.2.2
    exact hcode (by decide +kernel)
  · -- a candidate standing in code in the original gets none
    have hnamed := (h.keys "x").mpr ⟨by decide, by decide, by decide, by decide +kernel⟩
    exact absurd hnamed (by decide)

end Rename
end Obfuscator
