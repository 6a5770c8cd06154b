import Obfuscator.Proofs.Recoding
import Obfuscator.Proofs.Renaming
import Obfuscator.Proofs.ModulePaths
/-!
# Renaming leaves the string layer alone

Renaming writes generated names over identifiers at code positions and nowhere else, while
recoding decides on each literal by its content, by whether it interpolates and by whether a
module-naming statement holds it. On chunks all three are read at the literal's chunk indices,
and a replacement of words by words at code positions keeps the indices, the kinds, every chunk
inside a literal that does not interpolate (`text_toLiteral_replaceChunks`), and the module-naming
statements. So every literal gets the same verdict from recoding before and after renaming
(`verdicts_replaceChunks`), and recoding the renamed text inserts the same decode expressions,
in the same order, as recoding the original (`renaming_keeps_recoded_literals`). Since a generated
name is no word of the original, no payload recoding inserts decodes to a text holding one.
-/

namespace Obfuscator

open Text Lexer

namespace Text

/-! ## Literals on chunks lie apart -/

theorem litIndices_pairwise (i : Nat) (ks : List Kind) :
    (litIndices i ks).Pairwise fun l l' => l.closing < l'.opening := by
  fun_induction litIndices i ks with
  | case1 => exact List.Pairwise.nil
  | case2 i c ks _ n hclose ih =>
      refine List.pairwise_cons.mpr ⟨fun l hl => ?_, ih⟩
      have := litIndices_bounds _ _ l hl
      show i + n + 1 < l.opening
      omega
  | case3 i c ks _ _ ih => exact ih
  | case4 i c ks _ ih => exact ih
  | case5 i marks ks ih => exact ih

theorem eq_of_inside {ks : List Kind} {l a : LiteralAt} (hl : l ∈ litIndices 0 ks)
    (ha : a ∈ litIndices 0 ks) {j : Nat} (hlj : l.opening < j ∧ j < l.closing)
    (haj : a.opening < j ∧ j < a.closing) : l = a := by
  by_contra hne
  have hbounds := litIndices_bounds 0 ks
  have hl' := hbounds l hl
  have ha' := hbounds a ha
  -- of two literals of the scan, one closes before the other opens
  rcases List.mem_iff_getElem.mp hl with ⟨p, hp, rfl⟩
  rcases List.mem_iff_getElem.mp ha with ⟨q, hq, rfl⟩
  have hpq : p ≠ q := fun h => hne (by subst h; rfl)
  rcases Nat.lt_or_gt_of_ne hpq with hlt | hlt
  · have := List.pairwise_iff_getElem.mp (litIndices_pairwise 0 ks) p q hp hq hlt
    omega
  · have := List.pairwise_iff_getElem.mp (litIndices_pairwise 0 ks) q p hq hp hlt
    omega

theorem codeAt_inside {ks : List Kind} {a : LiteralAt} (ha : a ∈ litIndices 0 ks)
    (hinterp : interpAt ks a.opening = false) {j : Nat} (hj : a.opening < j ∧ j < a.closing) :
    codeAt ks j = false := by
  unfold codeAt
  cases hf : (litIndices 0 ks).find? (fun l => l.opening < j && j < l.closing) with
  | none =>
      have := List.find?_eq_none.mp hf a ha
      simp [hj] at this
  | some l =>
      have hl := List.mem_of_find?_eq_some hf
      have hlj := List.find?_some hf
      simp only [Bool.and_eq_true, decide_eq_true_eq] at hlj
      dsimp only
      rw [eq_of_inside hl ha hlj hj, hinterp, Bool.false_and]

/-! ## Replacing chunks -/

theorem getElem?_replaceChunks (r : Nat → Chunk → Option (List Char)) :
    ∀ (i : Nat) (ks : List Chunk) (j : Nat),
      (replaceChunks r i ks)[j]? = ks[j]?.map (replaceChunk r (i + j))
  | _, [], _ => rfl
  | i, k :: ks, 0 => by simp [replaceChunks]
  | i, k :: ks, j + 1 => by
      rw [replaceChunks, List.getElem?_cons_succ, List.getElem?_cons_succ,
        getElem?_replaceChunks r (i + 1) ks j, Nat.add_right_comm, Nat.add_assoc]

theorem startsWithWord_take {ks : List Chunk} (h : startsWithWord ks = false) (n : Nat) :
    startsWithWord (ks.take n) = false := by
  cases ks with
  | nil => simp [startsWithWord]
  | cons k ks =>
      cases n with
      | zero => rfl
      | succ n => cases k <;> simp_all [startsWithWord]

theorem Chunked.take {cs : List Chunk} (h : Chunked cs) : ∀ n, Chunked (cs.take n) := by
  induction h with
  | nil => intro n; simpa using Chunked.nil
  | other hc _ ih =>
      intro n
      cases n with
      | zero => exact Chunked.nil
      | succ n => exact Chunked.other hc (ih n)
  | word hw hs _ ih =>
      intro n
      cases n with
      | zero => exact Chunked.nil
      | succ n => exact Chunked.word hw (startsWithWord_take hs n) (ih n)

theorem wordSpans_slice_eq_nil {cs : List Chunk} (hcs : Chunked cs) {v : List Char}
    (hv : IsWord v) (hnot : Chunk.word v ∉ cs) (n k : Nat) :
    wordSpans (unchunk ((cs.drop n).take k)) v = [] := by
  rw [wordSpans_unchunk hv ((hcs.drop n).take k), List.map_eq_nil_iff,
    List.eq_nil_iff_forall_not_mem]
  intro j hj
  obtain ⟨-, hat⟩ := (mem_wordIndices v j 0 _).mp hj
  exact hnot (List.mem_of_mem_drop (List.mem_of_mem_take (List.mem_of_getElem? hat)))

theorem forall₂_agree_replaceChunks {r : Nat → Chunk → Option (List Char)}
    (hr : ∀ j k t, r j k = some t → ∃ w, k = .word w ∧ w ∉ pathKeywords ∧ t ∉ pathKeywords) :
    ∀ (i : Nat) (ks : List Chunk), List.Forall₂ Chunk.Agree ks (replaceChunks r i ks)
  | _, [] => List.Forall₂.nil
  | i, k :: ks => by
      refine List.Forall₂.cons ?_ (forall₂_agree_replaceChunks hr (i + 1) ks)
      simp only [replaceChunk]
      split
      · rename_i t hk
        obtain ⟨w, rfl, hw, ht⟩ := hr i k t hk
        show w ∈ pathKeywords ∨ t ∈ pathKeywords → w = t
        rintro (h | h)
        exacts [absurd h hw, absurd h ht]
      · exact Chunk.Agree.refl k

end Text

/-! ## What recoding decides for a literal -/

namespace Recode

/-- What recoding does with a literal of `src`: nothing when it is not eligible, and else the
payload its content encodes to, if any. -/
def verdict (src : Source) (paths : List Span) (l : Literal) : Option (Option (List Char)) :=
  if eligible src paths l then some (payload? src l) else none

variable (src : Source) (paths : List Span)

theorem payloads_eq_verdicts (ls : List Literal) :
    (ls.filter fun l => eligible src paths l && (payload? src l).isSome).filterMap (payload? src) =
      (ls.map (verdict src paths)).filterMap Option.join := by
  induction ls with
  | nil => rfl
  | cons l ls ih =>
      simp only [List.filter_cons, List.map_cons, List.filterMap_cons, verdict]
      cases eligible src paths l <;> cases hp : payload? src l <;> simp [hp, ih]

theorem failed_eq_verdicts (ls : List Literal) :
    (ls.filter fun l => eligible src paths l && (payload? src l).isNone).length =
      (ls.map (verdict src paths)).count (some none) := by
  induction ls with
  | nil => rfl
  | cons l ls ih =>
      simp only [List.filter_cons, List.map_cons, verdict]
      cases eligible src paths l <;> cases payload? src l <;> simp [ih]

theorem not_isInterpolated_of_eligible {src : Source} {paths : List Span} {l : Literal}
    (h : eligible src paths l = true) : src.isInterpolated l = false := by
  simp only [eligible, Bool.and_eq_true, Bool.not_eq_true'] at h
  exact h.1.2

end Recode

namespace RecodeLaw

open Recode

variable {L : Language} {code : List Char} {o : Recoding} {rs : List (Literal × List Char)}
  {cuts : List Cut} {tail : List Char}

theorem payload?_of_mem (h : RecodeLaw L code o rs cuts tail) :
    ∀ x ∈ rs, payload? ⟨L, code⟩ x.1 = some x.2 := by
  have hall : List.Forall₂ (fun (x : Literal × List Char) (_ : Cut) =>
      payload? ⟨L, code⟩ x.1 = some x.2 ∧ True) rs cuts :=
    h.pieces.flip.imp fun x c hxc => ⟨by
      show (L.profile.charset.encode x.1.text).toOption = some x.2
      rw [hxc.1]
      rfl, trivial⟩
  exact ((List.forall₂_and_left rs cuts).mp hall).1

theorem map_snd (h : RecodeLaw L code o rs cuts tail) :
    rs.map Prod.snd = ((Source.literals ⟨L, code⟩).map
      (verdict ⟨L, code⟩ (Source.modulePathSpans ⟨L, code⟩))).filterMap Option.join := by
  have hpairs : rs.map Prod.snd = (rs.map Prod.fst).filterMap (payload? ⟨L, code⟩) := by
    have hpay := h.payload?_of_mem
    clear h
    induction rs with
    | nil => rfl
    | cons x rs ih =>
        simp only [List.map_cons, List.filterMap_cons, hpay x List.mem_cons_self]
        rw [ih fun y hy => hpay y (List.mem_cons_of_mem x hy)]
  rw [hpairs, h.literals, payloads_eq_verdicts]

theorem map_new (h : RecodeLaw L code o rs cuts tail) :
    cuts.map Cut.new = (rs.map Prod.snd).map (expression ⟨L, code⟩) := by
  have hpieces := h.pieces
  clear h
  rw [List.map_map]
  induction hpieces with
  | nil => rfl
  | cons hcx _ ih => simp [hcx.2.2.1, ih]

theorem decode_of_mem (h : RecodeLaw L code o rs cuts tail) {x : Literal × List Char}
    (hx : x ∈ rs) : L.profile.charset.decode x.2 = .ok x.1.text :=
  Charset.decode_encode (encode_of_payload? (h.payload?_of_mem x hx))

theorem isInterpolated_of_mem (h : RecodeLaw L code o rs cuts tail) {x : Literal × List Char}
    (hx : x ∈ rs) : Source.isInterpolated ⟨L, code⟩ x.1 = false := by
  have hmem : x.1 ∈ (Source.literals ⟨L, code⟩).filter fun l =>
      eligible ⟨L, code⟩ (Source.modulePathSpans ⟨L, code⟩) l &&
        (payload? ⟨L, code⟩ l).isSome := by
    rw [← h.literals]
    exact List.mem_map_of_mem hx
  have helig := (Bool.and_eq_true _ _).mp (List.mem_filter.mp hmem).2
  exact not_isInterpolated_of_eligible helig.1

end RecodeLaw

/-! ## Verdicts on a text with words replaced at code positions -/

namespace Text

open Recode

section Replaced

variable (L : Language) {r : Nat → Chunk → Option (List Char)} {cs : List Chunk}
  (hcs : Chunked cs) (hwords : WordsForWords r)
  (hkinds : kinds L.profile.interpolationMarker (replaceChunks r 0 cs) =
    kinds L.profile.interpolationMarker cs)
  (hcode : ∀ j k t, r j k = some t → codeAt (kinds L.profile.interpolationMarker cs) j = true)

include hcode in
/-- The content of a literal that does not interpolate is kept. -/
theorem text_toLiteral_replaceChunks {a : LiteralAt}
    (ha : a ∈ litIndices 0 (kinds L.profile.interpolationMarker cs))
    (hinterp : interpAt (kinds L.profile.interpolationMarker cs) a.opening = false) :
    (a.toLiteral (replaceChunks r 0 cs)).text = (a.toLiteral cs).text := by
  simp only [LiteralAt.toLiteral]
  congr 1
  apply List.ext_getElem?
  intro t
  simp only [List.getElem?_take, List.getElem?_drop, getElem?_replaceChunks, Nat.zero_add]
  split
  · rename_i ht
    cases hk : cs[a.opening + 1 + t]? with
    | none => rfl
    | some k =>
        -- the chunk lies strictly inside the literal, so it is no code and is kept
        have hnot := codeAt_inside ha hinterp (j := a.opening + 1 + t) ⟨by omega, by omega⟩
        simp only [Option.map_some, replaceChunk]
        cases hr : r (a.opening + 1 + t) k with
        | none => rfl
        | some t' =>
            have := hcode _ _ _ hr
            rw [hnot] at this
            cases this
  · rfl

theorem any_holeSpan (cs : List Chunk) (hne : ∀ k ∈ cs, k.chars ≠ []) (a : LiteralAt)
    (ha : a.closing + 1 ≤ cs.length) :
    ∀ idx : List (Nat × Nat), (∀ p ∈ idx, p.1 < p.2 ∧ p.2 ≤ cs.length) →
      (idx.map (holeSpan cs)).any (fun p => p.start ≤ (a.toLiteral cs).span.start &&
        (a.toLiteral cs).span.stop ≤ p.stop) =
      idx.any fun p => decide (p.1 ≤ a.opening) && decide (a.closing + 1 ≤ p.2)
  | [], _ => rfl
  | p :: idx, hb => by
      have hp := hb p List.mem_cons_self
      have hrest := any_holeSpan cs hne a ha idx fun q hq => hb q (List.mem_cons_of_mem p hq)
      rw [List.map_cons, List.any_cons, hrest, List.any_cons]
      simp only [holeSpan, LiteralAt.toLiteral, pos_le_pos_iff hne (show p.1 ≤ cs.length by omega),
        pos_le_pos_iff hne ha]

include hcs hwords hkinds in
theorem isInterpolated_toLiteral_replaceChunks {a : LiteralAt}
    (ha : a ∈ litIndices 0 (kinds L.profile.interpolationMarker cs)) :
    Source.isInterpolated ⟨L, unchunk (replaceChunks r 0 cs)⟩ (a.toLiteral (replaceChunks r 0 cs)) =
      interpAt (kinds L.profile.interpolationMarker cs) a.opening := by
  have hbound := litIndices_bounds 0 _ a ha
  simp only [length_kinds, Nat.zero_add] at hbound
  rw [Source.isInterpolated_unchunk L (hcs.replaceChunks hwords 0) (by simp; omega) rfl, hkinds]

include hcs hwords hkinds hcode in
theorem verdict_toLiteral_replaceChunks
    (hpaths : SameChunkSpans cs (replaceChunks r 0 cs) (Source.modulePathSpans ⟨L, unchunk cs⟩)
      (Source.modulePathSpans ⟨L, unchunk (replaceChunks r 0 cs)⟩))
    {a : LiteralAt} (ha : a ∈ litIndices 0 (kinds L.profile.interpolationMarker cs)) :
    verdict ⟨L, unchunk (replaceChunks r 0 cs)⟩
        (Source.modulePathSpans ⟨L, unchunk (replaceChunks r 0 cs)⟩)
        (a.toLiteral (replaceChunks r 0 cs)) =
      verdict ⟨L, unchunk cs⟩ (Source.modulePathSpans ⟨L, unchunk cs⟩) (a.toLiteral cs) := by
  obtain ⟨idx, hpath, hpath', hidx⟩ := hpaths
  have hcs' := hcs.replaceChunks hwords 0
  have hlen : (replaceChunks r 0 cs).length = cs.length := length_replaceChunks 0 cs
  have hbound := litIndices_bounds 0 _ a ha
  simp only [length_kinds, Nat.zero_add] at hbound
  have hinterp := Source.isInterpolated_unchunk L hcs (show a.opening ≤ cs.length by omega)
    (l := a.toLiteral cs) rfl
  have hinterp' := isInterpolated_toLiteral_replaceChunks L hcs hwords hkinds ha
  -- the statements holding the literal are read on the chunk indices
  have hany := any_holeSpan cs hcs.chars_ne_nil a (by omega) idx hidx
  have hany' := any_holeSpan (replaceChunks r 0 cs) hcs'.chars_ne_nil a (by omega) idx
    fun p hp => by rw [hlen]; exact hidx p hp
  unfold verdict eligible payload?
  rw [hpath, hpath', hany, hany', hinterp, hinterp']
  cases hi : interpAt (kinds L.profile.interpolationMarker cs) a.opening with
  | true => simp
  | false =>
      rw [text_toLiteral_replaceChunks L hcode ha hi]
      rfl

include hcs hwords hkinds hcode in
/-- The literals of the text with words replaced get, in order, the verdicts the literals of
the original get. -/
theorem verdicts_replaceChunks
    (hpaths : SameChunkSpans cs (replaceChunks r 0 cs) (Source.modulePathSpans ⟨L, unchunk cs⟩)
      (Source.modulePathSpans ⟨L, unchunk (replaceChunks r 0 cs)⟩)) :
    (Source.literals ⟨L, unchunk (replaceChunks r 0 cs)⟩).map
        (verdict ⟨L, unchunk (replaceChunks r 0 cs)⟩
          (Source.modulePathSpans ⟨L, unchunk (replaceChunks r 0 cs)⟩)) =
      (Source.literals ⟨L, unchunk cs⟩).map
        (verdict ⟨L, unchunk cs⟩ (Source.modulePathSpans ⟨L, unchunk cs⟩)) := by
  have hcs' := hcs.replaceChunks hwords 0
  rw [Source.literals, Source.literals,
    literals_unchunk L.profile.interpolationMarker hcs'.wordChunks, hkinds,
    literals_unchunk L.profile.interpolationMarker hcs.wordChunks, List.map_map, List.map_map]
  exact List.map_congr_left fun a ha =>
    verdict_toLiteral_replaceChunks L hcs hwords hkinds hcode hpaths ha

include hcs hwords hkinds hcode in
theorem wordSpans_text_replaceChunks {l : Literal}
    (hl : l ∈ Source.literals ⟨L, unchunk (replaceChunks r 0 cs)⟩)
    (hinterp : Source.isInterpolated ⟨L, unchunk (replaceChunks r 0 cs)⟩ l = false)
    {v : List Char} (hv : IsWord v) (hnot : Chunk.word v ∉ cs) :
    wordSpans l.text v = [] := by
  rw [Source.literals, literals_unchunk L.profile.interpolationMarker
    (hcs.replaceChunks hwords 0).wordChunks, hkinds] at hl
  obtain ⟨a, ha, rfl⟩ := List.mem_map.mp hl
  rw [isInterpolated_toLiteral_replaceChunks L hcs hwords hkinds ha] at hinterp
  rw [text_toLiteral_replaceChunks L hcode ha hinterp]
  exact wordSpans_slice_eq_nil hcs hv hnot _ _

end Replaced

end Text

/-! ## Renaming -/

theorem IsGeneratedName.not_mem_pathKeywords {L : Language} {g : String}
    (h : IsGeneratedName L.profile.renamePrefix g) : g.toList ∉ pathKeywords := by
  obtain ⟨digits, hname, -, -⟩ := h
  have hhead : g.toList.head? = some '_' := by
    rw [hname]
    cases L <;> rfl
  intro hmem
  simp only [pathKeywords, List.mem_cons, List.not_mem_nil, or_false] at hmem
  rcases hmem with h | h | h <;> rw [h] at hhead <;> simp at hhead

namespace Rename

theorem renameCandidates_safe (L : Language) :
    ∀ k ∈ L.profile.renameCandidates, SafeCandidate L k ∧ k.toList ∉ pathKeywords := by
  cases L <;> decide

theorem run_renamed {L : Language} {excluded : List String} {draws : Draws}
    {code out : List Char} {m : RenameMap} (hL : L.profile.renames = true)
    (hrun : run L excluded draws code = some (out, m)) :
    ∃ s, Renamed L excluded code L.profile.renameCandidates s ∧ s.code = out ∧ s.names = m := by
  rw [run, if_pos hL] at hrun
  obtain ⟨s, hfold, hs⟩ := Option.map_eq_some_iff.mp hrun
  simp only [Prod.mk.injEq] at hs
  have hr := Renamed.foldlM _ (renamed_start L excluded code draws)
    (by simpa using fun k hk => (renameCandidates_safe L k hk).1) hfold
  rw [List.nil_append] at hr
  exact ⟨s, hr, hs.1, hs.2⟩

variable {L : Language} {excluded : List String} {code : List Char} {cands : List String}
  {s : State}

theorem Renamed.replaces (hr : Renamed L excluded code cands s)
    (hcands : ∀ k ∈ cands, SafeCandidate L k ∧ k.toList ∉ pathKeywords) :
    ∀ j k t, renameAt (codeKinds L code) s.names j k = some t →
      ∃ w, k = .word w ∧ w ∉ pathKeywords ∧ t ∉ pathKeywords := by
  intro j k t h
  obtain ⟨w, g, rfl, -, hg, rfl⟩ := renameAt_eq_some h
  have hk := ((hr.keys _).mp (by rw [hg]; rfl)).1
  refine ⟨w, rfl, ?_, (hr.fresh _ g hg).1.not_mem_pathKeywords⟩
  have := (hcands _ hk).2
  rwa [String.toList_ofList] at this

theorem Renamed.modulePaths (hr : Renamed L excluded code cands s)
    (hcands : ∀ k ∈ cands, SafeCandidate L k ∧ k.toList ∉ pathKeywords)
    (hL : L.profile.renames = true) :
    SameChunkSpans (chunks code)
      (replaceChunks (renameAt (codeKinds L code) s.names) 0 (chunks code))
      (Source.modulePathSpans ⟨L, unchunk (chunks code)⟩) (Source.modulePathSpans ⟨L, s.code⟩) := by
  rw [hr.text]
  cases L with
  | javaScript =>
      exact modulePathSpans_agree (chunks_chunked code) hr.chunked
        (forall₂_agree_replaceChunks (hr.replaces hcands) 0 (chunks code))
  | python => exact ⟨[], rfl, rfl, by simp⟩
  | php | go | java => cases hL

end Rename

/-! ## The string layer after renaming -/

open Recode Rename in
theorem renaming_keeps_verdicts {L : Language} {excluded : List String} {draws : Draws}
    {code out : List Char} {m : RenameMap}
    (hrun : Rename.run L excluded draws code = some (out, m)) :
    (Source.literals ⟨L, out⟩).map (verdict ⟨L, out⟩ (Source.modulePathSpans ⟨L, out⟩)) =
      (Source.literals ⟨L, code⟩).map (verdict ⟨L, code⟩ (Source.modulePathSpans ⟨L, code⟩)) ∧
    ∀ l ∈ Source.literals ⟨L, out⟩, Source.isInterpolated ⟨L, out⟩ l = false →
      ∀ k g, m.get? k = some g → wordSpans l.text g.toList = [] := by
  by_cases hL : L.profile.renames = true
  · obtain ⟨s, hr, rfl, rfl⟩ := run_renamed hL hrun
    have hcands := renameCandidates_safe L
    have hsafe : ∀ k ∈ L.profile.renameCandidates, SafeCandidate L k := fun k hk => (hcands k hk).1
    have hcs := chunks_chunked code
    have hwords := hr.wordsForWords
    have hkinds := hr.kinds_eq hsafe
    have hcode : ∀ j k t, renameAt (codeKinds L code) s.names j k = some t →
        codeAt (codeKinds L code) j = true := fun j k t h => by
      obtain ⟨w, g, -, hj, -⟩ := renameAt_eq_some h
      exact hj
    have hpaths := hr.modulePaths hcands hL
    rw [hr.text] at hpaths ⊢
    refine ⟨?_, fun l hl hi k g hg => ?_⟩
    · -- every literal gets the same verdict in the renamed text as in the original
      have h := verdicts_replaceChunks L hcs hwords hkinds hcode hpaths
      rwa [unchunk_chunks] at h
    · -- a generated name is no word of the original
      have hfresh := hr.fresh k g hg
      have hnot : Chunk.word g.toList ∉ chunks code := by
        intro hmem
        have hword := hfresh.2
        rw [containsWord_chunks L code hfresh.1.isWord] at hword
        obtain ⟨j, hj⟩ := List.getElem?_of_mem hmem
        have hidx : j ∈ wordIndices g.toList 0 (chunks code) :=
          (mem_wordIndices _ j 0 _).mpr ⟨Nat.zero_le j, by simpa using hj⟩
        simp [List.ne_nil_of_mem hidx] at hword
      exact wordSpans_text_replaceChunks L hcs hwords hkinds hcode hl hi hfresh.1.isWord hnot
  · -- a language that does not rename keeps the text, with an empty table
    rw [Rename.run, if_neg hL, Option.some.injEq, Prod.mk.injEq] at hrun
    obtain ⟨rfl, rfl⟩ := hrun
    exact ⟨rfl, fun l _ _ k g hg => by simp at hg⟩

open Recode Rename in
/-- Renaming leaves the string layer alone: recoding the renamed text and recoding the original
give the same counts and insert the same decode expressions, of the same payloads, in the same
order; and no payload recoding inserts into the renamed text decodes to a text that holds a
generated name as a whole word. -/
theorem renaming_keeps_recoded_literals (L : Language) (excluded : List String) (draws : Draws)
    {code out : List Char} {m : RenameMap}
    (hrun : Rename.run L excluded draws code = some (out, m)) :
    ∃ o o', Recode.run L out = some o ∧ Recode.run L code = some o' ∧
      o.recoded = o'.recoded ∧ o.failed = o'.failed ∧
      ∃ rs cuts tail rs' cuts' tail', RecodeLaw L out o rs cuts tail ∧
        RecodeLaw L code o' rs' cuts' tail' ∧
        rs.map Prod.snd = rs'.map Prod.snd ∧ cuts.map Cut.new = cuts'.map Cut.new ∧
        ∀ x ∈ rs, ∀ d, L.profile.charset.decode x.2 = .ok d →
          ∀ k g, m.get? k = some g → wordSpans d g.toList = [] := by
  obtain ⟨hverdicts, hnames⟩ := renaming_keeps_verdicts hrun
  obtain ⟨o, hrun', rs, cuts, tail, hlaw⟩ := run_law L out
  obtain ⟨o', hrun'', rs', cuts', tail', hlaw'⟩ := run_law L code
  have hsnd : rs.map Prod.snd = rs'.map Prod.snd := by
    rw [hlaw.map_snd, hlaw'.map_snd, hverdicts]
  refine ⟨o, o', hrun', hrun'', ?_, ?_, rs, cuts, tail, rs', cuts', tail', hlaw, hlaw', hsnd,
    ?_, ?_⟩
  · rw [hlaw.recoded, hlaw'.recoded, ← List.length_map Prod.snd, hsnd, List.length_map]
  · rw [hlaw.failed, hlaw'.failed, failed_eq_verdicts, failed_eq_verdicts, hverdicts]
  · rw [hlaw.map_new, hlaw'.map_new, hsnd]
    rfl
  · -- a replaced payload decodes to the content of a literal that does not interpolate
    intro x hx d hd k g hg
    rw [hlaw.decode_of_mem hx, Except.ok.injEq] at hd
    subst hd
    exact hnames x.1 (hlaw.mem_literals hx) (hlaw.isInterpolated_of_mem hx) k g hg

/-- In JavaScript, `total` is renamed and the literal after it is recoded as before. -/
theorem renaming_total_keeps_recoded_literals :
    Rename.run .javaScript [] (Draws.ofSeed 0) "total = \"ab\";".toList =
        some ("_0x6f7f = \"ab\";".toList, ⟨[("total", "_0x6f7f")]⟩) ∧
    ∃ o o', Recode.run .javaScript "_0x6f7f = \"ab\";".toList = some o ∧
      Recode.run .javaScript "total = \"ab\";".toList = some o' ∧
      o.recoded = o'.recoded ∧ o.failed = o'.failed ∧
      ∃ rs cuts tail rs' cuts' tail', RecodeLaw .javaScript "_0x6f7f = \"ab\";".toList o rs cuts tail ∧
        RecodeLaw .javaScript "total = \"ab\";".toList o' rs' cuts' tail' ∧
        rs.map Prod.snd = rs'.map Prod.snd ∧ cuts.map Cut.new = cuts'.map Cut.new ∧
        ∀ x ∈ rs, ∀ d, Language.javaScript.profile.charset.decode x.2 = .ok d →
          ∀ k g, (⟨[("total", "_0x6f7f")]⟩ : RenameMap).get? k = some g →
            wordSpans d g.toList = [] := by
  have hrun : Rename.run .javaScript [] (Draws.ofSeed 0) "total = \"ab\";".toList =
      some ("_0x6f7f = \"ab\";".toList, ⟨[("total", "_0x6f7f")]⟩) := by
    decide +kernel
  exact ⟨hrun, renaming_keeps_recoded_literals .javaScript [] (Draws.ofSeed 0) hrun⟩

end Obfuscator
