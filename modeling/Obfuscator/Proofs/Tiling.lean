import Mathlib
import Obfuscator.Lexer
/-!
# Spans that tile a text

Scanning a text from the left cuts it into characters passed over and stretches matched. The
byte spans of the matched stretches then tile the text: they come in order, they never overlap,
and each of them starts and ends on a character boundary. `Tiling` states this as a relation,
read off the way a scan walks the text.

The main facts: every scan produces a tiling (`spansFrom_tiling`), whose spans come one after
another (`Tiling.pairwise`); any sublist of a tiling is a tiling; and splicing a text along a
tiling never fails, whatever texts replace the spans (`Tiling.splice_isSome`).
-/

namespace Obfuscator
namespace Text

/-! ## Cutting at byte offsets -/

theorem splitAtByte?_append (xs ys : List Char) (n : Nat) :
    splitAtByte? (xs ++ ys) (byteSize xs + n) =
      (splitAtByte? ys n).map fun p => (xs ++ p.1, p.2) := by
  induction xs with
  | nil =>
      simp
  | cons c cs ih =>
      have hpos : 0 < c.utf8Size := Char.utf8Size_pos c
      obtain ⟨k, hk⟩ : ∃ k, byteSize (c :: cs) + n = k + 1 :=
        ⟨byteSize (c :: cs) + n - 1, by simp; omega⟩
      have hle : c.utf8Size ≤ k + 1 := by rw [← hk]; simp; omega
      have hrest : k + 1 - c.utf8Size = byteSize cs + n := by rw [← hk]; simp; omega
      rw [List.cons_append, hk]
      simp [splitAtByte?, hle, hrest, ih, Option.map_map, Function.comp_def]

theorem splitAtByte?_zero (cs : List Char) : splitAtByte? cs 0 = some ([], cs) := by
  cases cs <;> rfl

theorem slice?_append (pre mid rest : List Char) :
    slice? (pre ++ mid ++ rest) (byteSize pre) (byteSize pre + byteSize mid) = some mid := by
  have hpre := splitAtByte?_append pre (mid ++ rest) 0
  rw [Nat.add_zero, splitAtByte?_zero] at hpre
  simp [slice?, List.append_assoc, hpre, splitAtByte?_byteSize_append]

theorem dropBytes?_append (pre rest : List Char) :
    dropBytes? (pre ++ rest) (byteSize pre) = some rest := by
  simp [dropBytes?, splitAtByte?_byteSize_append]

/-! ## Tilings -/

/-- `Tiling base text spans`: the spans lie one after another in `text`, whose first byte is
byte `base`, each covering whole characters. -/
inductive Tiling : Nat → List Char → List Span → Prop
  | nil (base : Nat) (text : List Char) : Tiling base text []
  | skip {base : Nat} {c : Char} {text : List Char} {spans : List Span} :
      Tiling (base + c.utf8Size) text spans → Tiling base (c :: text) spans
  | span {base : Nat} {piece text : List Char} {spans : List Span} :
      Tiling (base + byteSize piece) text spans →
      Tiling base (piece ++ text) (⟨base, base + byteSize piece⟩ :: spans)

namespace Tiling

theorem skipAll {base : Nat} {gap text : List Char} {spans : List Span}
    (h : Tiling (base + byteSize gap) text spans) : Tiling base (gap ++ text) spans := by
  induction gap generalizing base with
  | nil =>
      simpa using h
  | cons c cs ih =>
      apply Tiling.skip
      apply ih
      simpa [Nat.add_assoc] using h

theorem sublist {base : Nat} {text : List Char} {spans : List Span}
    (h : Tiling base text spans) : ∀ {kept : List Span}, List.Sublist kept spans →
      Tiling base text kept := by
  induction h with
  | nil base text =>
      intro kept hkept
      rw [List.sublist_nil.mp hkept]
      exact Tiling.nil base text
  | skip _ ih =>
      intro kept hkept
      exact Tiling.skip (ih hkept)
  | span _ ih =>
      intro kept hkept
      cases hkept with
      | cons _ hdrop =>
          exact skipAll (ih hdrop)
      | cons_cons _ hkeep =>
          exact Tiling.span (ih hkeep)

theorem spliceFrom_isSome {base : Nat} {text : List Char} {spans : List Span}
    (h : Tiling base text spans) :
    ∀ (pre gap : List Char) (edits : List Edit), byteSize pre + byteSize gap = base →
      edits.map Edit.span = spans →
      (spliceFrom (pre ++ gap ++ text) (byteSize pre) edits).isSome := by
  induction h with
  | nil base text =>
      intro pre gap edits _ hedits
      rw [List.map_eq_nil_iff.mp hedits, spliceFrom, List.append_assoc,
        dropBytes?_append]
      rfl
  | @skip base c text spans _ ih =>
      intro pre gap edits hbase hedits
      have hsource : pre ++ gap ++ c :: text = pre ++ (gap ++ [c]) ++ text := by simp
      rw [hsource]
      exact ih pre (gap ++ [c]) edits (by simp; omega) hedits
  | @span base piece text spans _ ih =>
      intro pre gap edits hbase hedits
      obtain ⟨e, es, rfl, hhead, htail⟩ := List.map_eq_cons_iff.mp hedits
      subst hbase
      have hgap : slice? (pre ++ gap ++ (piece ++ text)) (byteSize pre) e.span.start =
          some gap := by
        rw [hhead]
        exact slice?_append pre gap (piece ++ text)
      have hrest : (spliceFrom (pre ++ gap ++ (piece ++ text)) e.span.stop es).isSome := by
        have hnext := ih (pre ++ gap ++ piece) [] es (by simp [Nat.add_assoc]) htail
        simpa [hhead, Nat.add_assoc] using hnext
      obtain ⟨out, hout⟩ := Option.isSome_iff_exists.mp hrest
      rw [spliceFrom.eq_2, hgap, hout]
      rfl

theorem splice_isSome {text : List Char} {spans : List Span} (h : Tiling 0 text spans)
    {edits : List Edit} (hedits : edits.map Edit.span = spans) :
    (splice text edits).isSome := by
  simpa [splice] using spliceFrom_isSome h [] [] edits rfl hedits

theorem mem_cut {base : Nat} {text : List Char} {spans : List Span}
    (h : Tiling base text spans) :
    ∀ {s : Span}, s ∈ spans → ∃ pre mid rest, text = pre ++ mid ++ rest ∧
      s.start = base + byteSize pre ∧ s.stop = s.start + byteSize mid := by
  induction h with
  | nil =>
      intro s hs
      cases hs
  | @skip base c text spans _ ih =>
      intro s hs
      obtain ⟨pre, mid, rest, htext, hstart, hstop⟩ := ih hs
      exact ⟨c :: pre, mid, rest, by simp [htext], by simp [hstart]; omega, hstop⟩
  | @span base piece text spans _ ih =>
      intro s hs
      rcases List.mem_cons.mp hs with rfl | hs
      · exact ⟨[], piece, text, by simp, by simp, rfl⟩
      · obtain ⟨pre, mid, rest, htext, hstart, hstop⟩ := ih hs
        exact ⟨piece ++ pre, mid, rest, by simp [htext], by simp [hstart]; omega, hstop⟩

theorem slice?_isSome {text : List Char} {spans : List Span} (h : Tiling 0 text spans)
    {s : Span} (hs : s ∈ spans) :
    (slice? text 0 s.start).isSome ∧ (slice? text s.start s.stop).isSome := by
  obtain ⟨pre, mid, rest, rfl, hstart, hstop⟩ := h.mem_cut hs
  rw [Nat.zero_add] at hstart
  have hbefore := slice?_append [] pre (mid ++ rest)
  have hspan := slice?_append pre mid rest
  simp only [byteSize_nil, Nat.zero_add, List.nil_append, ← List.append_assoc] at hbefore
  rw [hstop, hstart]
  exact ⟨by rw [hbefore]; rfl, by rw [hspan]; rfl⟩

theorem start_ge {base : Nat} {text : List Char} {spans : List Span} (h : Tiling base text spans)
    {s : Span} (hs : s ∈ spans) : base ≤ s.start := by
  obtain ⟨pre, mid, rest, -, hstart, -⟩ := h.mem_cut hs
  omega

/-- The spans of a tiling come one after another. -/
theorem pairwise {base : Nat} {text : List Char} {spans : List Span}
    (h : Tiling base text spans) : spans.Pairwise fun a b => a.stop ≤ b.start := by
  induction h with
  | nil => exact List.Pairwise.nil
  | skip _ ih => exact ih
  | span hrest ih => exact List.Pairwise.cons (fun s hs => hrest.start_ge hs) ih

end Tiling

end Text

namespace Lexer

open Text

/-- A scan lays its matches out as a tiling of the text it scans. -/
theorem spansFrom_tiling (rule : Rule) (prev : Option Char) (offset : Nat)
    (text : List Char) : Tiling offset text (spansFrom rule prev offset text) := by
  fun_induction spansFrom rule prev offset text with
  | case1 =>
      exact Tiling.nil _ _
  | case2 prev offset c cs k hrule taken stop ih =>
      have hsplit : c :: cs = taken ++ (c :: cs).drop (k + 1) := (List.take_append_drop _ _).symm
      conv => lhs; rw [hsplit]
      exact Tiling.span ih
  | case3 prev offset c cs hrule ih =>
      exact Tiling.skip ih

theorem spans_tiling (rule : Rule) (text : List Char) : Tiling 0 text (spans rule text) :=
  spansFrom_tiling rule none 0 text

end Lexer
end Obfuscator
