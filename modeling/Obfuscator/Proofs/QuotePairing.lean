import Mathlib
import Obfuscator.Proofs.Totality
/-!
# Quote pairing

The scan for quoted literals pairs quotes greedily from the left: a quote opens a literal when
the same quote comes again on its line, and the literal closes at the first such quote; the scan
goes on after it. This module states what that pairing is without the scan (`QuotePairing`):
literals that come one after another, each a quote, a one-line text without that quote, and
the quote again, standing where its span says, such that no quote outside them has a partner
later on its line. Main statement: the scan's literals are exactly the list with these
properties (`Source.literals_eq_iff_quotePairing`), so every use of the literals can rest on the
properties alone.

Both directions go along the scan's own recursion. Soundness puts a skipped character or a
closed literal in front of a pairing of the rest (`QuotePairing.cons`, `QuotePairing.literal`);
uniqueness takes them off again (`QuotePairing.drop`), after showing that a quote with a partner
on its line is covered by a literal that must start at it.
-/
namespace Obfuscator

namespace Text

theorem exists_append_of_byteSize_le {a pre xs ys : List Char} (h : a ++ xs = pre ++ ys)
    (hle : byteSize a ≤ byteSize pre) : ∃ mid, pre = a ++ mid ∧ xs = mid ++ ys := by
  rcases List.append_eq_append_iff.mp h with ⟨mid, hpre, hxs⟩ | ⟨mid, ha, hys⟩
  · exact ⟨mid, hpre, hxs⟩
  · -- the first part is the longer one: what it has beyond `pre` takes no bytes, so is empty
    have hmid : mid = [] := by
      by_contra hne
      have := byteSize_pos hne
      rw [ha, byteSize_append] at hle
      omega
    subst hmid
    exact ⟨[], by simpa using ha.symm, by simpa using hys.symm⟩

end Text

namespace Span

def Covers (s : Span) (p : Nat) : Prop := s.start ≤ p ∧ p < s.stop

end Span

namespace Literal

open Text

variable {l : Literal} {text pre rest : List Char} {offset : Nat}

theorem byteSize_chars (l : Literal) :
    byteSize l.chars = l.quote.utf8Size + byteSize l.text + l.quote.utf8Size := by
  simp [chars]
  omega

namespace StandsIn

theorem start_ge (h : l.StandsIn text offset) : offset ≤ l.span.start := by
  obtain ⟨⟨pre, rest, -, hstart⟩, -, -, -⟩ := h
  omega

theorem stop_eq (h : l.StandsIn text offset) : l.span.stop = l.span.start + byteSize l.chars := by
  obtain ⟨-, hcstart, hcstop, hstop⟩ := h
  rw [byteSize_chars]
  omega

theorem start_lt_stop (h : l.StandsIn text offset) : l.span.start < l.span.stop := by
  have := Char.utf8Size_pos l.quote
  rw [h.stop_eq, byteSize_chars]
  omega

/-- A literal that starts after a first part of the text stands in the rest. -/
theorem drop (h : l.StandsIn (pre ++ rest) offset) (hle : offset + byteSize pre ≤ l.span.start) :
    l.StandsIn rest (offset + byteSize pre) := by
  obtain ⟨⟨pre', post, htext, hstart⟩, h₁, h₂, h₃⟩ := h
  have hle' : byteSize pre ≤ byteSize pre' := by omega
  obtain ⟨mid, rfl, hrest⟩ := exists_append_of_byteSize_le (by simpa using htext) hle'
  refine ⟨⟨mid, post, by simpa using hrest, ?_⟩, h₁, h₂, h₃⟩
  simp only [byteSize_append] at hstart
  omega

theorem at_start (h : l.StandsIn text offset) (hstart : l.span.start = offset) :
    ∃ rest, text = l.chars ++ rest := by
  obtain ⟨⟨pre, rest, htext, hpre⟩, -, -, -⟩ := h
  have hnil : pre = [] := by
    by_contra hne
    have := byteSize_pos hne
    omega
  subst hnil
  exact ⟨rest, by simpa using htext⟩

end StandsIn

end Literal

namespace Lexer

open Text

theorem closeLiteral_clean {q : Char} {cs body rest : List Char}
    (h : closeLiteral q cs = some (body, rest)) : q ∉ body ∧ '\n' ∉ body := by
  have hbody : body = cs.takeWhile fun c => c != q && c != '\n' := by
    unfold closeLiteral at h
    dsimp only at h
    split at h
    · split at h
      · simp only [Option.some.injEq, Prod.mk.injEq] at h
        exact h.1.symm
      · cases h
    · cases h
  constructor
  · intro hq
    have := List.mem_takeWhile_imp (hbody ▸ hq)
    simp at this
  · intro hn
    have := List.mem_takeWhile_imp (hbody ▸ hn)
    simp at this

theorem closeLiteral_of_clean {q : Char} {body : List Char} (hq : q ∉ body) (hn : '\n' ∉ body)
    (rest : List Char) : closeLiteral q (body ++ q :: rest) = some (body, rest) := by
  have hw : ∀ c ∈ body, c ≠ q ∧ c ≠ '\n' :=
    fun c hc => ⟨fun h => hq (h ▸ hc), fun h => hn (h ▸ hc)⟩
  rw [closeLiteral_append q hw, closeLiteral_cons, if_pos rfl]
  simp

theorem closeLiteral_eq_none_iff {q : Char} (hq : q ≠ '\n') :
    ∀ {cs : List Char}, closeLiteral q cs = none ↔ q ∉ cs.takeWhile (· != '\n')
  | [] => by simp [closeLiteral_nil]
  | c :: cs => by
      rw [closeLiteral_cons]
      by_cases hcq : c = q
      · subst hcq
        simp [hq]
      · by_cases hcn : c = '\n'
        · subst hcn
          simp [hcq]
        · have hne : q ≠ c := fun h => hcq h.symm
          simp [hcq, hcn, hne, closeLiteral_eq_none_iff hq]

theorem isQuote_ne_newline {q : Char} (h : isQuote q = true) : q ≠ '\n' := by
  rintro rfl
  simp [isQuote] at h

/-- `QuotePairing text offset ls`: the literals `ls` pair the quotes of `text`, whose first
byte is byte `offset`, as a scan from the left does. Each literal is a quote, a text on one line
without that quote, and the quote again, standing where its span says; the spans come one after
another; and a quote outside every literal has no partner after it on its line. -/
structure QuotePairing (text : List Char) (offset : Nat) (ls : List Literal) : Prop where
  ordered : ls.Pairwise fun a b => a.span.stop ≤ b.span.start
  standsIn : ∀ l ∈ ls, l.StandsIn text offset
  quote : ∀ l ∈ ls, isQuote l.quote = true
  oneLine : ∀ l ∈ ls, l.quote ∉ l.text ∧ '\n' ∉ l.text
  unpaired : ∀ pre q post, text = pre ++ q :: post → isQuote q = true →
    (∀ l ∈ ls, ¬ l.span.Covers (offset + byteSize pre)) → q ∉ post.takeWhile (· != '\n')

namespace QuotePairing

variable {text cs rest : List Char} {offset : Nat} {c : Char} {lit : Literal} {ls : List Literal}

theorem nil (offset : Nat) : QuotePairing [] offset [] where
  ordered := List.Pairwise.nil
  standsIn := by simp
  quote := by simp
  oneLine := by simp
  unpaired := by
    intro pre q post h
    simp at h

/-- A character that opens no literal goes in front of a pairing. -/
theorem cons (h : QuotePairing cs (offset + c.utf8Size) ls)
    (hc : isQuote c = true → c ∉ cs.takeWhile (· != '\n')) : QuotePairing (c :: cs) offset ls where
  ordered := h.ordered
  standsIn l hl := (h.standsIn l hl).cons
  quote := h.quote
  oneLine := h.oneLine
  unpaired := by
    intro pre q post htext hq hfree
    cases pre with
    | nil =>
        simp only [List.nil_append, List.cons.injEq] at htext
        obtain ⟨rfl, rfl⟩ := htext
        exact hc hq
    | cons d pre =>
        simp only [List.cons_append, List.cons.injEq] at htext
        obtain ⟨rfl, hcs⟩ := htext
        apply h.unpaired pre q post hcs hq
        intro l hl
        have := hfree l hl
        simpa [Nat.add_assoc] using this

/-- A literal goes in front of a pairing of the text after it. -/
theorem literal (h : QuotePairing rest (offset + byteSize lit.chars) ls)
    (hlit : lit.StandsIn (lit.chars ++ rest) offset) (hstart : lit.span.start = offset)
    (hq : isQuote lit.quote = true) (hclean : lit.quote ∉ lit.text ∧ '\n' ∉ lit.text) :
    QuotePairing (lit.chars ++ rest) offset (lit :: ls) where
  ordered := by
    refine List.Pairwise.cons (fun l hl => ?_) h.ordered
    have hstop := hlit.stop_eq
    have hafter := (h.standsIn l hl).start_ge
    omega
  standsIn := List.forall_mem_cons.mpr ⟨hlit, fun l hl => (h.standsIn l hl).append⟩
  quote := List.forall_mem_cons.mpr ⟨hq, h.quote⟩
  oneLine := List.forall_mem_cons.mpr ⟨hclean, h.oneLine⟩
  unpaired := by
    intro pre q post htext hq' hfree
    by_cases hle : byteSize lit.chars ≤ byteSize pre
    · -- the quote stands after the literal, in the rest
      obtain ⟨mid, rfl, hrest⟩ := exists_append_of_byteSize_le htext hle
      apply h.unpaired mid q post hrest hq'
      intro l hl
      have := hfree l (List.mem_cons_of_mem lit hl)
      simpa [Nat.add_assoc] using this
    · -- the quote stands inside the literal, which covers it
      exfalso
      have hstop := hlit.stop_eq
      exact hfree lit List.mem_cons_self ⟨by omega, by omega⟩

/-- Dropping a first part of the text, and the literals that end in it, leaves a pairing of
the rest. -/
theorem drop {pre : List Char} {done : List Literal}
    (h : QuotePairing (pre ++ rest) offset (done ++ ls))
    (hdone : ∀ l ∈ done, l.span.stop ≤ offset + byteSize pre)
    (hls : ∀ l ∈ ls, offset + byteSize pre ≤ l.span.start) :
    QuotePairing rest (offset + byteSize pre) ls where
  ordered := (List.pairwise_append.mp h.ordered).2.1
  standsIn l hl := (h.standsIn l (List.mem_append_right _ hl)).drop (hls l hl)
  quote l hl := h.quote l (List.mem_append_right _ hl)
  oneLine l hl := h.oneLine l (List.mem_append_right _ hl)
  unpaired := by
    intro p q post htext hq hfree
    apply h.unpaired (pre ++ p) q post (by simp [htext]) hq
    intro l hl hcov
    rcases List.mem_append.mp hl with hl | hl
    · have := hdone l hl
      simp only [Span.Covers, byteSize_append] at hcov
      omega
    · exact hfree l hl (by simpa [Nat.add_assoc] using hcov)

theorem eq_nil (h : QuotePairing [] offset ls) : ls = [] := by
  cases ls with
  | nil => rfl
  | cons l ls =>
      obtain ⟨⟨pre, rest, htext, -⟩, -, -, -⟩ := h.standsIn l List.mem_cons_self
      simp [Literal.chars] at htext

theorem head_of_start {l : Literal} (h : QuotePairing text offset ls) (hl : l ∈ ls)
    (hstart : l.span.start = offset) : ∃ t, ls = l :: t := by
  cases ls with
  | nil => cases hl
  | cons l' t =>
      rcases List.mem_cons.mp hl with rfl | hl
      · exact ⟨t, rfl⟩
      · exfalso
        have hord := List.rel_of_pairwise_cons h.ordered hl
        have h₁ := (h.standsIn l' List.mem_cons_self).start_ge
        have h₂ := (h.standsIn l' List.mem_cons_self).start_lt_stop
        omega

theorem literal_at_start {l : Literal} (h : QuotePairing (c :: cs) offset ls) (hl : l ∈ ls)
    (hstart : l.span.start = offset) :
    c = l.quote ∧ ∃ rest, closeLiteral c cs = some (l.text, rest) := by
  obtain ⟨rest, htext⟩ := (h.standsIn l hl).at_start hstart
  simp only [Literal.chars, List.cons_append, List.cons.injEq, List.append_assoc] at htext
  obtain ⟨rfl, hcs⟩ := htext
  obtain ⟨hq, hn⟩ := h.oneLine l hl
  exact ⟨rfl, rest, hcs ▸ closeLiteral_of_clean hq hn rest⟩

theorem exists_start_of_paired (h : QuotePairing (c :: cs) offset ls) (hq : isQuote c = true)
    (hpaired : c ∈ cs.takeWhile (· != '\n')) : ∃ l ∈ ls, l.span.start = offset := by
  obtain ⟨l, hl, hcov⟩ : ∃ l ∈ ls, l.span.Covers offset := by
    by_contra hnone
    exact h.unpaired [] c cs rfl hq (fun l hl hcov => hnone ⟨l, hl, by simpa using hcov⟩) hpaired
  exact ⟨l, hl, le_antisymm hcov.1 (h.standsIn l hl).start_ge⟩

theorem drop_head {l : Literal} {t : List Literal}
    (h : QuotePairing (l.chars ++ rest) offset (l :: t)) (hstart : l.span.start = offset) : QuotePairing rest (offset + byteSize l.chars) t := by
  have hstop : l.span.stop = offset + byteSize l.chars := by
    rw [(h.standsIn l List.mem_cons_self).stop_eq, hstart]
  have h' : QuotePairing (l.chars ++ rest) offset ([l] ++ t) := h
  apply QuotePairing.drop h'
  · simp [hstop]
  · intro l' hl'
    have := List.rel_of_pairwise_cons h.ordered hl'
    omega

theorem tail (h : QuotePairing (c :: cs) offset ls) (hne : ∀ l ∈ ls, l.span.start ≠ offset) :
    QuotePairing cs (offset + c.utf8Size) ls := by
  have hls : ∀ l ∈ ls, offset + byteSize [c] ≤ l.span.start := by
    intro l hl
    obtain ⟨⟨pre, post, htext, hpre⟩, -, -, -⟩ := h.standsIn l hl
    cases pre with
    | nil => exact absurd (by simpa using hpre) (hne l hl)
    | cons d pre =>
        simp only [byteSize_cons, byteSize_nil, List.cons_append, List.cons.injEq] at hpre htext ⊢
        obtain ⟨rfl, -⟩ := htext
        omega
  have h' : QuotePairing ([c] ++ cs) offset ([] ++ ls) := by simpa using h
  simpa using QuotePairing.drop h' (by simp) hls

end QuotePairing

theorem literalsFrom_pairing (offset : Nat) (text : List Char) :
    QuotePairing text offset (literalsFrom offset text) := by
  fun_induction literalsFrom offset text with
  | case1 offset => exact QuotePairing.nil offset
  | case2 offset c cs hq body rest hc contentStart contentStop ih =>
      have hcs := closeLiteral_eq_some hc
      have hstop : contentStop + c.utf8Size = offset + byteSize (c :: (body ++ [c])) :=
        byteSize_closed offset c body
      let lit : Literal :=
        { quote := c, span := ⟨offset, contentStop + c.utf8Size⟩,
          content := ⟨contentStart, contentStop⟩, text := body }
      have htext : c :: cs = lit.chars ++ rest := by simp [lit, Literal.chars, hcs]
      rw [hstop] at ih
      have hpaired := @QuotePairing.literal rest offset lit _ ih
        ⟨⟨[], rest, rfl, by simp [lit]⟩, rfl, rfl, rfl⟩ rfl hq (closeLiteral_clean hc)
      rw [← hstop] at hpaired
      rw [htext]
      exact hpaired
  | case3 offset c cs hq hc ih =>
      exact QuotePairing.cons ih fun _ => (closeLiteral_eq_none_iff (isQuote_ne_newline hq)).mp hc
  | case4 offset c cs hq ih =>
      exact QuotePairing.cons ih fun h => absurd h hq

theorem eq_literalsFrom_of_pairing (offset : Nat) (text : List Char) :
    ∀ ls : List Literal, QuotePairing text offset ls → ls = literalsFrom offset text := by
  fun_induction literalsFrom offset text with
  | case1 offset =>
      intro ls h
      exact h.eq_nil
  | case2 offset c cs hq body rest hc contentStart contentStop ih =>
      intro ls h
      -- the opening quote has a partner on its line, so a literal starts at it
      have hpaired : c ∈ cs.takeWhile (· != '\n') := by
        by_contra hnot
        rw [← closeLiteral_eq_none_iff (isQuote_ne_newline hq), hc] at hnot
        cases hnot
      obtain ⟨l, hl, hstart⟩ := h.exists_start_of_paired hq hpaired
      -- that literal is the one the scan builds, and it comes first
      obtain ⟨hquote, rest', hclose⟩ := h.literal_at_start hl hstart
      rw [hc] at hclose
      obtain ⟨hbody, rfl⟩ : body = l.text ∧ rest = rest' := by simpa using hclose
      obtain ⟨t, rfl⟩ := h.head_of_start hl hstart
      have hstands := h.standsIn l hl
      have hlit : l =
          { quote := c, span := ⟨offset, contentStop + c.utf8Size⟩,
            content := ⟨contentStart, contentStop⟩, text := body } := by
        obtain ⟨-, h₁, h₂, h₃⟩ := hstands
        obtain ⟨quote, ⟨start, stop⟩, ⟨cstart, cstop⟩, ltext⟩ := l
        simp only at hquote hbody hstart h₁ h₂ h₃
        subst hquote hbody hstart
        simp [contentStop, contentStart, h₁, h₂, h₃]
      -- the rest of the literals pair the quotes after it
      have htext : c :: cs = l.chars ++ rest := by
        simp [Literal.chars, ← hquote, ← hbody, closeLiteral_eq_some hc]
      have htail := (htext ▸ h).drop_head hstart
      have hoffset : offset + byteSize l.chars = contentStop + c.utf8Size := by
        rw [← hstart, ← hstands.stop_eq, hlit]
      rw [hoffset] at htail
      rw [hlit, ← ih t htail]
  | case3 offset c cs hq hc ih =>
      intro ls h
      apply ih ls
      apply h.tail
      intro l hl hstart
      obtain ⟨-, rest, hclose⟩ := h.literal_at_start hl hstart
      rw [hc] at hclose
      cases hclose
  | case4 offset c cs hq ih =>
      intro ls h
      apply ih ls
      apply h.tail
      intro l hl hstart
      obtain ⟨hquote, -⟩ := h.literal_at_start hl hstart
      exact hq (hquote ▸ h.quote l hl)

end Lexer

namespace Source

open Lexer

/-- The quoted literals of a source are characterised by how they pair its quotes: a list of
literals is the scan's result exactly when its literals come in order, each is a quote, a text
on one line without that quote and the quote again, standing where its span says, and every
quote outside them has no partner after it on its line. -/
theorem literals_eq_iff_quotePairing (s : Source) (ls : List Literal) :
    s.literals = ls ↔ QuotePairing s.text 0 ls := by
  constructor
  · rintro rfl
    exact literalsFrom_pairing 0 s.text
  · intro h
    exact (eq_literalsFrom_of_pairing 0 s.text ls h).symm

end Source
end Obfuscator
