import Obfuscator.Proofs.Totality
/-!
# Interpolation holes

The holes of an interpolating literal are the stretches of its content written between braces.
The scan for them reads the content from the left: a doubled brace stands for a brace and is
passed over, an opening brace opens a hole that runs to the first closing brace after it, and an
opening brace with no closing brace after it ends the scan. The scan is a total function, by
recursion on the length of the content.

`Span.BracedIn` says where a hole stands without the scan: an opening brace right before it, a
closing brace right after it, and no closing brace inside. Main statement: the holes of a literal
of a source are such spans of the source, inside the literal's content and on character
boundaries, and each ends before the next one starts (`Source.holes_wellFormed`). A literal that
does not interpolate has no holes, and neither has one whose braces all come doubled
(`DoubledBraces`), as in `f"{{total}}"`.
-/

namespace Obfuscator

open Text

namespace Span

/-- `h.BracedIn text offset`: in `text`, whose first byte is byte `offset`, an opening brace
stands right before the span and a closing brace right after it, and no closing brace stands in
it. -/
def BracedIn (h : Span) (text : List Char) (offset : Nat) : Prop :=
  ∃ pre body post, text = pre ++ '\x7b' :: (body ++ '\x7d' :: post) ∧ '\x7d' ∉ body ∧
    h.start = offset + byteSize pre + 1 ∧ h.stop = h.start + byteSize body

namespace BracedIn

variable {h : Span} {text : List Char} {offset : Nat}

theorem extend (pre post : List Char) (hb : h.BracedIn text (offset + byteSize pre)) :
    h.BracedIn (pre ++ text ++ post) offset := by
  obtain ⟨pre', body, post', rfl, hbody, hstart, hstop⟩ := hb
  refine ⟨pre ++ pre', body, post' ++ post, by simp, hbody, ?_, hstop⟩
  simp only [byteSize_append]
  omega

theorem bounds (hb : h.BracedIn text offset) :
    offset < h.start ∧ h.start ≤ h.stop ∧ h.stop < offset + byteSize text := by
  obtain ⟨pre, body, post, rfl, -, hstart, hstop⟩ := hb
  simp only [byteSize_append, byteSize_cons, utf8Size_openBrace, utf8Size_closeBrace]
  omega

theorem isBoundary (hb : h.BracedIn text 0) : IsBoundary text h.start ∧ IsBoundary text h.stop := by
  obtain ⟨pre, body, post, rfl, -, hstart, hstop⟩ := hb
  have hopen : h.start = byteSize (pre ++ ['\x7b']) := by
    simp [hstart, utf8Size_openBrace]
  have hclose : h.stop = byteSize (pre ++ '\x7b' :: body) := by
    simp [hstop, hstart, utf8Size_openBrace]
    omega
  unfold IsBoundary
  constructor
  · rw [hopen, show pre ++ '\x7b' :: (body ++ '\x7d' :: post) =
      (pre ++ ['\x7b']) ++ (body ++ '\x7d' :: post) by simp, splitAtByte?_byteSize_append]
    rfl
  · rw [hclose, show pre ++ '\x7b' :: (body ++ '\x7d' :: post) =
      (pre ++ '\x7b' :: body) ++ '\x7d' :: post by simp, splitAtByte?_byteSize_append]
    rfl

end BracedIn

end Span

namespace Lexer

theorem split_at_closeBrace {cs rest : List Char} {d : Char}
    (h : cs.drop (cs.takeWhile (· != '\x7d')).length = d :: rest) :
    cs = cs.takeWhile (· != '\x7d') ++ '\x7d' :: rest := by
  have hlen : (cs.takeWhile (· != '\x7d')).length = cs.findIdx fun c => !(c != '\x7d') := by
    rw [List.takeWhile_eq_take_findIdx_not, List.length_take]
    exact Nat.min_eq_left List.findIdx_le_length
  rw [hlen, ← List.dropWhile_eq_drop_findIdx_not] at h
  have hd : d = '\x7d' := by
    have := List.head?_dropWhile_not (· != '\x7d') cs
    simpa [h] using this
  rw [hd] at h
  rw [← h, List.takeWhile_append_dropWhile]

theorem holesFrom_bracedIn (offset : Nat) (cs : List Char) :
    ∀ h ∈ holesFrom offset cs, h.BracedIn cs offset := by
  fun_induction holesFrom offset cs with
  | case1 =>
      simp
  | case2 offset rest ih =>
      intro h hh
      have hrest : h.BracedIn rest (offset + byteSize ['\x7b', '\x7b']) := by
        simpa [utf8Size_openBrace] using ih h hh
      simpa using Span.BracedIn.extend ['\x7b', '\x7b'] [] hrest
  | case3 offset rest ih =>
      intro h hh
      have hrest : h.BracedIn rest (offset + byteSize ['\x7d', '\x7d']) := by
        simpa [utf8Size_closeBrace] using ih h hh
      simpa using Span.BracedIn.extend ['\x7d', '\x7d'] [] hrest
  | case4 offset cs _ inner d rest hd start ih =>
      have hcs := split_at_closeBrace hd
      have hfree : '\x7d' ∉ inner := by
        intro hmem
        have := List.mem_takeWhile_imp hmem
        simp at this
      intro h hh
      rcases List.mem_cons.mp hh with rfl | hh
      · -- the hole just opened: the brace is the first character
        exact ⟨[], inner, rest, by rw [hcs]; rfl, hfree, by simp [start], rfl⟩
      · -- a later hole, braced in the text after the closing brace
        have hlater := ih h hh
        have hsize : start + byteSize inner + 1 = offset + byteSize ('\x7b' :: inner ++ ['\x7d']) := by
          simp [start, utf8Size_openBrace, utf8Size_closeBrace]
          omega
        rw [hsize] at hlater
        rw [hcs]
        simpa using Span.BracedIn.extend _ [] hlater
  | case5 =>
      simp
  | case6 offset c cs _ _ _ ih =>
      intro h hh
      have hrest : h.BracedIn cs (offset + byteSize [c]) := by simpa using ih h hh
      simpa using Span.BracedIn.extend [c] [] hrest

theorem holesFrom_pairwise (offset : Nat) (cs : List Char) :
    (holesFrom offset cs).Pairwise fun a b => a.stop < b.start := by
  fun_induction holesFrom offset cs with
  | case1 => exact List.Pairwise.nil
  | case2 _ _ ih => exact ih
  | case3 _ _ ih => exact ih
  | case4 offset cs _ inner d rest hd start ih =>
      refine List.Pairwise.cons (fun h hh => ?_) ih
      -- every later hole starts after the closing brace of this one
      have hafter := (holesFrom_bracedIn _ _ h hh).bounds.1
      simp only
      omega
  | case5 => exact List.Pairwise.nil
  | case6 _ _ _ _ _ _ ih => exact ih

/-- A text whose braces all come doubled, `{{` or `}}`, read from the left. -/
inductive DoubledBraces : List Char → Prop
  | nil : DoubledBraces []
  | openPair {rest : List Char} : DoubledBraces rest → DoubledBraces ('\x7b' :: '\x7b' :: rest)
  | closePair {rest : List Char} : DoubledBraces rest → DoubledBraces ('\x7d' :: '\x7d' :: rest)
  | other {c : Char} {rest : List Char} :
      c ≠ '\x7b' → c ≠ '\x7d' → DoubledBraces rest → DoubledBraces (c :: rest)

theorem holesFrom_eq_nil_of_doubledBraces {cs : List Char} (h : DoubledBraces cs) :
    ∀ offset, holesFrom offset cs = [] := by
  induction h with
  | nil => exact holesFrom.eq_1
  | openPair _ ih =>
      intro offset
      rw [holesFrom.eq_2]
      exact ih _
  | closePair _ ih =>
      intro offset
      rw [holesFrom.eq_3]
      exact ih _
  | other hopen hclose _ ih =>
      intro offset
      rw [holesFrom.eq_5 _ _ _ (fun _ h _ => hopen h) (fun _ h _ => hclose h) hopen]
      exact ih _

end Lexer

theorem Literal.StandsIn.bracedIn {l : Literal} {text : List Char} (hl : l.StandsIn text 0)
    {h : Span} (hb : h.BracedIn l.text l.content.start) : h.BracedIn text 0 := by
  obtain ⟨⟨pre, rest, htext, hstart⟩, hcstart, -, -⟩ := hl
  have hsplit : text = (pre ++ [l.quote]) ++ l.text ++ (l.quote :: rest) := by
    simp [htext, Literal.chars]
  have hoffset : l.content.start = 0 + byteSize (pre ++ [l.quote]) := by
    simp [hcstart, hstart]
  rw [hoffset] at hb
  rw [hsplit]
  exact Span.BracedIn.extend _ _ hb

namespace Source

open Lexer

/-- The holes of a literal of a source are well formed. A literal that does not interpolate has
none. Each hole lies in the literal's content, starts and ends on character boundaries, and has
an opening brace right before it and a closing brace right after it, with no closing brace
inside; each ends before the next one starts. A literal whose braces all come doubled has no
holes. -/
theorem holes_wellFormed (s : Source) {l : Literal} (hl : l ∈ s.literals) :
    (s.isInterpolated l = false → s.holes l = []) ∧
    (s.holes l).Pairwise (fun a b => a.stop < b.start) ∧
    (∀ h ∈ s.holes l, h.within l.content = true ∧ IsBoundary s.text h.start ∧
      IsBoundary s.text h.stop ∧ h.BracedIn s.text 0) ∧
    (DoubledBraces l.text → s.holes l = []) := by
  -- the holes are none, or all that the scan finds in the content
  have hscan : s.holes l = [] ∨ s.holes l = holesFrom l.content.start l.text := by
    unfold Source.holes
    split
    · exact .inr rfl
    · exact .inl rfl
  have hstands : l.StandsIn s.text 0 := mem_literalsFrom 0 s.text l hl
  refine ⟨fun hnot => by simp [Source.holes, hnot], ?_, fun h hh => ?_, fun hd => ?_⟩
  · rcases hscan with hnil | hscan
    · rw [hnil]
      exact List.Pairwise.nil
    · rw [hscan]
      exact holesFrom_pairwise _ _
  · have hb : h.BracedIn l.text l.content.start := by
      rcases hscan with hnil | hscan
      · rw [hnil] at hh
        cases hh
      · rw [hscan] at hh
        exact holesFrom_bracedIn _ _ h hh
    have hsource := hstands.bracedIn hb
    obtain ⟨hstart, -, hstop⟩ := hb.bounds
    have hcontent := hstands.content_stop
    refine ⟨?_, hsource.isBoundary.1, hsource.isBoundary.2, hsource⟩
    simp only [Span.within, Bool.and_eq_true, decide_eq_true_eq]
    omega
  · rcases hscan with hnil | hscan
    · exact hnil
    · rw [hscan]
      exact holesFrom_eq_nil_of_doubledBraces hd _

/-- The Python literal `f"{a}{{b}}"`, whose content holds a hole and a doubled pair of braces. -/
theorem holes_wellFormed_fstring :
    ({ quote := '"', span := ⟨1, 11⟩, content := ⟨2, 10⟩,
        text := "\x7ba\x7d\x7b\x7bb\x7d\x7d".toList } : Literal) ∈
      (⟨.python, "f\"\x7ba\x7d\x7b\x7bb\x7d\x7d\"".toList⟩ : Source).literals ∧
    ((⟨.python, "f\"\x7ba\x7d\x7b\x7bb\x7d\x7d\"".toList⟩ : Source).isInterpolated
        { quote := '"', span := ⟨1, 11⟩, content := ⟨2, 10⟩,
          text := "\x7ba\x7d\x7b\x7bb\x7d\x7d".toList } = false →
      (⟨.python, "f\"\x7ba\x7d\x7b\x7bb\x7d\x7d\"".toList⟩ : Source).holes
        { quote := '"', span := ⟨1, 11⟩, content := ⟨2, 10⟩,
          text := "\x7ba\x7d\x7b\x7bb\x7d\x7d".toList } = []) ∧
    ((⟨.python, "f\"\x7ba\x7d\x7b\x7bb\x7d\x7d\"".toList⟩ : Source).holes
        { quote := '"', span := ⟨1, 11⟩, content := ⟨2, 10⟩,
          text := "\x7ba\x7d\x7b\x7bb\x7d\x7d".toList }).Pairwise
      (fun a b => a.stop < b.start) ∧
    (∀ h ∈ (⟨.python, "f\"\x7ba\x7d\x7b\x7bb\x7d\x7d\"".toList⟩ : Source).holes
        { quote := '"', span := ⟨1, 11⟩, content := ⟨2, 10⟩,
          text := "\x7ba\x7d\x7b\x7bb\x7d\x7d".toList },
      h.within ⟨2, 10⟩ = true ∧ IsBoundary "f\"\x7ba\x7d\x7b\x7bb\x7d\x7d\"".toList h.start ∧
        IsBoundary "f\"\x7ba\x7d\x7b\x7bb\x7d\x7d\"".toList h.stop ∧
        h.BracedIn "f\"\x7ba\x7d\x7b\x7bb\x7d\x7d\"".toList 0) ∧
    (DoubledBraces "\x7ba\x7d\x7b\x7bb\x7d\x7d".toList →
      (⟨.python, "f\"\x7ba\x7d\x7b\x7bb\x7d\x7d\"".toList⟩ : Source).holes
        { quote := '"', span := ⟨1, 11⟩, content := ⟨2, 10⟩,
          text := "\x7ba\x7d\x7b\x7bb\x7d\x7d".toList } = []) :=
  ⟨by decide +kernel, holes_wellFormed _ (by decide +kernel)⟩

end Source

end Obfuscator
