import Mathlib
import Obfuscator.Proofs.Splicing
import Obfuscator.Passes
/-!
# Minifying only collapses blanks

Where layout carries no meaning, minifying replaces each indented break (a line break with all
the blanks after it) by one space, or by one line break when the line before it holds a
line-comment marker. Read along its scan this is `Minify.collapse`, a rewrite that keeps every
other character (`run_eq_collapse`). Three facts follow, each by induction along the scan:

* every non-blank character keeps whether a line-comment marker precedes it on its line
  (`codeView_collapse`), so no code is pulled into a comment, and the non-blank characters are
  kept in order;
* no line break of the output is followed by a blank (`noIndentedBreak_collapse`);
* so a second minifying changes nothing (`collapse_of_noIndentedBreak`).

The first is carried by `Agree`: the output written so far and the text read so far agree on
whether a marker stands on their last line, and end with the same run of non-blank characters.
A marker holds no blank, so these two are all that the next character depends on; a break
resets both, since what it leaves on the line is blanks, a space after a line with no marker,
or a fresh line.

An indented break never runs past a character that is no blank, so the scan splits after any
such character (`collapse_append`). A line break after one, as at the end of every line on which
Go ends a statement, is then decided by what follows it and by the markers on its line alone,
never by the token that ends the line (`minifying_go_break_after_token`): an indented next line
joins the line with a space.
-/

namespace Obfuscator

open Text Lexer

namespace Minify

/-! ## Lines, markers and the code view -/

def lastLine (before : List Char) : List Char := (before.reverse.takeWhile (· != '\n')).reverse

def trailing (s : List Char) : List Char := (s.reverse.takeWhile fun c => !isBlank c).reverse

/-- Whether a line-comment marker stands on the last line of `before`, so that a character
following `before` is commented out. -/
def commented (p : Profile) (before : List Char) : Bool :=
  p.lineCommentMarkers.any fun m => containsText (lastLine before) m.toList

def codeViewFrom (p : Profile) (before : List Char) : List Char → List (Char × Bool)
  | [] => []
  | c :: cs =>
    (if isBlank c then [] else [(c, commented p before)]) ++ codeViewFrom p (before ++ [c]) cs

/-- The code view of a whole text. -/
def codeView (p : Profile) (s : List Char) : List (Char × Bool) := codeViewFrom p [] s

/-- No line break of the text is followed by a blank: the text holds no indented break. -/
def NoIndentedBreak (s : List Char) : Prop := s.IsChain fun a b => a = '\n' → isBlank b = false

/-- Every line-comment marker of the profile is a non-empty text of non-blank characters. -/
def MarkersSolid (p : Profile) : Prop :=
  ∀ m ∈ p.lineCommentMarkers, m.toList ≠ [] ∧ ∀ c ∈ m.toList, isBlank c = false

theorem markersSolid (L : Language) : MarkersSolid L.profile := by
  have hslash : "//".toList ≠ [] ∧ ∀ c ∈ "//".toList, isBlank c = false := by
    have hc : isBlank '/' = false := by decide
    simp [hc]
  have hhash : "#".toList ≠ [] ∧ ∀ c ∈ "#".toList, isBlank c = false := by
    have hc : isBlank '#' = false := by decide
    simp [hc]
  intro m hm
  cases L with
  | php =>
      obtain rfl | rfl : m = "//" ∨ m = "#" := by
        simpa [Language.profile, Profile.lineCommentMarkers] using hm
      exacts [hslash, hhash]
  | python =>
      obtain rfl : m = "#" := by simpa [Language.profile, Profile.lineCommentMarkers] using hm
      exact hhash
  | javaScript | go | java =>
      obtain rfl : m = "//" := by simpa [Language.profile, Profile.lineCommentMarkers] using hm
      exact hslash

/-- Minifying along its scan: each indented break becomes the joiner of the line before it. -/
def collapse (p : Profile) : List Char → List Char → List Char :=
  rewriteFrom indentedBreakRule fun before => joiner p (lastLine before)

theorem isBlank_newline : isBlank '\n' = true := by decide

theorem isBlank_space : isBlank ' ' = true := by decide

theorem containsText_iff (hay needle : List Char) :
    containsText hay needle = true ↔ needle <:+: hay := by
  simp only [containsText, List.any_eq_true, List.mem_range, List.isPrefixOf_iff_prefix]
  constructor
  · rintro ⟨i, -, hi⟩
    exact hi.isInfix.trans (List.drop_suffix i hay).isInfix
  · rintro ⟨s, t, rfl⟩
    exact ⟨s.length, by simp, by simp⟩

theorem joiner_lastLine (p : Profile) (before : List Char) :
    joiner p (lastLine before) = if commented p before then ['\n'] else [' '] := rfl

theorem lastLine_snoc (s : List Char) (c : Char) :
    lastLine (s ++ [c]) = if c = '\n' then [] else lastLine s ++ [c] := by
  by_cases hc : c = '\n' <;> simp [lastLine, hc]

theorem trailing_snoc (s : List Char) (c : Char) :
    trailing (s ++ [c]) = if isBlank c then [] else trailing s ++ [c] := by
  cases hc : isBlank c <;> simp [trailing, hc]

theorem trailing_lastLine (s : List Char) : trailing (lastLine s) = trailing s := by
  simp only [trailing, lastLine, List.reverse_reverse, List.takeWhile_takeWhile]
  congr 2
  funext c
  by_cases hc : c = '\n'
  · simp [hc, isBlank_newline]
  · simp [hc]

theorem suffix_trailing_iff {m : List Char} (hm : ∀ c ∈ m, isBlank c = false) (s : List Char) :
    m <:+ s ↔ m <:+ trailing s := by
  constructor
  · rintro ⟨u, rfl⟩
    have hrev : ∀ c ∈ m.reverse, (!isBlank c) = true := fun c hc => by
      simp [hm c (List.mem_reverse.mp hc)]
    have hrun : trailing (u ++ m) = trailing u ++ m := by
      simp [trailing, List.takeWhile_append_of_pos hrev]
    rw [hrun]
    exact List.suffix_append _ _
  · intro h
    refine h.trans ?_
    rw [trailing, ← List.reverse_prefix, List.reverse_reverse]
    exact List.takeWhile_prefix _

/-! ## What one more character does to a line -/

section Markers

variable {p : Profile} (hp : MarkersSolid p)
include hp

theorem commented_snoc (s : List Char) (c : Char) :
    commented p (s ++ [c]) = true ↔
      c ≠ '\n' ∧ (commented p s = true ∨
        ∃ m ∈ p.lineCommentMarkers, m.toList <:+ trailing (s ++ [c])) := by
  simp only [commented, List.any_eq_true, containsText_iff]
  by_cases hc : c = '\n'
  · -- a line break starts an empty line, on which no marker stands
    simp only [lastLine_snoc, hc, if_true, List.infix_nil, ne_eq, not_true_eq_false, false_and,
      iff_false, not_exists, not_and]
    exact fun m hm => (hp m hm).1
  · have hline : lastLine (s ++ [c]) = lastLine s ++ [c] := by rw [lastLine_snoc, if_neg hc]
    have hends : ∀ m ∈ p.lineCommentMarkers,
        m.toList <:+ lastLine s ++ [c] ↔ m.toList <:+ trailing (s ++ [c]) := fun m hm => by
      rw [suffix_trailing_iff (hp m hm).2, ← hline, trailing_lastLine]
    rw [hline]
    constructor
    · rintro ⟨m, hm, hin⟩
      rcases List.infix_concat_iff.mp hin with hend | hin
      · exact ⟨hc, .inr ⟨m, hm, (hends m hm).mp hend⟩⟩
      · exact ⟨hc, .inl ⟨m, hm, hin⟩⟩
    · rintro ⟨-, ⟨m, hm, hin⟩ | ⟨m, hm, hend⟩⟩
      · exact ⟨m, hm, List.infix_concat_iff.mpr (.inr hin)⟩
      · exact ⟨m, hm, List.infix_concat_iff.mpr (.inl ((hends m hm).mpr hend))⟩

theorem commented_snoc_blank (s : List Char) {b : Char} (hb : isBlank b = true) :
    commented p (s ++ [b]) = true ↔ b ≠ '\n' ∧ commented p s = true := by
  rw [commented_snoc hp, trailing_snoc, if_pos hb]
  simp only [List.suffix_nil]
  constructor
  · rintro ⟨hnl, hc | ⟨m, hm, hnil⟩⟩
    · exact ⟨hnl, hc⟩
    · exact absurd hnil (hp m hm).1
  · rintro ⟨hnl, hc⟩
    exact ⟨hnl, .inl hc⟩

theorem commented_snoc_newline (s : List Char) : commented p (s ++ ['\n']) = false := by
  rw [Bool.eq_false_iff, ne_eq, commented_snoc_blank hp s isBlank_newline]
  simp

theorem commented_snoc_space (s : List Char) : commented p (s ++ [' ']) = commented p s := by
  rw [Bool.eq_iff_iff, commented_snoc_blank hp s isBlank_space]
  simp

theorem commented_append_blanks {x : List Char} (hx : commented p x = false) :
    ∀ {u : List Char}, (∀ b ∈ u, isBlank b = true) → commented p (x ++ u) = false := by
  intro u
  induction u generalizing x with
  | nil => simpa using hx
  | cons b u ih =>
      intro hu
      have hb := hu b List.mem_cons_self
      have hxb : commented p (x ++ [b]) = false := by
        rw [Bool.eq_false_iff, ne_eq, commented_snoc_blank hp x hb, hx]
        simp
      rw [← List.singleton_append, ← List.append_assoc]
      exact ih hxb fun c hc => hu c (List.mem_cons_of_mem b hc)

end Markers

theorem trailing_append_blanks (x : List Char) {u : List Char} (hu : ∀ b ∈ u, isBlank b = true)
    (hne : u ≠ []) : trailing (x ++ u) = [] := by
  obtain ⟨u', b, rfl⟩ : ∃ u' b, u = u' ++ [b] :=
    ⟨u.dropLast, u.getLast hne, (List.dropLast_append_getLast hne).symm⟩
  rw [← List.append_assoc, trailing_snoc, if_pos (hu b (by simp))]

/-! ## The invariant of the scan -/

/-- The output written so far, `t`, agrees with the text read so far, `s`: a marker stands on
the last line of both or of neither, and both end with the same run of non-blank
characters. -/
structure Agree (p : Profile) (s t : List Char) : Prop where
  commented_eq : commented p s = commented p t
  trailing_eq : trailing s = trailing t

namespace Agree

variable {p : Profile} {s t : List Char}

theorem nil (p : Profile) : Agree p [] [] := ⟨rfl, rfl⟩

theorem snoc (hp : MarkersSolid p) (h : Agree p s t) (c : Char) : Agree p (s ++ [c]) (t ++ [c]) where
  commented_eq := by
    rw [Bool.eq_iff_iff, commented_snoc hp, commented_snoc hp, h.commented_eq, trailing_snoc,
      trailing_snoc, h.trailing_eq]
  trailing_eq := by rw [trailing_snoc, trailing_snoc, h.trailing_eq]

theorem indentedBreak (hp : MarkersSolid p) (h : Agree p s t) {bl : List Char}
    (hbl : ∀ b ∈ bl, isBlank b = true) :
    Agree p (s ++ '\n' :: bl) (t ++ joiner p (lastLine s)) := by
  have hbreak : commented p (s ++ '\n' :: bl) = false := by
    rw [← List.singleton_append, ← List.append_assoc]
    exact commented_append_blanks hp (commented_snoc_newline hp s) hbl
  have hrun : trailing (s ++ '\n' :: bl) = [] :=
    trailing_append_blanks s (by simpa [isBlank_newline] using hbl) (List.cons_ne_nil _ _)
  rw [joiner_lastLine]
  cases hs : commented p s with
  | true =>
      -- a marker stood on the line: the joiner starts a fresh line
      refine ⟨?_, ?_⟩
      · rw [hbreak, if_pos rfl, commented_snoc_newline hp t]
      · rw [hrun, if_pos rfl, trailing_snoc, if_pos isBlank_newline]
  | false =>
      -- no marker stood on the line: the space joins it to the next, still with no marker
      refine ⟨?_, ?_⟩
      · rw [hbreak, if_neg Bool.false_ne_true, commented_snoc_space hp t, ← h.commented_eq, hs]
      · rw [hrun, if_neg Bool.false_ne_true, trailing_snoc, if_pos isBlank_space]

end Agree

/-! ## One step of the scan -/

theorem indentedBreakRule_eq_some {prev : Option Char} {c : Char} {cs : List Char} {k : Nat}
    (h : indentedBreakRule prev (c :: cs) = some (k + 1)) :
    c = '\n' ∧ k = (cs.takeWhile isBlank).length ∧ cs.takeWhile isBlank ≠ [] := by
  by_cases hc : c = '\n'
  · subst hc
    simp only [indentedBreakRule] at h
    split at h
    · cases h
    · rename_i hk
      simp only [Option.some.injEq, Nat.add_right_cancel_iff] at h
      exact ⟨rfl, h.symm, fun hnil => hk (by rw [hnil]; rfl)⟩
  · exact absurd h (by simp [indentedBreakRule, hc])

theorem indentedBreakRule_newline (prev : Option Char) {cs : List Char}
    (h : cs.takeWhile isBlank ≠ []) :
    indentedBreakRule prev ('\n' :: cs) = some ((cs.takeWhile isBlank).length + 1) := by
  simp only [indentedBreakRule]
  rw [if_neg (by simpa using h)]

theorem take_length_takeWhile {α : Type} (q : α → Bool) :
    ∀ cs : List α, cs.take (cs.takeWhile q).length = cs.takeWhile q
  | [] => rfl
  | c :: cs => by
      cases hc : q c <;> simp [hc, take_length_takeWhile q cs]

theorem drop_length_takeWhile {α : Type} (q : α → Bool) :
    ∀ cs : List α, cs.drop (cs.takeWhile q).length = cs.dropWhile q
  | [] => rfl
  | c :: cs => by
      cases hc : q c <;> simp [hc, drop_length_takeWhile q cs]

theorem take_indentedBreak (cs : List Char) :
    ('\n' :: cs).take ((cs.takeWhile isBlank).length + 1) = '\n' :: cs.takeWhile isBlank := by
  simp [take_length_takeWhile]

theorem drop_indentedBreak (cs : List Char) :
    ('\n' :: cs).drop ((cs.takeWhile isBlank).length + 1) = cs.dropWhile isBlank := by
  simp [drop_length_takeWhile]

theorem takeWhile_isBlank_eq_nil {cs : List Char} :
    cs.takeWhile isBlank = [] ↔ ∀ d ∈ cs.head?, isBlank d = false := by
  cases cs with
  | nil => simp
  | cons d ds => cases hd : isBlank d <;> simp [hd]

theorem collapse_cons {p : Profile} (before : List Char) {d : Char} (hd : isBlank d = false)
    (ds : List Char) : collapse p before (d :: ds) = d :: collapse p (before ++ [d]) ds := by
  have hnl : d ≠ '\n' := fun h => by rw [h, isBlank_newline] at hd; cases hd
  unfold collapse
  rw [rewriteFrom]
  simp [indentedBreakRule, hnl]

theorem head?_collapse (p : Profile) (before : List Char) {text : List Char}
    (h : ∀ d ∈ text.head?, isBlank d = false) :
    (collapse p before text).head? = text.head? := by
  cases text with
  | nil => simp [collapse, rewriteFrom]
  | cons d ds => rw [collapse_cons before (h d rfl)]; rfl

/-! ## The code view -/

theorem codeViewFrom_append (p : Profile) (xs ys : List Char) :
    ∀ before, codeViewFrom p before (xs ++ ys) =
      codeViewFrom p before xs ++ codeViewFrom p (before ++ xs) ys := by
  induction xs with
  | nil => simp [codeViewFrom]
  | cons x xs ih => intro before; simp [codeViewFrom, ih]

theorem codeViewFrom_blanks (p : Profile) (before : List Char) {u : List Char}
    (hu : ∀ b ∈ u, isBlank b = true) : codeViewFrom p before u = [] := by
  induction u generalizing before with
  | nil => rfl
  | cons b u ih =>
      simp [codeViewFrom, hu b List.mem_cons_self, ih _ fun c hc => hu c (List.mem_cons_of_mem b hc)]

theorem map_fst_codeViewFrom (p : Profile) (before s : List Char) :
    (codeViewFrom p before s).map Prod.fst = s.filter fun c => !isBlank c := by
  induction s generalizing before with
  | nil => rfl
  | cons c cs ih => cases hc : isBlank c <;> simp [codeViewFrom, hc, ih]

theorem joiner_blanks (p : Profile) (line : List Char) : ∀ b ∈ joiner p line, isBlank b = true := by
  unfold joiner
  split <;> simp [isBlank_newline, isBlank_space]

theorem codeViewFrom_collapse {p : Profile} (hp : MarkersSolid p) (before text : List Char) :
    ∀ t, Agree p before t → codeViewFrom p t (collapse p before text) = codeViewFrom p before text := by
  unfold collapse
  fun_induction rewriteFrom indentedBreakRule (fun before => joiner p (lastLine before)) before text with
  | case1 before =>
      intro t _
      rfl
  | case2 before c cs k hrule ih =>
      intro t h
      obtain ⟨rfl, rfl, -⟩ := indentedBreakRule_eq_some hrule
      have hblanks : ∀ b ∈ cs.takeWhile isBlank, isBlank b = true :=
        fun b hb => List.mem_takeWhile_imp hb
      rw [take_indentedBreak, drop_indentedBreak] at ih ⊢
      rw [codeViewFrom_append, codeViewFrom_blanks p t (joiner_blanks p _),
        List.nil_append, ih _ (h.indentedBreak hp hblanks)]
      -- the break itself shows nothing in the view of the text either
      have hcs : '\n' :: cs = ('\n' :: cs.takeWhile isBlank) ++ cs.dropWhile isBlank := by simp
      rw [hcs, codeViewFrom_append, codeViewFrom_blanks p before (by simpa [isBlank_newline] using hblanks),
        List.nil_append]
  | case3 before c cs hrule ih =>
      intro t h
      simp only [codeViewFrom]
      rw [h.commented_eq, ih _ (h.snoc hp c)]

theorem codeView_collapse {p : Profile} (hp : MarkersSolid p) (code : List Char) :
    codeView p (collapse p [] code) = codeView p code :=
  codeViewFrom_collapse hp [] code [] (Agree.nil p)

/-! ## No indented break is left -/

/-- The output has no line break followed by a blank: a kept line break was followed by none,
and a break's joiner is followed by what came after all its blanks. -/
theorem noIndentedBreak_collapse (p : Profile) (before text : List Char) :
    NoIndentedBreak (collapse p before text) := by
  unfold NoIndentedBreak collapse
  fun_induction rewriteFrom indentedBreakRule (fun before => joiner p (lastLine before)) before text with
  | case1 before => exact List.IsChain.nil
  | case2 before c cs k hrule ih =>
      obtain ⟨rfl, rfl, -⟩ := indentedBreakRule_eq_some hrule
      rw [take_indentedBreak, drop_indentedBreak] at ih ⊢
      -- what follows the break's blanks starts with no blank
      have hrest : ∀ d ∈ (cs.dropWhile isBlank).head?, isBlank d = false := by
        intro d hd
        have hnot := List.head?_dropWhile_not isBlank cs
        rw [Option.mem_def.mp hd] at hnot
        exact hnot
      have hhead : ∀ y ∈ (collapse p (before ++ '\n' :: cs.takeWhile isBlank)
          (cs.dropWhile isBlank)).head?, isBlank y = false := by
        rw [head?_collapse p _ hrest]
        exact hrest
      obtain ⟨j, hj⟩ : ∃ j, joiner p (lastLine before) = [j] := by
        unfold joiner
        split <;> exact ⟨_, rfl⟩
      rw [hj, List.singleton_append]
      exact List.isChain_cons.mpr ⟨fun y hy _ => hhead y hy, ih⟩
  | case3 before c cs hrule ih =>
      refine List.isChain_cons.mpr ⟨fun y hy hc => ?_, ih⟩
      -- a kept line break is followed by no blank, or it would have started a break
      subst hc
      have hnone : cs.takeWhile isBlank = [] := by
        by_contra hne
        exact hrule _ (indentedBreakRule_newline _ hne)
      have hcs := takeWhile_isBlank_eq_nil.mp hnone
      rw [show rewriteFrom indentedBreakRule (fun before => joiner p (lastLine before))
          (before ++ ['\n']) cs = collapse p (before ++ ['\n']) cs from rfl,
        head?_collapse p _ hcs] at hy
      exact hcs y hy

/-- A text with no indented break is left as it is. -/
theorem collapse_of_noIndentedBreak (p : Profile) (before : List Char) {text : List Char}
    (h : NoIndentedBreak text) : collapse p before text = text := by
  unfold collapse
  fun_induction rewriteFrom indentedBreakRule (fun before => joiner p (lastLine before)) before text with
  | case1 before => rfl
  | case2 before c cs k hrule ih =>
      -- a break would put a blank right after a line break
      obtain ⟨rfl, -, hne⟩ := indentedBreakRule_eq_some hrule
      obtain ⟨d, hd, hblank⟩ : ∃ d ∈ cs.head?, isBlank d = true := by
        by_contra hno
        exact hne (takeWhile_isBlank_eq_nil.mpr fun d hd => by simpa using fun h => hno ⟨d, hd, h⟩)
      have hlink := (List.isChain_cons.mp h).1 d hd rfl
      rw [hblank] at hlink
      cases hlink
  | case3 before c cs hrule ih =>
      rw [ih (List.isChain_cons.mp h).2]

/-! ## Minifying -/

theorem lineBefore?_append (b rest : List Char) :
    lineBefore? (b ++ rest) (byteSize b) = some (lastLine b) := by
  have hslice := slice?_append [] b rest
  simp only [List.nil_append, byteSize_nil, Nat.zero_add] at hslice
  rw [lineBefore?, hslice]
  rfl

/-- Where layout carries no meaning, minifying is collapsing along the scan. -/
theorem run_eq_collapse (L : Language) (hL : L.profile.whitespaceSensitive = false)
    (code : List Char) : run L code = some (collapse L.profile [] code) := by
  let e : Span → List Char := fun r => joiner L.profile ((lineBefore? code r.start).getD [])
  -- every indented break starts on a character boundary, where the line before it is read
  have hline : ∀ b m rest, code = b ++ m ++ rest → e ⟨byteSize b, byteSize b + byteSize m⟩ =
      joiner L.profile (lastLine b) := by
    intro b m rest hcode
    simp only [e, hcode, List.append_assoc, lineBefore?_append, Option.getD_some]
  have hedits : (indentedBreaks code).mapM (fun r => (lineBefore? code r.start).map
      fun line => ({ span := r, text := joiner L.profile line } : Edit)) =
      some ((indentedBreaks code).map fun r => { span := r, text := e r }) := by
    refine mapM_eq_some_map fun r hr => ?_
    obtain ⟨pre, mid, rest, hcode, hstart, -⟩ := (spans_tiling indentedBreakRule code).mem_cut hr
    rw [Nat.zero_add] at hstart
    have hbefore : lineBefore? code r.start = some (lastLine pre) := by
      rw [hstart, hcode, List.append_assoc, lineBefore?_append]
    simp [e, hbefore]
  unfold run
  simp only [hL, Bool.false_eq_true, if_false]
  rw [hedits]
  exact splice_spans_eq_rewrite indentedBreakRule _ code e hline

example : run .php "x = 1; # one\n  y = 2;\n  z".toList = some "x = 1; # one\ny = 2; z".toList := by
  decide +kernel

/-- Minifying a language where layout carries no meaning only collapses blanks: it keeps the
non-blank characters in order, leaves no line break followed by a blank, so that minifying
again changes nothing, and keeps for every non-blank character whether a line-comment marker
precedes it on its line. -/
theorem minifying_only_collapses_blanks (L : Language) (hL : L.profile.whitespaceSensitive = false)
    (code : List Char) :
    ∃ m, run L code = some m ∧
      m.filter (fun c => !isBlank c) = code.filter (fun c => !isBlank c) ∧
      (∀ pre c post, m = pre ++ '\n' :: c :: post → isBlank c = false) ∧
      run L m = some m ∧
      codeView L.profile m = codeView L.profile code := by
  have hview := codeView_collapse (markersSolid L) code
  have hbreaks := noIndentedBreak_collapse L.profile [] code
  refine ⟨collapse L.profile [] code, run_eq_collapse L hL code, ?_, ?_, ?_, hview⟩
  · rw [← map_fst_codeViewFrom L.profile [], ← map_fst_codeViewFrom L.profile []]
    exact congrArg (List.map Prod.fst) hview
  · intro pre c post hm
    exact List.isChain_iff_forall_rel_of_append_cons_cons.mp hbreaks hm rfl
  · rw [run_eq_collapse L hL, collapse_of_noIndentedBreak L.profile [] hbreaks]

/-- PHP, with its two markers, is a language where layout carries no meaning. -/
theorem minifying_php_only_collapses_blanks :
    Language.php.profile.whitespaceSensitive = false ∧
    ∃ m, run .php "x = 1; # one\n  y = 2;".toList = some m ∧
      m.filter (fun c => !isBlank c) = "x = 1; # one\n  y = 2;".toList.filter (fun c => !isBlank c) ∧
      (∀ pre c post, m = pre ++ '\n' :: c :: post → isBlank c = false) ∧
      run .php m = some m ∧
      codeView Language.php.profile m = codeView Language.php.profile "x = 1; # one\n  y = 2;".toList :=
  ⟨rfl, minifying_only_collapses_blanks .php rfl _⟩

/-! ## A line break after a token -/

theorem takeWhile_append_of_getLast? {α : Type} {q : α → Bool} {d : α} (hq : q d = false) :
    ∀ {xs : List α}, xs.getLast? = some d → ∀ ys, (xs ++ ys).takeWhile q = xs.takeWhile q
  | [], h, _ => by cases h
  | x :: xs, h, ys => by
      by_cases hx : q x = true
      · cases xs with
        | nil =>
            simp only [List.getLast?_singleton, Option.some.injEq] at h
            rw [h, hq] at hx
            cases hx
        | cons y xs =>
            rw [List.cons_append, List.takeWhile_cons_of_pos hx, List.takeWhile_cons_of_pos hx,
              takeWhile_append_of_getLast? hq (by simpa using h) ys]
      · rw [List.cons_append, List.takeWhile_cons_of_neg hx, List.takeWhile_cons_of_neg hx]

theorem indentedBreakRule_append (prev : Option Char) {text : List Char} (hne : text ≠ [])
    (hlast : ∀ d ∈ text.getLast?, isBlank d = false) (rest : List Char) :
    indentedBreakRule prev (text ++ rest) = indentedBreakRule prev text := by
  obtain ⟨d, hd⟩ := Option.isSome_iff_exists.mp (List.getLast?_isSome.mpr hne)
  have hblank := hlast d hd
  rcases text with _ | ⟨c, cs⟩
  · exact absurd rfl hne
  · by_cases hc : c = '\n'
    · subst hc
      -- the blanks after the break stop at the last character at the latest
      have hcs : cs.getLast? = some d := by
        cases cs with
        | nil =>
            simp only [List.getLast?_singleton, Option.some.injEq] at hd
            rw [← hd, isBlank_newline] at hblank
            cases hblank
        | cons e es => simpa using hd
      simp only [List.cons_append, indentedBreakRule, takeWhile_append_of_getLast? hblank hcs]
    · simp [indentedBreakRule, hc]

/-- Minifying splits after a character that is no blank: the text up to it is minified on its own,
and what follows is minified after all of it. -/
theorem collapse_append (p : Profile) (before text rest : List Char)
    (htext : ∀ d ∈ text.getLast?, isBlank d = false) :
    collapse p before (text ++ rest) = collapse p before text ++ collapse p (before ++ text) rest := by
  revert htext
  unfold collapse
  fun_induction rewriteFrom indentedBreakRule (fun before => joiner p (lastLine before)) before text with
  | case1 before =>
      intro _
      simp
  | case2 before c cs k hrule ih =>
      intro htext
      obtain ⟨rfl, rfl, -⟩ := indentedBreakRule_eq_some hrule
      have hk : (cs.takeWhile isBlank).length + 1 ≤ ('\n' :: cs).length := by
        simpa using (List.takeWhile_prefix isBlank : cs.takeWhile isBlank <+: cs).length_le
      -- what is left after the break still ends in the same character, or is empty
      have hdrop : ∀ e ∈ (('\n' :: cs).drop ((cs.takeWhile isBlank).length + 1)).getLast?,
          isBlank e = false := by
        intro e he
        rw [List.getLast?_drop] at he
        split at he
        · cases he
        · exact htext e he
      rw [List.cons_append, rewriteFrom.eq_2, ← List.cons_append,
        indentedBreakRule_append _ (List.cons_ne_nil _ _) htext, hrule]
      simp only
      rw [List.take_append_of_le_length hk, List.drop_append_of_le_length hk, ih hdrop,
        List.append_assoc before, List.take_append_drop, List.append_assoc]
  | case3 before c cs hrule ih =>
      intro htext
      have hcs : ∀ e ∈ cs.getLast?, isBlank e = false := by
        intro e he
        refine htext e ?_
        rw [List.getLast?_cons, Option.mem_def.mp he]
        rfl
      rw [List.cons_append, rewriteFrom.eq_2, ← List.cons_append,
        indentedBreakRule_append _ (List.cons_ne_nil _ _) htext]
      split
      · rename_i k hk
        exact absurd hk (hrule k)
      · rw [ih hcs, List.cons_append, List.append_assoc, List.singleton_append]

theorem collapse_newline_of_not_blank (p : Profile) (before : List Char) {post : List Char}
    (h : ∀ d ∈ post.head?, isBlank d = false) :
    collapse p before ('\n' :: post) = '\n' :: collapse p (before ++ ['\n']) post := by
  have hnone : post.takeWhile isBlank = [] := takeWhile_isBlank_eq_nil.mpr h
  unfold collapse
  rw [rewriteFrom.eq_2]
  split
  · rename_i k hk
    obtain ⟨-, -, hne⟩ := indentedBreakRule_eq_some hk
    exact absurd hnone hne
  · rfl

theorem collapse_newline_of_blank (p : Profile) (before : List Char) {post : List Char}
    (h : post.takeWhile isBlank ≠ []) :
    collapse p before ('\n' :: post) = joiner p (lastLine before) ++
      collapse p (before ++ '\n' :: post.takeWhile isBlank) (post.dropWhile isBlank) := by
  unfold collapse
  rw [rewriteFrom.eq_2, indentedBreakRule_newline _ h]
  simp only
  rw [take_indentedBreak, drop_indentedBreak]

theorem joiner_go (line : List Char) :
    joiner Language.go.profile line = if containsText line "//".toList then ['\n'] else [' '] := by
  simp [joiner, Language.profile, Profile.lineCommentMarkers]

/-- In Go, minifying decides a line break that follows a character other than a blank (as every
line on which Go ends a statement does) by what comes after the break and by the line before it,
never by the token that ends the line: followed by a blank, the break and all the blanks after it
become one space, or one line break where `//` stands on the line; followed by anything else, the
break is kept. The text up to the break is minified on its own, the rest from there on. -/
theorem minifying_go_break_after_token (pre post : List Char) {c : Char}
    (hc : isBlank c = false) :
    run .go (pre ++ c :: '\n' :: post) =
      some (collapse Language.go.profile [] (pre ++ [c]) ++
        if (post.head?.map isBlank).getD false then
          (if containsText (lastLine (pre ++ [c])) "//".toList then '\n' else ' ') ::
            collapse Language.go.profile (pre ++ c :: '\n' :: post.takeWhile isBlank)
              (post.dropWhile isBlank)
        else '\n' :: collapse Language.go.profile (pre ++ [c, '\n']) post) := by
  have hlast : ∀ d ∈ (pre ++ [c]).getLast?, isBlank d = false := by
    intro d hd
    rw [List.getLast?_concat, Option.mem_def, Option.some.injEq] at hd
    exact hd ▸ hc
  have hsplit : pre ++ c :: '\n' :: post = (pre ++ [c]) ++ '\n' :: post := by simp
  rw [run_eq_collapse .go rfl, hsplit, collapse_append _ [] _ _ hlast, List.nil_append]
  congr 2
  cases hpost : (post.head?.map isBlank).getD false with
  | true =>
      -- an indented break: its joiner is a space unless a marker stands on the line
      have hne : post.takeWhile isBlank ≠ [] := by
        cases post with
        | nil => cases hpost
        | cons d ds =>
            have hd : isBlank d = true := by simpa using hpost
            simp [hd]
      rw [collapse_newline_of_blank _ _ hne, joiner_go, if_pos rfl]
      cases containsText (lastLine (pre ++ [c])) "//".toList <;> simp
  | false =>
      have hhead : ∀ d ∈ post.head?, isBlank d = false := by
        intro d hd
        simpa [Option.mem_def.mp hd] using hpost
      rw [collapse_newline_of_not_blank _ _ hhead, if_neg Bool.false_ne_true]
      simp

/-- In the body `x := 1` then `fmt.Println(x)`, each on its own indented line, the line break
after `1`, where Go ends the first statement, is followed by blanks: the scan splits there. -/
theorem minifying_go_break_after_assignment :
    isBlank '1' = false ∧
    run .go ("func main() \x7b\n    x := ".toList ++ '1' :: '\n' :: "    fmt.Println(x)\n\x7d".toList) =
      some (collapse Language.go.profile [] ("func main() \x7b\n    x := ".toList ++ ['1']) ++
        if ("    fmt.Println(x)\n\x7d".toList.head?.map isBlank).getD false then
          (if containsText (lastLine ("func main() \x7b\n    x := ".toList ++ ['1'])) "//".toList
            then '\n' else ' ') ::
            collapse Language.go.profile
              ("func main() \x7b\n    x := ".toList ++ '1' :: '\n' ::
                "    fmt.Println(x)\n\x7d".toList.takeWhile isBlank)
              ("    fmt.Println(x)\n\x7d".toList.dropWhile isBlank)
        else '\n' :: collapse Language.go.profile ("func main() \x7b\n    x := ".toList ++ ['1', '\n'])
          "    fmt.Println(x)\n\x7d".toList) :=
  ⟨by decide, minifying_go_break_after_token _ _ (by decide)⟩

/-- Minifying Go joins two statements onto one line: the line break after `x := 1`, where Go
ends the statement, becomes a space because the next line is indented. -/
theorem minifying_go_joins_statements :
    run .go "func main() \x7b\n    x := 1\n    fmt.Println(x)\n\x7d".toList =
      some "func main() \x7b x := 1 fmt.Println(x)\n\x7d".toList := by
  decide +kernel

end Minify

end Obfuscator
