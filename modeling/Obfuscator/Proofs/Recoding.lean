import Mathlib
import Obfuscator.Proofs.Splicing
import Obfuscator.Proofs.Totality
import Obfuscator.Proofs.PayloadCodec
/-!
# Recoding is undone by decoding

Recoding replaces some literals of a text by decode expressions. Which ones is said here in the
words of the literals themselves: a literal is eligible when its content has at least two
characters, it does not interpolate, and no module-naming statement contains it; an eligible
literal is replaced when its content encodes in the language's charset, and counted as failed
otherwise.

Read piece by piece (`Text.Cut`), the text is stretches kept as they are, each followed by a
replaced literal, and the output is the same stretches, each followed by the decode expression
of that literal's payload (`RecodeLaw`). Since the payload decodes to the literal's content,
putting the content back between its quotes in place of each expression gives the text back.

The same reading shows what stands before each decode expression: the character that stood
before the literal's opening quote, or, where two replaced literals were adjacent, the closing
parenthesis of the previous expression. So an expression follows a letter, digit or underscore
exactly when its literal did (`recoding_keeps_what_precedes_literals`): recoding never fuses a
replacement with what precedes it unless the literal was already written against it.
-/

namespace Obfuscator

open Text

namespace Literal

theorem StandsIn.slice?_span {l : Literal} {text : List Char} (h : l.StandsIn text 0) :
    slice? text l.span.start l.span.stop = some l.chars := by
  obtain ⟨⟨pre, rest, htext, hstart⟩, hcstart, hcstop, hstop⟩ := h
  have hspan : l.span.stop = l.span.start + byteSize l.chars := by
    simp [hstop, hcstop, hcstart, chars]
    omega
  rw [hspan, hstart, Nat.zero_add, htext]
  exact slice?_append pre l.chars rest

end Literal

namespace Lexer

theorem isQuote_of_mem_literalsFrom (offset : Nat) (text : List Char) :
    ∀ l ∈ literalsFrom offset text, isQuote l.quote = true := by
  fun_induction literalsFrom offset text with
  | case1 =>
      intro l hl
      cases hl
  | case2 offset c cs hq body rest hc contentStart contentStop ih =>
      intro l hl
      rcases List.mem_cons.mp hl with rfl | hl
      · exact hq
      · exact ih l hl
  | case3 _ _ _ _ _ ih => exact ih
  | case4 _ _ _ _ ih => exact ih

end Lexer

namespace Recode

/-- Whether recoding may replace a literal of `src`, whose module-naming statements are `paths`:
its content has at least two characters, it does not interpolate, and no statement contains
it. -/
def eligible (src : Source) (paths : List Span) (l : Literal) : Bool :=
  2 ≤ l.text.length && !src.isInterpolated l &&
    !paths.any (fun p => p.start ≤ l.span.start && l.span.stop ≤ p.stop)

def payload? (src : Source) (l : Literal) : Option (List Char) :=
  (src.profile.charset.encode l.text).toOption

def expression (src : Source) (payload : List Char) : List Char :=
  (src.profile.decodeExpression (String.ofList payload)).toList

def replaced (src : Source) (paths : List Span) (ls : List Literal) : List (Literal × List Char) :=
  ls.filterMap fun l => if eligible src paths l then (payload? src l).map (l, ·) else none

variable {src : Source} {paths : List Span}

theorem choose_eq (l : Literal) :
    choose src paths l =
      if eligible src paths l then
        match payload? src l with
        | some p => .replace (src.profile.decodeExpression (String.ofList p))
        | none => .fail
      else .keep := by
  have helig : eligible src paths l =
      !(!l.concealable || src.isInterpolated l || paths.any fun p => l.span.within p) := by
    simp only [eligible, Literal.concealable, Literal.contentLength, Span.within, Bool.not_or,
      Bool.not_not]
    rfl
  rw [choose, helig]
  cases (!l.concealable || src.isInterpolated l || paths.any fun p => l.span.within p) with
  | true => rfl
  | false =>
      simp only [Bool.not_false, if_true, payload?]
      cases src.profile.charset.encode l.text <;> rfl

theorem map_fst_replaced (src : Source) (paths : List Span) (ls : List Literal) :
    (replaced src paths ls).map Prod.fst =
      ls.filter fun l => eligible src paths l && (payload? src l).isSome := by
  induction ls with
  | nil => rfl
  | cons l ls ih =>
      simp only [replaced, List.filterMap_cons, List.filter_cons] at ih ⊢
      cases eligible src paths l <;> cases payload? src l <;> simp [ih]

theorem payload?_of_mem_replaced {ls : List Literal} {x : Literal × List Char}
    (hx : x ∈ replaced src paths ls) : payload? src x.1 = some x.2 := by
  obtain ⟨l, -, hl⟩ := List.mem_filterMap.mp hx
  split at hl
  · obtain ⟨p, hp, rfl⟩ := Option.map_eq_some_iff.mp hl
    exact hp
  · cases hl

theorem edits_eq {f : Literal × Choice → Option Edit}
    (hreplace : ∀ l e, f (l, .replace e) = some { span := l.span, text := e.toList })
    (hkeep : ∀ l, f (l, .keep) = none) (hfail : ∀ l, f (l, .fail) = none) (ls : List Literal) :
    (ls.map fun l => (l, choose src paths l)).filterMap f =
      (replaced src paths ls).map fun x => { span := x.1.span, text := expression src x.2 } := by
  induction ls with
  | nil => rfl
  | cons l ls ih =>
      rw [List.map_cons, List.filterMap_cons, choose_eq, ih]
      simp only [replaced, List.filterMap_cons]
      cases eligible src paths l <;> cases payload? src l <;> simp [hreplace, hkeep, hfail, expression]

theorem failed_eq {g : Literal × Choice → Bool} (hfail : ∀ l, g (l, .fail) = true)
    (hkeep : ∀ l, g (l, .keep) = false) (hreplace : ∀ l e, g (l, .replace e) = false)
    (ls : List Literal) :
    ((ls.map fun l => (l, choose src paths l)).filter g).length =
      (ls.filter fun l => eligible src paths l && (payload? src l).isNone).length := by
  induction ls with
  | nil => rfl
  | cons l ls ih =>
      rw [List.map_cons, List.filter_cons, choose_eq, List.filter_cons]
      cases eligible src paths l <;> cases payload? src l <;> simp [ih, hfail, hkeep, hreplace]

theorem encode_of_payload? {l : Literal} {p : List Char} (h : payload? src l = some p) :
    src.profile.charset.encode l.text = .ok p := by
  unfold payload? at h
  cases henc : src.profile.charset.encode l.text with
  | ok q =>
      rw [henc] at h
      cases h
      rfl
  | error e =>
      rw [henc] at h
      cases h

theorem decodeTemplate_after_getLast? (L : Language) :
    L.profile.decodeTemplate.after.toList.getLast? = some ')' := by
  cases L <;> decide

theorem expression_getLast? (src : Source) (payload : List Char) :
    (expression src payload).getLast? = some ')' := by
  simp only [expression, Profile.decodeExpression, Template.fill, String.toList_append,
    List.getLast?_append, decodeTemplate_after_getLast? src.language, Source.profile,
    Option.some_or]

theorem payload?_isSome_of_utf8 (h : src.profile.charset = .utf8) (l : Literal) :
    (payload? src l).isSome := by
  rw [payload?, h, Charset.encode, Charset.bytes]
  rfl

end Recode

/-! ## The law -/

open Recode in
/-- The recoding law of one run on `code`, giving `o`, read through the replaced literals `rs`,
each with its payload, and the cut of `code` into stretches and pieces: the replaced literals
are the eligible ones whose content encodes, in order; the failed ones are the eligible ones
whose content does not, none under UTF-8; each piece of `code` is a replaced literal, standing
at its span, and its replacement in the output is the decode expression of a payload that
decodes to the literal's content. So the output with every expression replaced by the content
it decodes to, between the literal's quotes, is `code` again. -/
structure RecodeLaw (L : Language) (code : List Char) (o : Recoding)
    (rs : List (Literal × List Char)) (cuts : List Cut) (tail : List Char) : Prop where
  literals : rs.map Prod.fst = (Source.literals ⟨L, code⟩).filter fun l =>
    eligible ⟨L, code⟩ (Source.modulePathSpans ⟨L, code⟩) l && (payload? ⟨L, code⟩ l).isSome
  recoded : o.recoded = rs.length
  failed : o.failed = ((Source.literals ⟨L, code⟩).filter fun l =>
    eligible ⟨L, code⟩ (Source.modulePathSpans ⟨L, code⟩) l && (payload? ⟨L, code⟩ l).isNone).length
  failed_utf8 : L.profile.charset = .utf8 → o.failed = 0
  pieces : List.Forall₂ (fun c x => L.profile.charset.encode x.1.text = .ok x.2 ∧
    c.old = x.1.quote :: x.1.text ++ [x.1.quote] ∧ c.new = expression ⟨L, code⟩ x.2 ∧
    ∃ d, L.profile.charset.decode x.2 = .ok d ∧ c.old = x.1.quote :: d ++ [x.1.quote]) cuts rs
  places : (Cut.edits 0 cuts).map Edit.span = rs.map fun x => x.1.span
  source : code = Cut.before cuts tail
  output : o.code = Cut.after cuts tail

namespace Recode

theorem run_law (L : Language) (code : List Char) :
    ∃ o, run L code = some o ∧ ∃ rs cuts tail, RecodeLaw L code o rs cuts tail := by
  let src : Source := ⟨L, code⟩
  let rs := replaced src src.modulePathSpans src.literals
  let es : List Edit := rs.map fun x => { span := x.1.span, text := expression src x.2 }
  let failed := (src.literals.filter fun l =>
    eligible src src.modulePathSpans l && (payload? src l).isNone).length
  -- the replaced literals are some of the literals, so their spans tile the text
  have hsub : (es.map Edit.span).Sublist (src.literals.map Literal.span) := by
    have hfst := map_fst_replaced src src.modulePathSpans src.literals
    have hmap : es.map Edit.span = (rs.map Prod.fst).map Literal.span := by simp [es]
    rw [hmap, hfst]
    exact List.filter_sublist.map _
  obtain ⟨cuts, tail, hcode, hedits⟩ := (src.literals_tiling.sublist hsub).exists_cuts es rfl
  have hsplice : splice code es = some (Cut.after cuts tail) := by
    have h := Cut.splice_before cuts tail
    rwa [hedits, ← hcode] at h
  have hrun : run L code = some ⟨Cut.after cuts tail, rs.length, failed⟩ := by
    unfold run
    dsimp only
    rw [edits_eq ?_ ?_ ?_, failed_eq ?_ ?_ ?_]
    · simp only [List.length_map]
      rw [hsplice]
      rfl
    -- what recoding does with each kind of literal, read off its own definition
    all_goals intros; rfl
  refine ⟨_, hrun, rs, cuts, tail, ⟨map_fst_replaced _ _ _, rfl, rfl, fun h => ?_, ?_, ?_, hcode, rfl⟩⟩
  · -- under UTF-8 no content fails to encode
    simp only [failed, List.length_eq_zero_iff, List.filter_eq_nil_iff, Bool.and_eq_true,
      Option.isNone_iff_eq_none, not_and]
    intro l _ _ hnone
    have hsome := @payload?_isSome_of_utf8 src h l
    rw [hnone] at hsome
    cases hsome
  · -- each piece is the literal its span holds, replaced by its expression
    have hpieces := Cut.forall₂_edits tail cuts []
    simp only [List.nil_append, byteSize_nil, hedits, es] at hpieces
    rw [← hcode] at hpieces
    have hmem : ∀ x ∈ rs, x.1 ∈ src.literals ∧ payload? src x.1 = some x.2 := fun x hx =>
      ⟨List.mem_of_mem_filter (by rw [← map_fst_replaced]; exact List.mem_map_of_mem hx),
        payload?_of_mem_replaced hx⟩
    have hboth := (List.forall₂_and_left rs cuts).mpr
      ⟨hmem, (List.forall₂_map_right_iff.mp hpieces).flip⟩
    refine List.Forall₂.flip (hboth.imp fun {x c} ⟨⟨hlit, hpayload⟩, hslice, hnew⟩ => ?_)
    have hchars := (Lexer.mem_literalsFrom 0 code x.1 hlit).slice?_span
    rw [hslice, Option.some.injEq] at hchars
    have hencode : L.profile.charset.encode x.1.text = .ok x.2 := encode_of_payload? hpayload
    exact ⟨hencode, hchars, hnew.symm, x.1.text, Charset.decode_encode hencode, hchars⟩
  · rw [hedits]
    simp [es]

/-- Recoding is undone by decoding: every run gives an output obeying the recoding law, and
putting back, in place of each decode expression, the piece it replaced (the content its
payload decodes to, between the literal's quotes) gives the text back. -/
theorem recoding_is_undone_by_decoding (L : Language) (code : List Char) :
    ∃ o, run L code = some o ∧ ∃ rs cuts tail, RecodeLaw L code o rs cuts tail ∧
      splice o.code (Cut.edits 0 (cuts.map Cut.swap)) = some code := by
  obtain ⟨o, hrun, rs, cuts, tail, hlaw⟩ := run_law L code
  refine ⟨o, hrun, rs, cuts, tail, hlaw, ?_⟩
  rw [hlaw.output, hlaw.source]
  exact Cut.splice_after cuts tail

/-- A character of an identifier or keyword: an ASCII letter, digit or underscore. -/
def identChar (c : Char) : Bool := c.isAlphanum || c == '_'

theorem identChar_of_isQuote {q : Char} (h : Lexer.isQuote q = true) : identChar q = false := by
  simp only [Lexer.isQuote, Bool.or_eq_true, beq_iff_eq] at h
  rcases h with h | h <;> rw [h] <;> decide

end Recode

namespace RecodeLaw

open Recode

variable {L : Language} {code : List Char} {o : Recoding} {rs : List (Literal × List Char)}
  {cuts : List Cut} {tail : List Char}

theorem mem_literals (h : RecodeLaw L code o rs cuts tail) {x : Literal × List Char}
    (hx : x ∈ rs) : x.1 ∈ Source.literals ⟨L, code⟩ :=
  List.mem_of_mem_filter (by rw [← h.literals]; exact List.mem_map_of_mem hx)

theorem forall_piece (h : RecodeLaw L code o rs cuts tail) {P : Cut → Prop}
    (hP : ∀ x ∈ rs, ∀ c : Cut, c.old = x.1.quote :: x.1.text ++ [x.1.quote] →
      c.new = expression ⟨L, code⟩ x.2 → P c) :
    ∀ c ∈ cuts, P c := by
  have hmem := (List.forall₂_and_left rs cuts).mpr ⟨fun _ hx => hx, h.pieces.flip⟩
  have hall : List.Forall₂ (fun c _ => P c ∧ True) cuts rs :=
    hmem.flip.imp fun c x ⟨hx, hcx⟩ => ⟨hP x hx c hcx.2.1 hcx.2.2.1, trivial⟩
  exact ((List.forall₂_and_left cuts rs).mp hall).1

theorem old_ends_outside (h : RecodeLaw L code o rs cuts tail) :
    ∀ c ∈ cuts, c.old ≠ [] ∧ Cut.endsIn identChar c.old = false :=
  h.forall_piece fun x hx c hold _ => by
    have hq := Lexer.isQuote_of_mem_literalsFrom 0 code x.1 (h.mem_literals hx)
    rw [hold, Cut.endsIn, List.getLast?_concat]
    exact ⟨by simp, identChar_of_isQuote hq⟩

theorem new_ends_outside (h : RecodeLaw L code o rs cuts tail) :
    ∀ c ∈ cuts, c.new ≠ [] ∧ Cut.endsIn identChar c.new = false :=
  h.forall_piece fun x _ c _ hnew => by
    have hlast := expression_getLast? ⟨L, code⟩ x.2
    rw [← hnew] at hlast
    refine ⟨fun hnil => by simp [hnil] at hlast, ?_⟩
    rw [Cut.endsIn, hlast]
    decide

end RecodeLaw

namespace Recode

/-- What precedes each decode expression: the output of a run is, around its `i`-th expression,
the output's stretches before it, the expression and the rest, and the text before the
expression ends with a letter, digit or underscore exactly when the text before the literal it
replaces did. A literal written against a keyword or identifier gives an expression fused to
it; any other gives one that is not. -/
theorem recoding_keeps_what_precedes_literals (L : Language) (code : List Char) :
    ∃ o, run L code = some o ∧ ∃ rs cuts tail, RecodeLaw L code o rs cuts tail ∧
      ∀ i (hi : i < cuts.length),
        code = Cut.before (cuts.take i) cuts[i].gap ++ cuts[i].old ++
          Cut.before (cuts.drop (i + 1)) tail ∧
        o.code = Cut.after (cuts.take i) cuts[i].gap ++ cuts[i].new ++
          Cut.after (cuts.drop (i + 1)) tail ∧
        Cut.endsIn identChar (Cut.after (cuts.take i) cuts[i].gap) =
          Cut.endsIn identChar (Cut.before (cuts.take i) cuts[i].gap) := by
  obtain ⟨o, hrun, rs, cuts, tail, hlaw⟩ := run_law L code
  refine ⟨o, hrun, rs, cuts, tail, hlaw, fun i hi => ⟨?_, ?_, ?_⟩⟩
  · rw [hlaw.source]
    exact Cut.before_split cuts tail hi
  · rw [hlaw.output]
    exact Cut.after_split cuts tail hi
  · exact Cut.endsIn_before_piece hlaw.old_ends_outside hlaw.new_ends_outside i hi

/-- A literal written against a keyword gives an expression fused to it: JavaScript
return"ab" becomes returnatob("YWI="). -/
theorem recoding_fuses_return_with_atob :
    run .javaScript "return\"ab\"".toList = some ⟨"returnatob(\"YWI=\")".toList, 1, 0⟩ := by
  decide +kernel

/-- The statement rules miss module paths in two ways, and recoding then replaces the path. In Go,
a comment holding a closing parenthesis ends the parenthesised import list early, so the path
`os` after it lies in no statement. In JavaScript, a string holding `import` and a blank starts a
statement that runs to the opening quote of a later `require`, which then matches no statement,
so its path `fs` is recoded too. -/
theorem recoding_reaches_missed_import_paths :
    run .go "import (\n\t\"fmt\" // fmt (formatting)\n\t\"os\"\n)\n".toList =
      some ⟨("import (\n\t\"fmt\" // fmt (formatting)\n\tfunc() string \x7b b, _ := " ++
        "base64.StdEncoding.DecodeString(\"b3M=\"); return string(b) \x7d()\n)\n").toList, 1, 0⟩ ∧
    run .javaScript "const label = \"import data\"; const fs = require(\"fs\");".toList =
      some ⟨"const label = atob(\"aW1wb3J0IGRhdGE=\"); const fs = require(atob(\"ZnM=\"));".toList,
        2, 0⟩ :=
  ⟨by decide +kernel, by decide +kernel⟩

end Recode

end Obfuscator
