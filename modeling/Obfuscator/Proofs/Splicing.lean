import Mathlib
import Obfuscator.Proofs.Tiling
/-!
# Splicing, piece by piece

A splice along spans that tile a text is read piece by piece: the text is a run of stretches
kept as they are, each followed by a piece, and then a tail; the spliced text keeps the
stretches and the tail and puts each piece's replacement where the piece was. A `Cut` records
one stretch, its piece and the piece's replacement.

The main facts: every tiling cuts its text so, with any replacements (`Tiling.exists_cuts`);
splicing along the cut gives the text with the replacements (`Cut.splice_before`); and each edit's span
cuts its piece out of the text (`Cut.forall₂_edits`). Swapping every piece with its replacement
splices the result back (`Cut.splice_after`), and where pieces and replacements all end outside a
class of characters, the text before a replacement ends in the class exactly when the text before
its piece did (`Cut.endsIn_before_piece`).

A scan that replaces each match by a text made from all the text before the match is
`rewriteFrom`, read off the scan itself. Splicing along the scan's matches gives the same text
(`splice_spans_eq_rewrite`), so passes that splice along a scan can be reasoned about by
induction on the text.
-/

namespace Obfuscator
namespace Text

/-- A stretch of text kept as it is, the piece after it, and what replaces the piece. -/
structure Cut where
  gap : List Char
  old : List Char
  new : List Char
  deriving DecidableEq, Repr

namespace Cut

def before (cuts : List Cut) (tail : List Char) : List Char :=
  (cuts.flatMap fun c => c.gap ++ c.old) ++ tail

def after (cuts : List Cut) (tail : List Char) : List Char :=
  (cuts.flatMap fun c => c.gap ++ c.new) ++ tail

def edits : Nat → List Cut → List Edit
  | _, [] => []
  | base, c :: cuts =>
    ⟨⟨base + byteSize c.gap, base + byteSize c.gap + byteSize c.old⟩, c.new⟩ ::
      edits (base + byteSize c.gap + byteSize c.old) cuts

@[simp] theorem before_nil (tail : List Char) : before [] tail = tail := rfl

@[simp] theorem after_nil (tail : List Char) : after [] tail = tail := rfl

@[simp] theorem before_cons (c : Cut) (cuts : List Cut) (tail : List Char) :
    before (c :: cuts) tail = c.gap ++ c.old ++ before cuts tail := by
  simp [before]

@[simp] theorem after_cons (c : Cut) (cuts : List Cut) (tail : List Char) :
    after (c :: cuts) tail = c.gap ++ c.new ++ after cuts tail := by
  simp [after]

@[simp] theorem length_edits (base : Nat) (cuts : List Cut) :
    (edits base cuts).length = cuts.length := by
  induction cuts generalizing base with
  | nil => rfl
  | cons c cuts ih => simp [edits, ih]

theorem spliceFrom_before (tail : List Char) :
    ∀ (cuts : List Cut) (pre : List Char),
      spliceFrom (pre ++ before cuts tail) (byteSize pre) (edits (byteSize pre) cuts) =
        some (after cuts tail)
  | [], pre => by
      rw [before_nil, after_nil, edits, spliceFrom]
      exact dropBytes?_append pre tail
  | c :: cuts, pre => by
      have hsource : pre ++ before (c :: cuts) tail = pre ++ c.gap ++ c.old ++ before cuts tail := by
        simp
      have hgap : slice? (pre ++ before (c :: cuts) tail) (byteSize pre)
          (byteSize pre + byteSize c.gap) = some c.gap := by
        rw [hsource, List.append_assoc (pre ++ c.gap)]
        exact slice?_append pre c.gap _
      -- the rest is spliced from the end of the piece, as from a longer `pre`
      have hrest := spliceFrom_before tail cuts (pre ++ c.gap ++ c.old)
      simp only [byteSize_append] at hrest
      rw [← hsource] at hrest
      rw [edits, spliceFrom.eq_2, hgap, hrest]
      simp

/-- Splicing a text along its cut gives the text with every piece replaced. -/
theorem splice_before (cuts : List Cut) (tail : List Char) :
    splice (before cuts tail) (edits 0 cuts) = some (after cuts tail) := by
  simpa [splice] using spliceFrom_before tail cuts []

/-- Each edit's span cuts its piece out of the text, and its text is the piece's replacement. -/
theorem forall₂_edits (tail : List Char) :
    ∀ (cuts : List Cut) (pre : List Char),
      List.Forall₂ (fun c e => slice? (pre ++ before cuts tail) e.span.start e.span.stop =
        some c.old ∧ e.text = c.new) cuts (edits (byteSize pre) cuts)
  | [], _ => List.Forall₂.nil
  | c :: cuts, pre => by
      have hsource : pre ++ before (c :: cuts) tail =
          (pre ++ c.gap) ++ c.old ++ before cuts tail := by
        simp
      refine List.Forall₂.cons ⟨?_, rfl⟩ ?_
      · rw [hsource]
        simpa [Nat.add_assoc] using slice?_append (pre ++ c.gap) c.old (before cuts tail)
      · have hrest := forall₂_edits tail cuts (pre ++ c.gap ++ c.old)
        simp only [byteSize_append] at hrest
        simpa [hsource] using hrest

def swap (c : Cut) : Cut := ⟨c.gap, c.new, c.old⟩

@[simp] theorem before_map_swap (cuts : List Cut) (tail : List Char) :
    before (cuts.map swap) tail = after cuts tail := by
  induction cuts with
  | nil => rfl
  | cons c cuts ih => simp [swap, ih]

@[simp] theorem after_map_swap (cuts : List Cut) (tail : List Char) :
    after (cuts.map swap) tail = before cuts tail := by
  induction cuts with
  | nil => rfl
  | cons c cuts ih => simp [swap, ih]

/-- Splicing the text after replacement along the swapped cut gives the text before it back. -/
theorem splice_after (cuts : List Cut) (tail : List Char) :
    splice (after cuts tail) (edits 0 (cuts.map swap)) = some (before cuts tail) := by
  simpa using splice_before (cuts.map swap) tail

theorem after_eq_append (cuts : List Cut) (tail : List Char) :
    after cuts tail = after cuts [] ++ tail := by
  simp [after]

theorem before_eq_append (cuts : List Cut) (tail : List Char) :
    before cuts tail = before cuts [] ++ tail := by
  simp [before]

theorem before_split (cuts : List Cut) (tail : List Char) {i : Nat} (hi : i < cuts.length) :
    before cuts tail =
      before (cuts.take i) cuts[i].gap ++ cuts[i].old ++ before (cuts.drop (i + 1)) tail := by
  conv_lhs => rw [← List.take_append_drop i cuts, ← List.getElem_cons_drop hi]
  simp only [before, List.flatMap_append, List.flatMap_cons, List.append_assoc]

theorem after_split (cuts : List Cut) (tail : List Char) {i : Nat} (hi : i < cuts.length) :
    after cuts tail =
      after (cuts.take i) cuts[i].gap ++ cuts[i].new ++ after (cuts.drop (i + 1)) tail := by
  conv_lhs => rw [← List.take_append_drop i cuts, ← List.getElem_cons_drop hi]
  simp only [after, List.flatMap_append, List.flatMap_cons, List.append_assoc]

/-! ### What precedes a piece -/

def endsIn (p : Char → Bool) (s : List Char) : Bool := (s.getLast?.map p).getD false

theorem endsIn_append (p : Char → Bool) (xs ys : List Char) :
    endsIn p (xs ++ ys) = if ys = [] then endsIn p xs else endsIn p ys := by
  by_cases hys : ys = []
  · simp [hys]
  · simp [endsIn, hys, List.getLast?_append_of_ne_nil _ hys]

theorem endsIn_flatMap {p : Char → Bool} {piece : Cut → List Char} :
    ∀ {cuts : List Cut}, (∀ c ∈ cuts, piece c ≠ [] ∧ endsIn p (piece c) = false) →
      endsIn p (cuts.flatMap fun c => c.gap ++ piece c) = false
  | [], _ => rfl
  | c :: cuts, h => by
      have hc := h c List.mem_cons_self
      rw [List.flatMap_cons, endsIn_append]
      split
      · rw [← List.append_nil (c.gap ++ piece c), endsIn_append, if_pos rfl, endsIn_append,
          if_neg hc.1]
        exact hc.2
      · exact endsIn_flatMap fun d hd => h d (List.mem_cons_of_mem c hd)

/-- Where every piece and every replacement ends outside the class, each replacement follows a
character of the class exactly when its piece did: both follow the same stretch, or, where the
stretch is empty, the previous piece and its replacement, or nothing. -/
theorem endsIn_before_piece {p : Char → Bool} {cuts : List Cut}
    (hold : ∀ c ∈ cuts, c.old ≠ [] ∧ endsIn p c.old = false)
    (hnew : ∀ c ∈ cuts, c.new ≠ [] ∧ endsIn p c.new = false) (i : Nat) (hi : i < cuts.length) :
    endsIn p (after (cuts.take i) cuts[i].gap) = endsIn p (before (cuts.take i) cuts[i].gap) := by
  rw [after_eq_append, before_eq_append, endsIn_append, endsIn_append]
  split
  · simp only [after, before, List.append_nil]
    rw [endsIn_flatMap fun c hc => hnew c (List.mem_of_mem_take hc),
      endsIn_flatMap fun c hc => hold c (List.mem_of_mem_take hc)]
  · rfl

end Cut

namespace Tiling

/-- A tiling cuts its text into stretches and pieces, one piece for each span, and the pieces
can be given any replacements. -/
theorem exists_cuts {base : Nat} {text : List Char} {spans : List Span}
    (h : Tiling base text spans) :
    ∀ es : List Edit, es.map Edit.span = spans →
      ∃ cuts tail, text = Cut.before cuts tail ∧ Cut.edits base cuts = es := by
  induction h with
  | nil base text =>
      intro es hes
      exact ⟨[], text, rfl, (List.map_eq_nil_iff.mp hes).symm⟩
  | @skip base c text spans _ ih =>
      intro es hes
      obtain ⟨cuts, tail, htext, hedits⟩ := ih es hes
      cases cuts with
      | nil => exact ⟨[], c :: tail, by simp [htext], hedits⟩
      | cons k cuts =>
          -- the character joins the stretch before the first piece
          refine ⟨{ k with gap := c :: k.gap } :: cuts, tail, by simp [htext], ?_⟩
          rw [← hedits]
          simp [Cut.edits, Nat.add_assoc]
  | @span base piece text spans _ ih =>
      intro es hes
      obtain ⟨e, es, rfl, hhead, htail⟩ := List.map_eq_cons_iff.mp hes
      obtain ⟨cuts, tail, htext, hedits⟩ := ih es htail
      refine ⟨⟨[], piece, e.text⟩ :: cuts, tail, by simp [htext], ?_⟩
      simp [Cut.edits, hedits, ← hhead]

end Tiling

/-! ## Rewriting along a scan -/

/-- What a scan makes of `text`, which follows `before`, when each match is replaced by what `f`
makes of all the text before the match. -/
def rewriteFrom (rule : Lexer.Rule) (f : List Char → List Char) (before : List Char) :
    List Char → List Char
  | [] => []
  | c :: cs =>
    match rule before.getLast? (c :: cs) with
    | some (k + 1) =>
      f before ++ rewriteFrom rule f (before ++ (c :: cs).take (k + 1)) ((c :: cs).drop (k + 1))
    | _ => c :: rewriteFrom rule f (before ++ [c]) cs
termination_by text => text.length
decreasing_by
  · simp only [List.length_drop, List.length_cons]; omega
  · simp

theorem spliceFrom_spansFrom (rule : Lexer.Rule) (f : List Char → List Char) (code : List Char)
    (e : Span → List Char)
    (he : ∀ b m rest, code = b ++ m ++ rest → e ⟨byteSize b, byteSize b + byteSize m⟩ = f b) :
    ∀ (before text P gap : List Char), code = before ++ text → before = P ++ gap →
      spliceFrom code (byteSize P)
          ((Lexer.spansFrom rule before.getLast? (byteSize before) text).map
            fun s => { span := s, text := e s }) =
        some (gap ++ rewriteFrom rule f before text) := by
  intro before text
  fun_induction rewriteFrom rule f before text with
  | case1 before =>
      intro P gap hcode hbefore
      rw [Lexer.spansFrom, List.map_nil, spliceFrom, hcode, hbefore, List.append_nil]
      simpa using dropBytes?_append P gap
  | case2 before c cs k hrule ih =>
      intro P gap hcode hbefore
      have htaken : (c :: cs).take (k + 1) ≠ [] := by simp
      have hlast : ((c :: cs).take (k + 1)).getLast? =
          (before ++ (c :: cs).take (k + 1)).getLast? := by
        rw [List.getLast?_append_of_ne_nil _ htaken]
      have hsplit : code = before ++ (c :: cs).take (k + 1) ++ (c :: cs).drop (k + 1) := by
        rw [hcode, List.append_assoc, List.take_append_drop]
      have hgap : slice? code (byteSize P) (byteSize before) = some gap := by
        rw [hcode, hbefore, List.append_assoc]
        simpa using slice?_append P gap (c :: cs)
      -- the match is replaced by what `f` makes of the text before it
      have hmatch := he before ((c :: cs).take (k + 1)) ((c :: cs).drop (k + 1)) hsplit
      have hrest := ih (before ++ (c :: cs).take (k + 1)) [] hsplit (by simp)
      rw [Lexer.spansFrom, hrule]
      simp only [List.map_cons]
      rw [spliceFrom.eq_2, hgap, hlast, hmatch, ← byteSize_append, hrest]
      simp
  | case3 before c cs hrule ih =>
      intro P gap hcode hbefore
      have hnext := ih P (gap ++ [c]) (by simp [hcode]) (by simp [hbefore])
      have hprev : (before ++ [c]).getLast? = some c := by simp
      rw [hprev, byteSize_append] at hnext
      -- no match here: the character is kept and the scan moves one on
      have hspans : Lexer.spansFrom rule before.getLast? (byteSize before) (c :: cs) =
          Lexer.spansFrom rule (some c) (byteSize before + c.utf8Size) cs := by
        rw [Lexer.spansFrom]
        split
        · rename_i k hk
          exact absurd hk (hrule k)
        · simp
      rw [hspans]
      simpa using hnext

/-- Splicing a whole text along a scan's matches is rewriting along the scan. -/
theorem splice_spans_eq_rewrite (rule : Lexer.Rule) (f : List Char → List Char)
    (code : List Char) (e : Span → List Char)
    (he : ∀ b m rest, code = b ++ m ++ rest → e ⟨byteSize b, byteSize b + byteSize m⟩ = f b) :
    splice code ((Lexer.spans rule code).map fun s => { span := s, text := e s }) =
      some (rewriteFrom rule f [] code) := by
  simpa [splice, Lexer.spans] using spliceFrom_spansFrom rule f code e he [] code [] [] rfl rfl

theorem mapM_eq_some_map {α β : Type} {g : α → Option β} {h : α → β} :
    ∀ {xs : List α}, (∀ a ∈ xs, g a = some (h a)) → xs.mapM g = some (xs.map h)
  | [], _ => rfl
  | a :: xs, hg => by
      rw [List.mapM_cons, hg a List.mem_cons_self,
        mapM_eq_some_map fun b hb => hg b (List.mem_cons_of_mem a hb)]
      rfl

end Text
end Obfuscator
