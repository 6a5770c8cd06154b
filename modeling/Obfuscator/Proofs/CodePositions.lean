import Obfuscator.Proofs.WholeWords
import Obfuscator.Lexer
/-!
# The lexer on chunks

Quoted literals, their holes and the letters before a quote are all decided by characters that
are never word characters: quotes, line breaks, braces. So on a chunked text each of them can be
computed from the kinds of the chunks alone, with chunk indices for positions. This module
defines those index-level scans and proves that the lexer's own results are theirs, read through
`pos`:

* `literalsFrom_unchunk`: the quoted literals;
* `holesFrom_unchunk`: the holes of a literal;
* `isInterpolated_toLiteral`: whether a literal interpolates;
* `codeWordSpans_unchunk`: the occurrences of a word that stand in code.

Whatever depends on the kinds only is then unchanged when words are replaced by words of the
same kind; that is the invariant renaming runs on.
-/

namespace Obfuscator
namespace Text

open Lexer

/-! ## Kinds -/

/-- What the lexer sees of a chunk: a character, or a word together with one bit of it, whether
the word right before a quote would make the literal interpolate. -/
inductive Kind where
  | word (marks : Bool)
  | other (c : Char)
  deriving DecidableEq, Repr

def marksInterpolation (marker : Option Char) (w : List Char) : Bool :=
  match marker with
  | some m => hasInterpolationPrefix m w.reverse
  | none => false

def Chunk.kind (marker : Option Char) : Chunk → Kind
  | .word w => .word (marksInterpolation marker w)
  | .other c => .other c

@[simp] theorem Chunk.kind_eq_other {marker : Option Char} {k : Chunk} {c : Char} :
    k.kind marker = .other c ↔ k = .other c := by
  cases k <;> simp [Chunk.kind]

def kinds (marker : Option Char) (cs : List Chunk) : List Kind := cs.map (Chunk.kind marker)

@[simp] theorem kinds_nil (marker : Option Char) : kinds marker [] = [] := rfl

@[simp] theorem kinds_cons (marker : Option Char) (k : Chunk) (cs : List Chunk) :
    kinds marker (k :: cs) = k.kind marker :: kinds marker cs := rfl

@[simp] theorem kinds_append (marker : Option Char) (as bs : List Chunk) :
    kinds marker (as ++ bs) = kinds marker as ++ kinds marker bs := by
  simp [kinds]

@[simp] theorem length_kinds (marker : Option Char) (cs : List Chunk) :
    (kinds marker cs).length = cs.length := by
  simp [kinds]

theorem kinds_eq_other_cons {marker : Option Char} {cs : List Chunk} {c : Char} {ks : List Kind}
    (h : kinds marker cs = .other c :: ks) : ∃ rest, cs = .other c :: rest := by
  cases cs with
  | nil => cases h
  | cons k rest =>
      simp only [kinds_cons, List.cons.injEq, Chunk.kind_eq_other] at h
      exact ⟨rest, by rw [h.1]⟩

def WordChunks (cs : List Chunk) : Prop := ∀ w, Chunk.word w ∈ cs → IsWord w

theorem Chunked.wordChunks {cs : List Chunk} (h : Chunked cs) : WordChunks cs := by
  induction h with
  | nil =>
      intro w hw
      cases hw
  | other _ _ ih =>
      intro w hw
      rcases List.mem_cons.mp hw with hw | hw
      · cases hw
      · exact ih w hw
  | word hword _ _ ih =>
      intro w hw
      rcases List.mem_cons.mp hw with hw | hw
      · cases hw
        exact hword
      · exact ih w hw

theorem WordChunks.of_cons {k : Chunk} {cs : List Chunk} (h : WordChunks (k :: cs)) :
    WordChunks cs :=
  fun w hw => h w (List.mem_cons_of_mem k hw)

theorem WordChunks.of_sublist {cs ds : List Chunk} (h : WordChunks cs) (hsub : List.Sublist ds cs) :
    WordChunks ds :=
  fun w hw => h w (hsub.subset hw)

theorem isWordChar_quote {c : Char} (h : isQuote c = true) : isWordChar c = false := by
  simp only [isQuote, Bool.or_eq_true, beq_iff_eq] at h
  rcases h with rfl | rfl <;> decide

theorem isWordChar_newline : isWordChar '\n' = false := by decide

theorem isWordChar_openBrace : isWordChar '\x7b' = false := by decide

theorem isWordChar_closeBrace : isWordChar '\x7d' = false := by decide

@[simp] theorem utf8Size_openBrace : ('\x7b' : Char).utf8Size = 1 := rfl

@[simp] theorem utf8Size_closeBrace : ('\x7d' : Char).utf8Size = 1 := rfl

/-! ## Quoted literals -/

theorem closeLiteral_nil (q : Char) : closeLiteral q [] = none := rfl

theorem closeLiteral_cons (q c : Char) (cs : List Char) :
    closeLiteral q (c :: cs) =
      if c = q then some ([], cs)
      else if c = '\n' then none
      else (closeLiteral q cs).map fun p => (c :: p.1, p.2) := by
  by_cases hcq : c = q
  · subst hcq
    simp [closeLiteral]
  · by_cases hcn : c = '\n'
    · subst hcn
      simp [closeLiteral]
    · simp only [closeLiteral, hcq, hcn, if_false]
      rw [List.takeWhile_cons_of_pos (p := fun d => d != q && d != '\n') (a := c) (l := cs)
        (by simp [hcq, hcn]), List.length_cons, List.drop_succ_cons]
      split <;> simp_all

theorem closeLiteral_append (q : Char) {w : List Char} (hw : ∀ c ∈ w, c ≠ q ∧ c ≠ '\n')
    (rest : List Char) :
    closeLiteral q (w ++ rest) = (closeLiteral q rest).map fun p => (w ++ p.1, p.2) := by
  induction w with
  | nil =>
      simp
  | cons c cs ih =>
      obtain ⟨hcq, hcn⟩ := hw c List.mem_cons_self
      rw [List.cons_append, closeLiteral_cons, if_neg hcq, if_neg hcn,
        ih fun d hd => hw d (List.mem_cons_of_mem c hd), Option.map_map]
      rfl

def closeKinds (q : Char) : List Kind → Option Nat
  | [] => none
  | .other c :: ks =>
    if c = q then some 0 else if c = '\n' then none else (closeKinds q ks).map (· + 1)
  | .word _ :: ks => (closeKinds q ks).map (· + 1)

theorem closeLiteral_unchunk (m : Option Char) {q : Char} (hq : isWordChar q = false) :
    ∀ {ks : List Chunk}, WordChunks ks →
      closeLiteral q (unchunk ks) =
        (closeKinds q (kinds m ks)).map fun n => (unchunk (ks.take n), unchunk (ks.drop (n + 1)))
  | [], _ => rfl
  | .other d :: ks, hks => by
      have ih := closeLiteral_unchunk m hq hks.of_cons
      simp only [unchunk_cons, Chunk.chars, List.cons_append, List.nil_append, kinds_cons,
        Chunk.kind, closeKinds, closeLiteral_cons]
      by_cases hdq : d = q
      · simp [hdq]
      · by_cases hdn : d = '\n'
        · simp [hdn]
        · simp [hdq, hdn, ih, Option.map_map, Function.comp_def, Chunk.chars]
  | .word w :: ks, hks => by
      have ih := closeLiteral_unchunk m hq hks.of_cons
      have hw : ∀ c ∈ w, c ≠ q ∧ c ≠ '\n' := by
        intro c hc
        have hword := (hks w List.mem_cons_self).2 c hc
        constructor
        · intro h
          rw [h, hq] at hword
          cases hword
        · intro h
          rw [h, isWordChar_newline] at hword
          cases hword
      simp only [unchunk_cons, Chunk.chars, kinds_cons, Chunk.kind, closeKinds]
      rw [closeLiteral_append q hw, ih]
      simp [Option.map_map, Function.comp_def, Chunk.chars]

theorem closeKinds_eq_some {m : Option Char} {q : Char} :
    ∀ {ks : List Chunk} {n : Nat}, closeKinds q (kinds m ks) = some n →
      ∃ body rest, ks = body ++ .other q :: rest ∧ body.length = n
  | [], _, h => by cases h
  | .other d :: ks, n, h => by
      simp only [kinds_cons, Chunk.kind, closeKinds] at h
      by_cases hdq : d = q
      · subst hdq
        simp at h
        exact ⟨[], ks, by simp, by simp [h]⟩
      · by_cases hdn : d = '\n'
        · subst hdn
          simp [hdq] at h
        · simp only [hdq, hdn, if_false, Option.map_eq_some_iff] at h
          obtain ⟨k, hk, rfl⟩ := h
          obtain ⟨body, rest, rfl, rfl⟩ := closeKinds_eq_some hk
          exact ⟨.other d :: body, rest, by simp, by simp⟩
  | .word w :: ks, n, h => by
      simp only [kinds_cons, Chunk.kind, closeKinds, Option.map_eq_some_iff] at h
      obtain ⟨k, hk, rfl⟩ := h
      obtain ⟨body, rest, rfl, rfl⟩ := closeKinds_eq_some hk
      exact ⟨.word w :: body, rest, by simp, by simp⟩

/-- A literal found on chunks: its quote and the indices of its two quotes. -/
structure LiteralAt where
  quote : Char
  opening : Nat
  closing : Nat
  deriving DecidableEq, Repr

def LiteralAt.toLiteral (cs : List Chunk) (l : LiteralAt) : Literal :=
  { quote := l.quote,
    span := ⟨pos cs l.opening, pos cs (l.closing + 1)⟩,
    content := ⟨pos cs (l.opening + 1), pos cs l.closing⟩,
    text := unchunk ((cs.drop (l.opening + 1)).take (l.closing - (l.opening + 1))) }

def litIndices : Nat → List Kind → List LiteralAt
  | _, [] => []
  | i, .other c :: ks =>
    if isQuote c then
      match closeKinds c ks with
      | some n => ⟨c, i, i + n + 1⟩ :: litIndices (i + n + 2) (ks.drop (n + 1))
      | none => litIndices (i + 1) ks
    else litIndices (i + 1) ks
  | i, .word _ :: ks => litIndices (i + 1) ks
termination_by _ ks => ks.length
decreasing_by
  all_goals simp only [List.length_drop, List.length_cons]
  all_goals omega

theorem literalsFrom_append {w : List Char} (hw : ∀ c ∈ w, isQuote c = false) (rest : List Char) :
    ∀ offset, literalsFrom offset (w ++ rest) = literalsFrom (offset + byteSize w) rest := by
  induction w with
  | nil =>
      intro offset
      simp
  | cons c cs ih =>
      intro offset
      have hc := hw c List.mem_cons_self
      rw [List.cons_append, literalsFrom.eq_2, if_neg (by simp [hc]),
        ih (fun d hd => hw d (List.mem_cons_of_mem c hd))]
      simp [Nat.add_assoc]

theorem isQuote_of_isWordChar {c : Char} (h : isWordChar c = true) : isQuote c = false := by
  cases hq : isQuote c with
  | false => rfl
  | true =>
      rw [isWordChar_quote hq] at h
      cases h

theorem toLiteral_quoted (pre body rest : List Chunk) (c : Char) :
    LiteralAt.toLiteral (pre ++ .other c :: (body ++ .other c :: rest))
        ⟨c, pre.length, pre.length + body.length + 1⟩ =
      { quote := c,
        span := ⟨byteSize (unchunk pre),
          byteSize (unchunk pre) + c.utf8Size + byteSize (unchunk body) + c.utf8Size⟩,
        content := ⟨byteSize (unchunk pre) + c.utf8Size,
          byteSize (unchunk pre) + c.utf8Size + byteSize (unchunk body)⟩,
        text := unchunk body } := by
  have hopen := pos_length_append pre (.other c :: (body ++ .other c :: rest))
  have hinner := pos_length_append (pre ++ [.other c]) (body ++ .other c :: rest)
  have hclose := pos_length_append (pre ++ .other c :: body) (.other c :: rest)
  have hafter := pos_length_append (pre ++ .other c :: body ++ [.other c]) rest
  simp only [List.append_assoc, List.cons_append, List.nil_append, List.length_append,
    List.length_cons, List.length_nil, unchunk_append, unchunk_cons, unchunk_nil, Chunk.chars,
    byteSize_append, byteSize_cons, byteSize_nil, List.append_nil] at hinner hclose hafter
  simp only [LiteralAt.toLiteral, hopen]
  rw [show pre.length + 1 = pre.length + 0 + 1 from rfl, hinner,
    show pre.length + body.length + 1 = pre.length + (body.length + 1) by omega, hclose,
    show pre.length + (body.length + 1) + 1 = pre.length + (body.length + 1 + 1) by omega, hafter]
  have hlen : pre.length + (body.length + 1) - (pre.length + 1) = body.length := by omega
  have hdrop : pre.drop (pre.length + 1) = [] := List.drop_eq_nil_of_le (by omega)
  simp [List.drop_append, Nat.add_assoc, hlen, hdrop]

/-- The literal scan of a chunked text is the index-level scan of its kinds. -/
theorem literalsFrom_unchunk (m : Option Char) :
    ∀ (pre cs : List Chunk), WordChunks cs →
      literalsFrom (byteSize (unchunk pre)) (unchunk cs) =
        (litIndices pre.length (kinds m cs)).map (LiteralAt.toLiteral (pre ++ cs))
  | pre, [], _ => by
      simp [litIndices, literalsFrom.eq_1]
  | pre, .word w :: ks, hks => by
      have hw : ∀ c ∈ w, isQuote c = false :=
        fun c hc => isQuote_of_isWordChar ((hks w List.mem_cons_self).2 c hc)
      have ih := literalsFrom_unchunk m (pre ++ [.word w]) ks hks.of_cons
      simp only [unchunk_append, unchunk_cons, unchunk_nil, Chunk.chars, List.append_nil,
        byteSize_append, List.length_append, List.length_singleton, List.append_assoc,
        List.singleton_append] at ih
      rw [unchunk_cons, Chunk.chars, literalsFrom_append hw, ih]
      simp [litIndices, Chunk.kind]
  | pre, .other c :: ks, hks => by
      have hskip : literalsFrom (byteSize (unchunk pre) + c.utf8Size) (unchunk ks) =
          (litIndices (pre.length + 1) (kinds m ks)).map
            (LiteralAt.toLiteral (pre ++ .other c :: ks)) := by
        have ih := literalsFrom_unchunk m (pre ++ [.other c]) ks hks.of_cons
        simpa [Chunk.chars, List.append_assoc] using ih
      by_cases hq : isQuote c = true
      · have hcw := isWordChar_quote hq
        have hcl := closeLiteral_unchunk m hcw hks.of_cons
        cases hclose : closeKinds c (kinds m ks) with
        | none =>
            rw [hclose] at hcl
            simp only [unchunk_cons, Chunk.chars, List.cons_append, List.nil_append]
            rw [literalsFrom.eq_2, if_pos hq]
            split
            · rename_i hc
              rw [hc] at hcl
              cases hcl
            · rw [hskip]
              simp [litIndices, Chunk.kind, hq, hclose]
        | some n =>
            obtain ⟨body, rest, hsplit, rfl⟩ := closeKinds_eq_some hclose
            have hlt : rest.length < ks.length := by rw [hsplit]; simp; omega
            have hsub : List.Sublist rest (.other c :: ks) := by
              rw [hsplit]
              exact ((List.sublist_cons_self _ rest).trans (List.sublist_append_right body _)).cons _
            have ih := literalsFrom_unchunk m (pre ++ .other c :: body ++ [.other c]) rest
              (hks.of_sublist hsub)
            subst hsplit
            rw [hclose] at hcl
            simp only [Option.map_some, List.take_left'] at hcl
            have hrest : (body ++ .other c :: rest).drop (body.length + 1) = rest := by
              simp [List.drop_append]
            rw [hrest] at hcl
            simp only [unchunk_append, unchunk_cons, unchunk_nil, Chunk.chars, List.append_nil,
              byteSize_append, byteSize_cons, byteSize_nil, List.length_append,
              List.length_cons, List.length_nil, List.append_assoc, List.cons_append,
              List.nil_append] at ih
            simp only [unchunk_cons, Chunk.chars, List.cons_append, List.nil_append]
            rw [literalsFrom.eq_2, if_pos hq]
            split
            · rename_i b r hc
              rw [hc] at hcl
              obtain ⟨rfl, rfl⟩ := Prod.mk.inj (Option.some.inj hcl)
              simp only [kinds_cons, Chunk.kind]
              rw [litIndices.eq_2, if_pos hq]
              simp only [hclose, List.map_cons]
              rw [toLiteral_quoted]
              simp only [List.cons.injEq, true_and]
              rw [show byteSize (unchunk pre) + c.utf8Size + byteSize (unchunk body) +
                  c.utf8Size = byteSize (unchunk pre) + (c.utf8Size + (byteSize (unchunk body) +
                  (c.utf8Size + 0))) by omega, ih]
              have hdrop : (kinds m body).drop (body.length + 1) = [] :=
                List.drop_eq_nil_of_le (by simp)
              simp [List.drop_append, Nat.add_assoc, hdrop]
            · rename_i hc
              rw [hc] at hcl
              cases hcl
      · simp only [unchunk_cons, Chunk.chars, List.cons_append, List.nil_append]
        rw [literalsFrom.eq_2, if_neg hq, hskip]
        simp [litIndices, Chunk.kind, hq]
termination_by _ cs => cs.length
decreasing_by
  all_goals simp only [List.length_cons]
  all_goals omega

theorem literals_unchunk (m : Option Char) {cs : List Chunk} (hcs : WordChunks cs) :
    literals (unchunk cs) = (litIndices 0 (kinds m cs)).map (LiteralAt.toLiteral cs) := by
  simpa [literals] using literalsFrom_unchunk m [] cs hcs

/-! ## Holes -/

def closeBrace : List Kind → Option Nat
  | [] => none
  | .other c :: ks => if c = '\x7d' then some 0 else (closeBrace ks).map (· + 1)
  | .word _ :: ks => (closeBrace ks).map (· + 1)

def holeIndices : Nat → List Kind → List (Nat × Nat)
  | _, [] => []
  | i, .other '\x7b' :: .other '\x7b' :: ks => holeIndices (i + 2) ks
  | i, .other '\x7d' :: .other '\x7d' :: ks => holeIndices (i + 2) ks
  | i, .other '\x7b' :: ks =>
    match closeBrace ks with
    | some n => (i + 1, i + 1 + n) :: holeIndices (i + n + 2) (ks.drop (n + 1))
    | none => []
  | i, _ :: ks => holeIndices (i + 1) ks
termination_by _ ks => ks.length
decreasing_by
  all_goals simp only [List.length_drop, List.length_cons]
  all_goals omega

def holeSpan (cs : List Chunk) (h : Nat × Nat) : Span := ⟨pos cs h.1, pos cs h.2⟩

theorem closeBrace_eq_some {m : Option Char} :
    ∀ {ks : List Chunk} {n : Nat}, closeBrace (kinds m ks) = some n →
      ∃ body rest, ks = body ++ .other '\x7d' :: rest ∧ body.length = n ∧
        .other '\x7d' ∉ body
  | [], _, h => by cases h
  | .other d :: ks, n, h => by
      simp only [kinds_cons, Chunk.kind, closeBrace] at h
      by_cases hd : d = '\x7d'
      · subst hd
        simp at h
        exact ⟨[], ks, by simp, by simp [h], by simp⟩
      · simp only [hd, if_false, Option.map_eq_some_iff] at h
        obtain ⟨k, hk, rfl⟩ := h
        obtain ⟨body, rest, rfl, rfl, hbody⟩ := closeBrace_eq_some hk
        exact ⟨.other d :: body, rest, by simp, by simp, by simp [Ne.symm hd, hbody]⟩
  | .word w :: ks, n, h => by
      simp only [kinds_cons, Chunk.kind, closeBrace, Option.map_eq_some_iff] at h
      obtain ⟨k, hk, rfl⟩ := h
      obtain ⟨body, rest, rfl, rfl, hbody⟩ := closeBrace_eq_some hk
      exact ⟨.word w :: body, rest, by simp, by simp, by simp [hbody]⟩

theorem closeBrace_eq_none {m : Option Char} :
    ∀ {ks : List Chunk}, closeBrace (kinds m ks) = none → .other '\x7d' ∉ ks
  | [], _ => by simp
  | .other d :: ks, h => by
      simp only [kinds_cons, Chunk.kind, closeBrace] at h
      by_cases hd : d = '\x7d'
      · simp [hd] at h
      · simp only [hd, if_false, Option.map_eq_none_iff] at h
        simp [Ne.symm hd, closeBrace_eq_none h]
  | .word w :: ks, h => by
      simp only [kinds_cons, Chunk.kind, closeBrace, Option.map_eq_none_iff] at h
      simp [closeBrace_eq_none h]

theorem closeBrace_not_mem_unchunk {ks : List Chunk} (hks : WordChunks ks)
    (h : .other '\x7d' ∉ ks) : '\x7d' ∉ unchunk ks := by
  simp only [unchunk, List.mem_flatMap, not_exists, not_and]
  intro k hk hc
  cases k with
  | word w =>
      have := (hks w hk).2 _ hc
      rw [isWordChar_closeBrace] at this
      cases this
  | other d =>
      simp only [Chunk.chars, List.mem_singleton] at hc
      subst hc
      exact h hk

theorem takeWhile_ne_of_not_mem {d : Char} {xs : List Char} (hxs : d ∉ xs) :
    xs.takeWhile (· != d) = xs := by
  induction xs with
  | nil => rfl
  | cons x xs ih =>
      have hx : x ≠ d := fun h => hxs (h ▸ List.mem_cons_self)
      rw [List.takeWhile_cons_of_pos (by simpa using hx),
        ih fun h => hxs (List.mem_cons_of_mem x h)]

theorem takeWhile_ne_append {d : Char} {xs : List Char} (hxs : d ∉ xs) (ys : List Char) :
    (xs ++ d :: ys).takeWhile (· != d) = xs := by
  rw [List.takeWhile_append, takeWhile_ne_of_not_mem hxs, if_pos rfl,
    List.takeWhile_cons_of_neg (by simp), List.append_nil]

theorem holesFrom_append {w : List Char} (hw : ∀ c ∈ w, isWordChar c = true)
    (rest : List Char) :
    ∀ offset, holesFrom offset (w ++ rest) = holesFrom (offset + byteSize w) rest := by
  induction w with
  | nil =>
      intro offset
      simp
  | cons c cs ih =>
      intro offset
      have hc := hw c List.mem_cons_self
      have hopen : c ≠ '\x7b' := fun h => by rw [h, isWordChar_openBrace] at hc; cases hc
      have hclose : c ≠ '\x7d' := fun h => by rw [h, isWordChar_closeBrace] at hc; cases hc
      rw [List.cons_append, holesFrom.eq_5 _ _ _ (fun _ h _ => hopen h) (fun _ h _ => hclose h)
        hopen, ih (fun d hd => hw d (List.mem_cons_of_mem c hd))]
      simp [Nat.add_assoc]

theorem unchunk_eq_cons {ks : List Chunk} (hks : WordChunks ks) {d : Char}
    (hd : isWordChar d = false) {rest : List Char} (h : unchunk ks = d :: rest) :
    ∃ ks', ks = .other d :: ks' := by
  cases ks with
  | nil => cases h
  | cons k ks' =>
      cases k with
      | other e =>
          simp only [unchunk_cons, Chunk.chars, List.cons_append, List.nil_append,
            List.cons.injEq] at h
          exact ⟨ks', by rw [h.1]⟩
      | word w =>
          obtain ⟨x, xs, rfl⟩ := List.exists_cons_of_ne_nil (hks w List.mem_cons_self).1
          have hx := (hks _ List.mem_cons_self).2 x List.mem_cons_self
          simp only [unchunk_cons, Chunk.chars, List.cons_append, List.cons.injEq] at h
          rw [h.1, hd] at hx
          cases hx

theorem holesFrom_openBrace (m : Option Char) {ks : List Chunk} (hks : WordChunks ks)
    (hnot : ∀ ks', ks ≠ .other '\x7b' :: ks') (offset : Nat) :
    holesFrom offset ('\x7b' :: unchunk ks) =
      match closeBrace (kinds m ks) with
      | some n =>
        ⟨offset + 1, offset + 1 + byteSize (unchunk (ks.take n))⟩ ::
          holesFrom (offset + 1 + byteSize (unchunk (ks.take n)) + 1) (unchunk (ks.drop (n + 1)))
      | none => [] := by
  have hsingle : ∀ rest, unchunk ks = '\x7b' :: rest → False := by
    intro rest h
    obtain ⟨ks', rfl⟩ := unchunk_eq_cons hks isWordChar_openBrace h
    exact hnot ks' rfl
  rw [holesFrom.eq_4 _ _ hsingle]
  cases hclose : closeBrace (kinds m ks) with
  | none =>
      have hfree := closeBrace_not_mem_unchunk hks (closeBrace_eq_none hclose)
      rw [takeWhile_ne_of_not_mem hfree, List.drop_length]
  | some n =>
      obtain ⟨body, rest, rfl, rfl, hbody⟩ := closeBrace_eq_some hclose
      have hfree := closeBrace_not_mem_unchunk (hks.of_sublist (List.sublist_append_left _ _))
        hbody
      have hsplit : unchunk (body ++ .other '\x7d' :: rest) = unchunk body ++ '\x7d' :: unchunk rest := by
        simp [Chunk.chars]
      have hdrop : (body ++ .other '\x7d' :: rest).drop (body.length + 1) = rest := by
        simp [List.drop_append]
      rw [hsplit, takeWhile_ne_append hfree, List.drop_left' rfl]
      simp only [List.take_left', hdrop]

theorem holeSpan_braced (pre body rest post : List Chunk) :
    holeSpan (pre ++ .other '\x7b' :: (body ++ .other '\x7d' :: rest) ++ post)
        (pre.length + 1, pre.length + 1 + body.length) =
      ⟨byteSize (unchunk pre) + 1, byteSize (unchunk pre) + 1 + byteSize (unchunk body)⟩ := by
  have hopen := pos_length_append (pre ++ [.other '\x7b'])
    (body ++ .other '\x7d' :: rest ++ post)
  have hclose := pos_length_append (pre ++ .other '\x7b' :: body) (.other '\x7d' :: rest ++ post)
  simp only [List.append_assoc, List.cons_append, List.nil_append, List.length_append,
    List.length_cons, List.length_nil, unchunk_append, unchunk_cons, unchunk_nil, Chunk.chars,
    byteSize_append, byteSize_cons, byteSize_nil, List.append_nil] at hopen hclose
  simp only [holeSpan, List.append_assoc, List.cons_append]
  rw [show pre.length + 1 = pre.length + (0 + 1) from rfl, hopen,
    show pre.length + (0 + 1) + body.length = pre.length + (body.length + 1) by omega, hclose]
  simp [Nat.add_assoc]

/-- The hole scan of a chunked text is the index-level scan of its kinds; `post` is whatever
text follows the scanned chunks. -/
theorem holesFrom_unchunk (m : Option Char) (post : List Chunk) :
    ∀ (pre cs : List Chunk), WordChunks cs →
      holesFrom (byteSize (unchunk pre)) (unchunk cs) =
        (holeIndices pre.length (kinds m cs)).map (holeSpan (pre ++ cs ++ post))
  | pre, [], _ => by
      simp [holeIndices.eq_1, holesFrom.eq_1]
  | pre, .word w :: ks, hks => by
      have ih := holesFrom_unchunk m post (pre ++ [.word w]) ks hks.of_cons
      simp only [unchunk_append, unchunk_cons, unchunk_nil, Chunk.chars, List.append_nil,
        byteSize_append, List.length_append, List.length_singleton, List.append_assoc,
        List.singleton_append] at ih
      rw [unchunk_cons, Chunk.chars, holesFrom_append (hks w List.mem_cons_self).2, ih,
        kinds_cons, Chunk.kind, holeIndices.eq_5 _ _ _ (by simp) (by simp) (by simp)]
      simp
  | pre, .other c :: ks, hks => by
      -- the scan goes on after the brace, or after it and any number of chunks more
      have hskip : holesFrom (byteSize (unchunk pre) + c.utf8Size) (unchunk ks) =
          (holeIndices (pre.length + 1) (kinds m ks)).map
            (holeSpan (pre ++ .other c :: ks ++ post)) := by
        have ih := holesFrom_unchunk m post (pre ++ [.other c]) ks hks.of_cons
        simpa [Chunk.chars, List.append_assoc] using ih
      have ihDrop : ∀ (n : Nat) (pre' : List Chunk),
          holesFrom (byteSize (unchunk pre')) (unchunk (ks.drop (n + 1))) =
            (holeIndices pre'.length (kinds m (ks.drop (n + 1)))).map
              (holeSpan (pre' ++ ks.drop (n + 1) ++ post)) := fun n pre' =>
        holesFrom_unchunk m post pre' (ks.drop (n + 1))
          (hks.of_cons.of_sublist (List.drop_sublist _ _))
      by_cases hopen : c = '\x7b'
      · subst hopen
        by_cases hdoubled : ∃ ks', ks = .other '\x7b' :: ks'
        · -- a doubled opening brace stands for a brace
          obtain ⟨ks', rfl⟩ := hdoubled
          have ih := ihDrop 0 (pre ++ [.other '\x7b', .other '\x7b'])
          simp only [List.drop_succ_cons, List.drop_zero] at ih
          simp only [unchunk_cons, Chunk.chars, List.cons_append, List.nil_append,
            kinds_cons, Chunk.kind]
          rw [holesFrom.eq_2, holeIndices.eq_2]
          simpa [Nat.add_assoc, Chunk.chars] using ih
        · -- a hole opens, and runs to the first closing brace if there is one
          have hnot : ∀ ks', ks ≠ .other '\x7b' :: ks' := fun ks' h => hdoubled ⟨ks', h⟩
          have hnotKind : ∀ ks', kinds m ks = .other '\x7b' :: ks' → False := by
            intro ks' h
            obtain ⟨rest, hrest⟩ := kinds_eq_other_cons h
            exact hnot rest hrest
          rw [unchunk_cons, Chunk.chars, List.singleton_append, holesFrom_openBrace m hks.of_cons hnot,
            kinds_cons, Chunk.kind, holeIndices.eq_4 _ _ hnotKind]
          cases hclose : closeBrace (kinds m ks) with
          | none => rfl
          | some n =>
              obtain ⟨body, rest, rfl, rfl, -⟩ := closeBrace_eq_some hclose
              have hdrop : (body ++ .other '\x7d' :: rest).drop (body.length + 1) = rest := by
                simp [List.drop_append]
              have ih := ihDrop body.length (pre ++ .other '\x7b' :: body ++ [.other '\x7d'])
              simp only [hdrop, unchunk_append, unchunk_cons, unchunk_nil, Chunk.chars,
                List.append_nil, byteSize_append, byteSize_cons, byteSize_nil, List.length_append,
                List.length_cons, List.length_nil, List.append_assoc, List.cons_append,
                List.nil_append] at ih
              have hdropKinds : (kinds m body ++ .other '\x7d' :: kinds m rest).drop
                  (body.length + 1) = kinds m rest := by
                simp [List.drop_append]
              simp only [List.take_left', hdrop, kinds_append, kinds_cons, Chunk.kind,
                List.map_cons]
              rw [holeSpan_braced, hdropKinds, List.cons.injEq]
              refine ⟨rfl, ?_⟩
              simp only [utf8Size_openBrace, utf8Size_closeBrace, Nat.add_zero, Nat.zero_add] at ih
              rw [show byteSize (unchunk pre) + 1 + byteSize (unchunk body) + 1 =
                byteSize (unchunk pre) + (1 + (byteSize (unchunk body) + 1)) by omega, ih]
              simp [Nat.add_assoc]
      · by_cases hdouble : c = '\x7d' ∧ ∃ ks', ks = .other '\x7d' :: ks'
        · -- a doubled closing brace stands for a brace
          obtain ⟨rfl, ks', rfl⟩ := hdouble
          have ih := ihDrop 0 (pre ++ [.other '\x7d', .other '\x7d'])
          simp only [List.drop_succ_cons, List.drop_zero] at ih
          simp only [unchunk_cons, Chunk.chars, List.cons_append, List.nil_append,
            kinds_cons, Chunk.kind]
          rw [holesFrom.eq_3, holeIndices.eq_3]
          simpa [Nat.add_assoc, Chunk.chars] using ih
        · -- any other character is passed over
          have hnext : ∀ rest, c = '\x7d' → unchunk ks = '\x7d' :: rest → False := by
            intro rest hc h
            obtain ⟨ks', rfl⟩ := unchunk_eq_cons hks.of_cons isWordChar_closeBrace h
            exact hdouble ⟨hc, ks', rfl⟩
          have hnextKind : ∀ ks', Kind.other c = .other '\x7d' →
              kinds m ks = .other '\x7d' :: ks' → False := by
            intro ks' hc h
            obtain ⟨rest, hrest⟩ := kinds_eq_other_cons h
            exact hdouble ⟨Kind.other.inj hc, rest, hrest⟩
          simp only [unchunk_cons, Chunk.chars, List.cons_append, List.nil_append, kinds_cons,
            Chunk.kind]
          rw [holesFrom.eq_5 _ _ _ (fun _ h => absurd h hopen) hnext hopen,
            holeIndices.eq_5 _ _ _ (fun _ h => absurd (Kind.other.inj h) hopen) hnextKind
              (fun h => hopen (Kind.other.inj h)), hskip]
termination_by _ cs => cs.length
decreasing_by
  all_goals simp only [List.length_cons, List.length_drop]
  all_goals omega

/-! ## Interpolation -/

def interpAt (ks : List Kind) : Nat → Bool
  | 0 => false
  | i + 1 =>
    match ks[i]? with
    | some (.word marks) => marks
    | _ => false

theorem hasInterpolationPrefix_append (marker : Char) {w rest : List Char}
    (hrest : headIsWord rest = false) :
    hasInterpolationPrefix marker (w ++ rest) = hasInterpolationPrefix marker w := by
  have hstop : rest.takeWhile Char.isAlpha = [] := by
    cases rest with
    | nil => rfl
    | cons e es =>
        have he : isWordChar e = false := by simpa [headIsWord] using hrest
        simp [isAlpha_of_isWordChar_false he]
  have hsafe : rest.head?.all (fun c => !(c.isAlphanum || c == '_')) = true := by
    cases rest with
    | nil => rfl
    | cons e es =>
        have he : isWordChar e = false := by simpa [headIsWord] using hrest
        have halnum : e.isAlphanum = false := by
          cases h : e.isAlphanum with
          | false => rfl
          | true =>
              rw [isWordChar_of_isAlphanum h] at he
              cases he
        have hunder : e ≠ '_' := by
          rintro rfl
          cases he
        simp [halnum, hunder]
  by_cases hall : (w.takeWhile Char.isAlpha).length = w.length
  · -- the letters run through the whole stretch and stop where it ends
    have hletters : w.takeWhile Char.isAlpha = w :=
      (List.takeWhile_prefix _).eq_of_length hall
    simp only [hasInterpolationPrefix, List.takeWhile_append, hletters, hstop, List.append_nil,
      ite_self, List.drop_left, List.drop_length, List.head?_nil, Option.all_none, hsafe]
  · -- the letters stop inside the stretch
    have hlt : (w.takeWhile Char.isAlpha).length < w.length :=
      Nat.lt_of_le_of_ne (List.takeWhile_prefix _).length_le hall
    have hne : w.drop (w.takeWhile Char.isAlpha).length ≠ [] := by simp; omega
    simp only [hasInterpolationPrefix, List.takeWhile_append, if_neg hall]
    rw [List.drop_append_of_le_length (Nat.le_of_lt hlt), List.head?_append,
      Option.or_of_isSome (by simpa [List.isSome_head?] using hne)]

theorem Chunked.drop_append {rest : List Chunk} :
    ∀ {pre : List Chunk}, Chunked (pre ++ rest) → Chunked rest
  | [], h => h
  | _ :: _, h => by
      cases h with
      | other _ h => exact Chunked.drop_append h
      | word _ _ h => exact Chunked.drop_append h

theorem Chunked.before_word {w : List Char} {rest : List Chunk} :
    ∀ {pre : List Chunk}, Chunked (pre ++ .word w :: rest) →
      headIsWord (unchunk pre).reverse = false
  | [], _ => rfl
  | [k], h => by
      cases h with
      | other hc _ => simp [headIsWord, Chunk.chars, hc]
      | word _ hstart _ => simp [startsWithWord] at hstart
  | k :: k' :: pre, h => by
      have htail : Chunked (k' :: pre ++ .word w :: rest) := by
        rw [List.cons_append] at h
        cases h <;> assumption
      obtain ⟨a, as, ha⟩ : ∃ a as, (unchunk (k' :: pre)).reverse = a :: as := by
        have hne := htail.chars_ne_nil k' List.mem_cons_self
        apply List.exists_cons_of_ne_nil
        simp [hne]
      have ih := Chunked.before_word htail
      rw [ha] at ih
      rw [unchunk_cons, List.reverse_append, ha]
      simpa [headIsWord] using ih

theorem interpolationPrefix_unchunk (marker : Char) {cs : List Chunk} (hcs : Chunked cs) :
    ∀ {i : Nat}, i ≤ cs.length →
      hasInterpolationPrefix marker (unchunk (cs.take i)).reverse =
        interpAt (kinds (some marker) cs) i
  | 0, _ => rfl
  | j + 1, hj => by
      have hsplit : cs = cs.take j ++ cs[j] :: cs.drop (j + 1) := by
        rw [← List.drop_eq_getElem_cons (by omega), List.take_append_drop]
      have htake : cs.take (j + 1) = cs.take j ++ [cs[j]] := by
        rw [List.take_add_one, List.getElem?_eq_getElem (by omega)]
        rfl
      have hkind : (kinds (some marker) cs)[j]? = some (cs[j].kind (some marker)) := by
        simp [kinds, List.getElem?_eq_getElem (show j < cs.length by omega)]
      rw [htake, unchunk_append, List.reverse_append, interpAt, hkind]
      rw [hsplit] at hcs
      cases hk : cs[j] with
      | other c =>
          -- the quote follows a character that is not a letter: no prefix
          have hc : isWordChar c = false := by
            rw [hk] at hcs
            have hchunk := Chunked.drop_append hcs
            cases hchunk with
            | other hc _ => exact hc
          have halpha := isAlpha_of_isWordChar_false hc
          simp [Chunk.chars, Chunk.kind, hasInterpolationPrefix, halpha]
      | word w =>
          rw [hk] at hcs
          simp only [unchunk_cons, Chunk.chars, unchunk_nil, List.append_nil, Chunk.kind,
            marksInterpolation]
          exact hasInterpolationPrefix_append marker (Chunked.before_word hcs)

/-! ## Bounds -/

theorem closeKinds_lt {q : Char} :
    ∀ {ks : List Kind} {n : Nat}, closeKinds q ks = some n → n < ks.length
  | [], _, h => by cases h
  | .other d :: ks, n, h => by
      simp only [closeKinds] at h
      split at h
      · cases h
        simp
      · split at h
        · cases h
        · obtain ⟨k, hk, rfl⟩ := Option.map_eq_some_iff.mp h
          have := closeKinds_lt hk
          simp only [List.length_cons]
          omega
  | .word _ :: ks, n, h => by
      simp only [closeKinds] at h
      obtain ⟨k, hk, rfl⟩ := Option.map_eq_some_iff.mp h
      have := closeKinds_lt hk
      simp only [List.length_cons]
      omega

theorem closeBrace_lt : ∀ {ks : List Kind} {n : Nat}, closeBrace ks = some n → n < ks.length
  | [], _, h => by cases h
  | .other d :: ks, n, h => by
      simp only [closeBrace] at h
      split at h
      · cases h
        simp
      · obtain ⟨k, hk, rfl⟩ := Option.map_eq_some_iff.mp h
        have := closeBrace_lt hk
        simp only [List.length_cons]
        omega
  | .word _ :: ks, n, h => by
      simp only [closeBrace] at h
      obtain ⟨k, hk, rfl⟩ := Option.map_eq_some_iff.mp h
      have := closeBrace_lt hk
      simp only [List.length_cons]
      omega

theorem litIndices_bounds (i : Nat) (ks : List Kind) :
    ∀ l ∈ litIndices i ks, i ≤ l.opening ∧ l.opening < l.closing ∧ l.closing < i + ks.length := by
  fun_induction litIndices i ks with
  | case1 =>
      simp
  | case2 i c ks _ n hclose ih =>
      have hn := closeKinds_lt hclose
      intro l hl
      rcases List.mem_cons.mp hl with rfl | hl
      · simp only [List.length_cons]
        omega
      · have := ih l hl
        simp only [List.length_drop, List.length_cons] at this ⊢
        omega
  | case3 i c ks _ _ ih =>
      intro l hl
      have := ih l hl
      simp only [List.length_cons]
      omega
  | case4 i c ks _ ih =>
      intro l hl
      have := ih l hl
      simp only [List.length_cons]
      omega
  | case5 i marks ks ih =>
      intro l hl
      have := ih l hl
      simp only [List.length_cons]
      omega

theorem holeIndices_bounds (i : Nat) (ks : List Kind) :
    ∀ h ∈ holeIndices i ks, i ≤ h.1 ∧ h.1 ≤ h.2 ∧ h.2 < i + ks.length := by
  fun_induction holeIndices i ks with
  | case1 =>
      simp
  | case2 i ks ih =>
      intro h hh
      have := ih h hh
      simp only [List.length_cons]
      omega
  | case3 i ks ih =>
      intro h hh
      have := ih h hh
      simp only [List.length_cons]
      omega
  | case4 i ks _ n hclose ih =>
      have hn := closeBrace_lt hclose
      intro h hh
      rcases List.mem_cons.mp hh with rfl | hh
      · simp only [List.length_cons]
        omega
      · have := ih h hh
        simp only [List.length_drop, List.length_cons] at this ⊢
        omega
  | case5 =>
      simp
  | case6 i k ks _ _ _ ih =>
      intro h hh
      have := ih h hh
      simp only [List.length_cons]
      omega

theorem interpAt_kinds_none (cs : List Chunk) : ∀ i, interpAt (kinds none cs) i = false
  | 0 => rfl
  | i + 1 => by
      simp only [interpAt, kinds, List.getElem?_map]
      cases cs[i]? with
      | none => rfl
      | some k => cases k <;> rfl

theorem slice?_pos (cs : List Chunk) (i : Nat) :
    slice? (unchunk cs) 0 (pos cs i) = some (unchunk (cs.take i)) := by
  have h := slice?_append [] (unchunk (cs.take i)) (unchunk (cs.drop i))
  rw [List.nil_append, ← unchunk_append, List.take_append_drop] at h
  simpa [pos] using h

/-! ## Code positions -/

def codeAt (ks : List Kind) (j : Nat) : Bool :=
  match (litIndices 0 ks).find? fun l => l.opening < j && j < l.closing with
  | none => true
  | some l =>
    interpAt ks l.opening &&
      (holeIndices (l.opening + 1)
        ((ks.drop (l.opening + 1)).take (l.closing - (l.opening + 1)))).any
        fun h => h.1 ≤ j && j < h.2

section

variable {cs : List Chunk} (hne : ∀ k ∈ cs, k.chars ≠ [])
include hne

theorem strictlyInside_chunkSpan {j : Nat} (hj : j < cs.length) {l : LiteralAt}
    (hl : l.closing < cs.length) :
    (chunkSpan cs j).strictlyInside (l.toLiteral cs).span = (l.opening < j && j < l.closing) := by
  have hopen : pos cs l.opening < pos cs j ↔ l.opening < j := pos_lt_pos_iff hne (by omega)
  have hclose : pos cs (j + 1) < pos cs (l.closing + 1) ↔ j + 1 < l.closing + 1 :=
    pos_lt_pos_iff hne (by omega)
  simp [Span.strictlyInside, chunkSpan, LiteralAt.toLiteral, hopen, hclose]

theorem within_holeSpan {j : Nat} (hj : j < cs.length) {h : Nat × Nat}
    (hh : h.1 ≤ cs.length) :
    (chunkSpan cs j).within (holeSpan cs h) = (h.1 ≤ j && j < h.2) := by
  have hstart : pos cs h.1 ≤ pos cs j ↔ h.1 ≤ j := pos_le_pos_iff hne hh
  have hstop : pos cs (j + 1) ≤ pos cs h.2 ↔ j < h.2 := pos_le_pos_iff hne (by omega)
  simp only [Span.within, chunkSpan, holeSpan, hstart, hstop]

end

end Text

theorem Source.isInterpolated_unchunk (L : Language) {cs : List Text.Chunk} (hcs : Text.Chunked cs)
    {i : Nat} (hi : i ≤ cs.length) {l : Literal} (hl : l.span.start = Text.pos cs i) :
    Source.isInterpolated ⟨L, Text.unchunk cs⟩ l =
      Text.interpAt (Text.kinds L.profile.interpolationMarker cs) i := by
  simp only [Source.isInterpolated, Source.profile, hl, Text.slice?_pos]
  cases L.profile.interpolationMarker with
  | none => rw [Text.interpAt_kinds_none]
  | some marker => exact Text.interpolationPrefix_unchunk marker hcs hi

namespace Source

open Text

variable (L : Language) {cs : List Text.Chunk} (hcs : Chunked cs)
include hcs

theorem holes_toLiteral {l : LiteralAt}
    (hl : l ∈ litIndices 0 (kinds L.profile.interpolationMarker cs)) :
    Source.holes ⟨L, unchunk cs⟩ (l.toLiteral cs) =
      if interpAt (kinds L.profile.interpolationMarker cs) l.opening then
        (holeIndices (l.opening + 1) (((kinds L.profile.interpolationMarker cs).drop
          (l.opening + 1)).take (l.closing - (l.opening + 1)))).map (holeSpan cs)
      else [] := by
  have hbound := litIndices_bounds 0 _ l hl
  simp only [length_kinds, Nat.zero_add] at hbound
  have hinterp := Source.isInterpolated_unchunk L hcs
    (show l.opening ≤ cs.length by omega) (l := l.toLiteral cs) rfl
  simp only [Source.holes, hinterp]
  split
  · -- the content is the chunks between the quotes, with the text before and after them
    have hcut : cs.take (l.opening + 1) ++ (cs.drop (l.opening + 1)).take
        (l.closing - (l.opening + 1)) ++ cs.drop l.closing = cs := by
      rw [← List.take_add, Nat.add_sub_cancel' (by omega), List.take_append_drop]
    have hwords : WordChunks ((cs.drop (l.opening + 1)).take (l.closing - (l.opening + 1))) :=
      hcs.wordChunks.of_sublist ((List.take_sublist _ _).trans (List.drop_sublist _ _))
    have h := holesFrom_unchunk L.profile.interpolationMarker (cs.drop l.closing)
      (cs.take (l.opening + 1)) _ hwords
    rw [hcut, List.length_take_of_le (by omega)] at h
    simpa [LiteralAt.toLiteral, pos, kinds, List.map_take, List.map_drop] using h
  · rfl

theorem isCodeHit_chunkSpan {j : Nat} (hj : j < cs.length) :
    Source.isCodeHit ⟨L, unchunk cs⟩ (chunkSpan cs j) =
      codeAt (kinds L.profile.interpolationMarker cs) j := by
  have hne := hcs.chars_ne_nil
  have hfind : (litIndices 0 (kinds L.profile.interpolationMarker cs)).find?
      ((fun l => (chunkSpan cs j).strictlyInside l.span) ∘ LiteralAt.toLiteral cs) =
      (litIndices 0 (kinds L.profile.interpolationMarker cs)).find?
        (fun l => l.opening < j && j < l.closing) := by
    apply List.find?_congr
    intro l hl
    have hbound := litIndices_bounds 0 _ l hl
    simp only [length_kinds, Nat.zero_add] at hbound
    exact strictlyInside_chunkSpan hne hj hbound.2.2
  unfold Source.isCodeHit codeAt
  rw [Source.literals, literals_unchunk L.profile.interpolationMarker hcs.wordChunks,
    List.find?_map, hfind]
  cases hf : (litIndices 0 (kinds L.profile.interpolationMarker cs)).find?
      (fun l => l.opening < j && j < l.closing) with
  | none => rfl
  | some l =>
      have hl := List.mem_of_find?_eq_some hf
      simp only [Option.map_some]
      rw [holes_toLiteral L hcs hl]
      split
      · rename_i hinterp
        rw [hinterp, Bool.true_and, List.any_map, Bool.eq_iff_iff, List.any_eq_true,
          List.any_eq_true]
        have hbound := litIndices_bounds 0 _ l hl
        simp only [length_kinds, Nat.zero_add] at hbound
        -- every hole lies inside the text, so comparing spans is comparing indices
        have hholes : ∀ h ∈ holeIndices (l.opening + 1) (((kinds L.profile.interpolationMarker
            cs).drop (l.opening + 1)).take (l.closing - (l.opening + 1))), h.1 ≤ cs.length := by
          intro h hh
          have := holeIndices_bounds _ _ h hh
          simp only [List.length_take, List.length_drop, length_kinds] at this
          omega
        constructor
        · rintro ⟨h, hh, hw⟩
          exact ⟨h, hh, by rwa [Function.comp_apply, within_holeSpan hne hj (hholes h hh)] at hw⟩
        · rintro ⟨h, hh, hw⟩
          exact ⟨h, hh, by rwa [Function.comp_apply, within_holeSpan hne hj (hholes h hh)]⟩
      · rename_i hinterp
        simp [hinterp]

/-- The occurrences of a word that stand in code are the chunks equal to it at code positions. -/
theorem codeWordSpans_unchunk {v : List Char} (hv : IsWord v) :
    Source.codeWordSpans ⟨L, unchunk cs⟩ v =
      ((wordIndices v 0 cs).filter (codeAt (kinds L.profile.interpolationMarker cs))).map
        (chunkSpan cs) := by
  rw [Source.codeWordSpans, Source.wordSpans, wordSpans_unchunk hv hcs, List.filter_map]
  congr 1
  apply List.filter_congr
  intro j hj
  have hbound := wordIndices_bounds v 0 cs j hj
  exact isCodeHit_chunkSpan L hcs (by omega)

end Source

end Obfuscator
