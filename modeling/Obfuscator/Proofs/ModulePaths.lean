import Obfuscator.Proofs.CodePositions
import Obfuscator.Lexer
/-!
# Module-naming statements read words only by their keywords

The matcher for statements of the import-and-require style looks at a word only to see whether
it is one of its keywords, `import`, `require` or `from`: every other word, whatever its length,
it passes over like any run of characters that are neither quotes, line breaks nor semicolons.
So on two texts whose chunks agree (the same characters, and words that are equal or both no
keyword) it finds its statements over the same chunks.

`ReadsAlike f ks ks'` says that a matcher `f` gives one answer on both lists, counted in chunks;
`Alike f` that it does so on every two agreeing lists. Each combinator the matcher is built from
keeps `Alike` (`Alike.orElse`, `alike_keywordThen`, `alike_blanksThen`, …), and a scan by a rule
that is alike at chunk boundaries finds its matches at the same chunk indices in both texts
(`spansFrom_agree`). The main statement is `modulePathSpans_agree`.
-/

namespace Obfuscator
namespace Text

open Lexer

/-! ## Characters the matcher stops at -/

theorem isWordChar_of_isBlank {c : Char} (h : isBlank c = true) : isWordChar c = false := by
  have hcode : c.toNat ∈ [0x09, 0x0A, 0x0B, 0x0C, 0x0D, 0x20, 0x85, 0xA0, 0x1680, 0x2000,
      0x2001, 0x2002, 0x2003, 0x2004, 0x2005, 0x2006, 0x2007, 0x2008, 0x2009, 0x200A, 0x2028,
      0x2029, 0x202F, 0x205F, 0x3000] := by
    simp only [isBlank, Bool.or_eq_true, Bool.and_eq_true, decide_eq_true_eq, beq_iff_eq] at h
    simp only [List.mem_cons, List.not_mem_nil, or_false]
    omega
  have hall : ([0x09, 0x0A, 0x0B, 0x0C, 0x0D, 0x20, 0x85, 0xA0, 0x1680, 0x2000, 0x2001, 0x2002,
      0x2003, 0x2004, 0x2005, 0x2006, 0x2007, 0x2008, 0x2009, 0x200A, 0x2028, 0x2029, 0x202F,
      0x205F, 0x3000].all fun n => !isWordChar (Char.ofNat n)) = true := by
    decide +kernel
  have hc := List.all_eq_true.mp hall _ hcode
  rw [Char.ofNat_toNat] at hc
  simpa using hc

theorem isWordChar_semicolon : isWordChar ';' = false := by decide

/-! ## Chunks that agree -/

def pathKeywords : List (List Char) := ["import".toList, "require".toList, "from".toList]

/-- Two chunks agree when they are the same character, or two words that are equal or neither
of them a keyword. -/
def Chunk.Agree : Chunk → Chunk → Prop
  | .other c, .other d => c = d
  | .word v, .word w => (v ∈ pathKeywords ∨ w ∈ pathKeywords) → v = w
  | _, _ => False

theorem Chunk.Agree.refl : ∀ k : Chunk, k.Agree k
  | .other _ => rfl
  | .word _ => fun _ => rfl

def charsIn (ks : List Chunk) (n : Nat) : Nat := (unchunk (ks.take n)).length

@[simp] theorem charsIn_zero (ks : List Chunk) : charsIn ks 0 = 0 := by simp [charsIn]

@[simp] theorem charsIn_cons_succ (k : Chunk) (ks : List Chunk) (n : Nat) :
    charsIn (k :: ks) (n + 1) = k.chars.length + charsIn ks n := by
  simp [charsIn]

theorem charsIn_add (ks : List Chunk) (n m : Nat) :
    charsIn ks (n + m) = charsIn ks n + charsIn (ks.drop n) m := by
  simp [charsIn, List.take_add]

theorem drop_charsIn (ks : List Chunk) (n : Nat) :
    (unchunk ks).drop (charsIn ks n) = unchunk (ks.drop n) := by
  have hsplit : unchunk ks = unchunk (ks.take n) ++ unchunk (ks.drop n) := by
    rw [← unchunk_append, List.take_append_drop]
  rw [charsIn, hsplit, List.drop_left]

theorem take_charsIn (ks : List Chunk) (n : Nat) :
    (unchunk ks).take (charsIn ks n) = unchunk (ks.take n) := by
  have hsplit : unchunk ks = unchunk (ks.take n) ++ unchunk (ks.drop n) := by
    rw [← unchunk_append, List.take_append_drop]
  rw [charsIn, hsplit, List.take_left]

theorem charsIn_min (ks : List Chunk) (n : Nat) : charsIn ks (min n ks.length) = charsIn ks n := by
  by_cases h : n ≤ ks.length
  · rw [Nat.min_eq_left h]
  · rw [Nat.min_eq_right (by omega), charsIn, charsIn, List.take_length,
      List.take_of_length_le (by omega)]

/-- A matcher reads two chunk lists alike: its answers on both are the same count of chunks, or
none on both. -/
def ReadsAlike (f : List Char → Option Nat) (ks ks' : List Chunk) : Prop :=
  ∃ r : Option Nat, f (unchunk ks) = r.map (charsIn ks) ∧ f (unchunk ks') = r.map (charsIn ks')

/-- A matcher that reads every two agreeing chunked lists alike. -/
def Alike (f : List Char → Option Nat) : Prop :=
  ∀ ks ks', Chunked ks → Chunked ks' → List.Forall₂ Chunk.Agree ks ks' → ReadsAlike f ks ks'

theorem ReadsAlike.of_none {f : List Char → Option Nat} {ks ks' : List Chunk}
    (h : f (unchunk ks) = none) (h' : f (unchunk ks') = none) : ReadsAlike f ks ks' :=
  ⟨none, h, h'⟩

theorem Alike.orElse {f g : List Char → Option Nat} (hf : Alike f) (hg : Alike g) :
    Alike fun cs => f cs <|> g cs := by
  intro ks ks' hks hks' hagree
  obtain ⟨r, h, h'⟩ := hf ks ks' hks hks' hagree
  cases r with
  | some n =>
      exact ⟨some n, by simp [h], by simp [h']⟩
  | none =>
      obtain ⟨r₂, h₂, h₂'⟩ := hg ks ks' hks hks' hagree
      exact ⟨r₂, by simp [h, h₂], by simp [h', h₂']⟩

/-! ## Runs of characters -/

def runChunks (p : Char → Bool) (words : Bool) : List Chunk → Nat
  | [] => 0
  | .other c :: ks => if p c then runChunks p words ks + 1 else 0
  | .word _ :: ks => if words then runChunks p words ks + 1 else 0

theorem runChunks_agree (p : Char → Bool) (words : Bool) :
    ∀ {ks ks' : List Chunk}, List.Forall₂ Chunk.Agree ks ks' →
      runChunks p words ks' = runChunks p words ks
  | [], [], .nil => rfl
  | .other c :: ks, .other d :: ks', .cons hcd hrest => by
      change c = d at hcd
      subst hcd
      simp [runChunks, runChunks_agree p words hrest]
  | .word _ :: ks, .word _ :: ks', .cons _ hrest => by
      simp [runChunks, runChunks_agree p words hrest]

theorem runChunks_stop (p : Char → Bool) (words : Bool) :
    ∀ ks : List Chunk, ks.drop (runChunks p words ks) = [] ∨
      (∃ c rest, ks.drop (runChunks p words ks) = .other c :: rest ∧ p c = false) ∨
      (words = false ∧ ∃ w rest, ks.drop (runChunks p words ks) = .word w :: rest)
  | [] => by simp [runChunks]
  | .other c :: ks => by
      cases hc : p c with
      | false => exact .inr (.inl ⟨c, ks, by simp [runChunks, hc], hc⟩)
      | true => simpa [runChunks, hc] using runChunks_stop p words ks
  | .word w :: ks => by
      cases words with
      | false => exact .inr (.inr ⟨rfl, w, ks, by simp [runChunks]⟩)
      | true => simpa [runChunks] using runChunks_stop p true ks

theorem runLength_unchunk {p : Char → Bool} {words : Bool}
    (hp : ∀ c, isWordChar c = true → p c = words) :
    ∀ {ks : List Chunk}, WordChunks ks →
      runLength p (unchunk ks) = charsIn ks (runChunks p words ks)
  | [], _ => rfl
  | .other c :: ks, hks => by
      have ih := runLength_unchunk hp (hks.of_cons)
      cases hc : p c with
      | false => simp [runLength, runChunks, Chunk.chars, hc]
      | true =>
          have hrun : runChunks p words (.other c :: ks) = runChunks p words ks + 1 := by
            simp [runChunks, hc]
          simp only [runLength] at ih
          rw [hrun, charsIn_cons_succ]
          simp [runLength, Chunk.chars, hc, ih]
          omega
  | .word w :: ks, hks => by
      have hw := hks w List.mem_cons_self
      have ih := runLength_unchunk hp (hks.of_cons)
      cases words with
      | false =>
          obtain ⟨d, ds, rfl⟩ := List.exists_cons_of_ne_nil hw.1
          have hd : p d = false := hp d (hw.2 d List.mem_cons_self)
          simp [runLength, runChunks, Chunk.chars, hd]
      | true =>
          have hall : ∀ c ∈ w, p c = true := fun c hc => hp c (hw.2 c hc)
          simp only [runLength, runChunks, if_true, unchunk_cons, Chunk.chars,
            List.takeWhile_append_of_pos hall, List.length_append, charsIn_cons_succ] at ih ⊢
          omega

/-! ## Agreeing lists -/

theorem Chunked.tail {k : Chunk} {ks : List Chunk} (h : Chunked (k :: ks)) : Chunked ks := by
  cases h <;> assumption

theorem Chunked.drop {ks : List Chunk} (h : Chunked ks) (n : Nat) : Chunked (ks.drop n) := by
  rw [← List.take_append_drop n ks] at h
  exact h.drop_append

theorem Chunked.isWord {w : List Char} {ks : List Chunk} (h : Chunked (.word w :: ks)) :
    IsWord w := by
  cases h with
  | word hw _ _ => exact hw

theorem agree_other {c : Char} {k : Chunk} (h : (Chunk.other c).Agree k) : k = .other c := by
  cases k with
  | other d => exact congrArg Chunk.other h.symm
  | word _ => exact h.elim

theorem forall₂_agree_drop_cons {ks ks' : List Chunk} (h : List.Forall₂ Chunk.Agree ks ks')
    {n : Nat} {c : Char} {rest : List Chunk} (hdrop : ks.drop n = .other c :: rest) :
    ∃ rest', ks'.drop n = .other c :: rest' := by
  have hd := List.forall₂_drop n h
  rw [hdrop] at hd
  generalize ks'.drop n = ys at hd ⊢
  cases hd with
  | cons hk _ => exact ⟨_, by rw [agree_other hk]⟩

/-! ## The combinators of the matcher -/

theorem quotedPath_word {isQ : Char → Bool} (hq : ∀ c, isWordChar c = true → isQ c = false)
    {w : List Char} (hw : IsWord w) (rest : List Char) : quotedPath isQ (w ++ rest) = none := by
  obtain ⟨d, ds, rfl⟩ := List.exists_cons_of_ne_nil hw.1
  simp [quotedPath, hq d (hw.2 d List.mem_cons_self)]

section

variable {isQ : Char → Bool} (hq : ∀ c, isWordChar c = true → isQ c = false)
include hq

theorem isPathBody_of_isWordChar :
    ∀ d, isWordChar d = true → (fun c => !isQ c && c != '\n') d = true := by
  intro d hd
  have hn : d ≠ '\n' := fun h => by rw [h, isWordChar_newline] at hd; cases hd
  simp [hq d hd, hn]

theorem quotedPath_unchunk_end {q : Char} (hqq : isQ q = true) {xs : List Chunk}
    (hx : WordChunks xs)
    (hend : xs.drop (runChunks (fun c => !isQ c && c != '\n') true xs) = []) :
    quotedPath isQ (unchunk (.other q :: xs)) = none := by
  have hrun := runLength_unchunk (isPathBody_of_isWordChar hq) hx
  simp only [unchunk_cons, Chunk.chars, List.singleton_append, quotedPath, hqq, if_true]
  rw [hrun, drop_charsIn, hend]
  rfl

theorem quotedPath_unchunk_stop {q e : Char} (hqq : isQ q = true) {xs rest : List Chunk}
    (hx : WordChunks xs)
    (hstop : xs.drop (runChunks (fun c => !isQ c && c != '\n') true xs) = .other e :: rest) :
    quotedPath isQ (unchunk (.other q :: xs)) =
      if isQ e then some (charsIn (.other q :: xs)
        (runChunks (fun c => !isQ c && c != '\n') true xs + 2)) else none := by
  have hrun := runLength_unchunk (isPathBody_of_isWordChar hq) hx
  have hsize : charsIn (.other q :: xs) (runChunks (fun c => !isQ c && c != '\n') true xs + 2) =
      charsIn xs (runChunks (fun c => !isQ c && c != '\n') true xs) + 2 := by
    rw [charsIn_cons_succ, charsIn_add, hstop]
    simp [Chunk.chars, charsIn]
    omega
  simp only [unchunk_cons, Chunk.chars, List.singleton_append, quotedPath, hqq, if_true]
  rw [hrun, drop_charsIn, hstop, hsize]
  rfl

theorem alike_quotedPath : Alike (quotedPath isQ) := by
  intro ks ks' hks hks' hagree
  cases hagree with
  | nil => exact .of_none rfl rfl
  | @cons k k' ks ks' hk hrest =>
    cases k with
    | word v =>
        cases k' with
        | other _ => exact hk.elim
        | word w =>
            exact .of_none (quotedPath_word hq hks.isWord _) (quotedPath_word hq hks'.isWord _)
    | other c =>
        rw [agree_other hk]
        cases hqc : isQ c with
        | false =>
            exact .of_none (by simp [quotedPath, Chunk.chars, hqc])
              (by simp [quotedPath, Chunk.chars, hqc])
        | true =>
            -- the body runs over the same number of chunks in both lists
            have hsame := runChunks_agree (fun c => !isQ c && c != '\n') true hrest
            rcases runChunks_stop (fun c => !isQ c && c != '\n') true ks with
              hend | ⟨e, rest, hstop, -⟩ | ⟨hf, -⟩
            · have hend' : ks'.drop (runChunks (fun c => !isQ c && c != '\n') true ks') = [] := by
                have hlen := (List.forall₂_drop
                  (runChunks (fun c => !isQ c && c != '\n') true ks) hrest).length_eq
                rw [hend] at hlen
                rw [hsame]
                exact List.length_eq_zero_iff.mp hlen.symm
              exact .of_none (quotedPath_unchunk_end hq hqc hks.tail.wordChunks hend)
                (quotedPath_unchunk_end hq hqc hks'.tail.wordChunks hend')
            · obtain ⟨rest', hstop'⟩ := forall₂_agree_drop_cons hrest hstop
              rw [← hsame] at hstop'
              refine ⟨if isQ e then some (runChunks (fun c => !isQ c && c != '\n') true ks + 2)
                else none, ?_, ?_⟩
              · rw [quotedPath_unchunk_stop hq hqc hks.tail.wordChunks hstop]
                split <;> rfl
              · rw [quotedPath_unchunk_stop hq hqc hks'.tail.wordChunks hstop', hsame]
                split <;> rfl
            · cases hf

end

theorem eitherQuote_of_isWordChar (c : Char) (hc : isWordChar c = true) :
    eitherQuote c = false := by
  cases h : eitherQuote c with
  | false => rfl
  | true =>
      rw [isWordChar_quote (c := c) h] at hc
      cases hc

theorem lazyThenPath_word : ∀ {w : List Char}, (∀ c ∈ w, isWordChar c = true) →
    ∀ rest, lazyThenPath (w ++ rest) = (lazyThenPath rest).map (· + w.length)
  | [], _, rest => by simp
  | c :: w, hw, rest => by
      have hc := hw c List.mem_cons_self
      have hquote : quotedPath eitherQuote (c :: (w ++ rest)) = none := by
        simp [quotedPath, eitherQuote_of_isWordChar c hc]
      have hsemi : c ≠ ';' := fun h => by rw [h, isWordChar_semicolon] at hc; cases hc
      have hnl : c ≠ '\n' := fun h => by rw [h, isWordChar_newline] at hc; cases hc
      have hgo : (c == ';' || c == '\n') = false := by simp [hsemi, hnl]
      rw [List.cons_append, lazyThenPath, hquote]
      simp only [hgo, Bool.false_eq_true, if_false,
        lazyThenPath_word (fun d hd => hw d (List.mem_cons_of_mem c hd)) rest, Option.map_map]
      congr 1

theorem alike_lazyThenPath : Alike lazyThenPath := by
  intro ks ks' hks hks' hagree
  induction hagree with
  | nil => exact .of_none rfl rfl
  | @cons k k' ks ks' hk hrest ih =>
      obtain ⟨r, h, h'⟩ := ih hks.tail hks'.tail
      cases k with
      | word v =>
          cases k' with
          | other _ => exact hk.elim
          | word w =>
              -- a word is passed over whole
              refine ⟨r.map (· + 1), ?_, ?_⟩
              · rw [unchunk_cons, Chunk.chars, lazyThenPath_word hks.isWord.2, h]
                cases r <;> simp [Chunk.chars, Nat.add_comm]
              · rw [unchunk_cons, Chunk.chars, lazyThenPath_word hks'.isWord.2, h']
                cases r <;> simp [Chunk.chars, Nat.add_comm]
      | other c =>
          rw [agree_other hk] at hks' ⊢
          obtain ⟨r₀, h₀, h₀'⟩ := alike_quotedPath eitherQuote_of_isWordChar
            (.other c :: ks) (.other c :: ks') hks hks' (.cons (Chunk.Agree.refl _) hrest)
          simp only [unchunk_cons, Chunk.chars, List.singleton_append] at h₀ h₀' ⊢
          cases r₀ with
          | some n =>
              -- a path right here is the statement's path
              exact ⟨some n, by simp [Chunk.chars, lazyThenPath, h₀],
                by simp [Chunk.chars, lazyThenPath, h₀']⟩
          | none =>
              by_cases hstop : (c == ';' || c == '\n') = true
              · exact .of_none (by simp [Chunk.chars, lazyThenPath, h₀, hstop])
                  (by simp [Chunk.chars, lazyThenPath, h₀', hstop])
              · refine ⟨r.map (· + 1), ?_, ?_⟩
                · simp only [unchunk_cons, Chunk.chars, List.singleton_append, lazyThenPath, h₀, hstop, h]
                  cases r <;> simp [Chunk.chars, Nat.add_comm]
                · simp only [unchunk_cons, Chunk.chars, List.singleton_append, lazyThenPath, h₀', hstop, h']
                  cases r <;> simp [Chunk.chars, Nat.add_comm]

theorem isBlank_of_isWordChar (c : Char) (hc : isWordChar c = true) : isBlank c = false := by
  cases h : isBlank c with
  | false => rfl
  | true =>
      rw [isWordChar_of_isBlank h] at hc
      cases hc

theorem alike_oneThen {f after : List Char → Option Nat} {q : Char → Bool}
    (hq : ∀ d, isWordChar d = true → q d = false) (hnil : f [] = none)
    (hcons : ∀ d rest, f (d :: rest) = if q d then (after rest).map (· + 1) else none)
    (ha : Alike after) : Alike f := by
  intro ks ks' hks hks' hagree
  cases hagree with
  | nil => exact .of_none hnil hnil
  | @cons k k' ks ks' hk hrest =>
      cases k with
      | word v =>
          cases k' with
          | other _ => exact hk.elim
          | word w =>
              have hstart : ∀ {u : List Char} (xs : List Chunk), IsWord u →
                  f (unchunk (.word u :: xs)) = none := by
                intro u xs hu
                obtain ⟨d, ds, rfl⟩ := List.exists_cons_of_ne_nil hu.1
                simp [Chunk.chars, hcons, hq d (hu.2 d List.mem_cons_self)]
              exact .of_none (hstart ks hks.isWord) (hstart ks' hks'.isWord)
      | other c =>
          rw [agree_other hk] at hks' ⊢
          cases hqc : q c with
          | false =>
              exact .of_none (by simp [Chunk.chars, hcons, hqc]) (by simp [Chunk.chars, hcons, hqc])
          | true =>
              obtain ⟨r, h, h'⟩ := ha ks ks' hks.tail hks'.tail hrest
              refine ⟨r.map (· + 1), ?_, ?_⟩
              · simp only [unchunk_cons, Chunk.chars, List.singleton_append, hcons, hqc, if_true, h]
                cases r <;> simp [Chunk.chars, Nat.add_comm]
              · simp only [unchunk_cons, Chunk.chars, List.singleton_append, hcons, hqc, if_true, h']
                cases r <;> simp [Chunk.chars, Nat.add_comm]

theorem alike_blankThen {after : List Char → Option Nat} (ha : Alike after) :
    Alike (blankThen after) :=
  alike_oneThen isBlank_of_isWordChar rfl (fun _ _ => rfl) ha

theorem alike_charThen {c : Char} (hc : isWordChar c = false) {after : List Char → Option Nat}
    (ha : Alike after) : Alike (charThen c after) := by
  refine alike_oneThen (q := fun d => d == c) ?_ rfl (fun _ _ => rfl) ha
  intro d hd
  have hne : d ≠ c := fun h => by rw [h, hc] at hd; cases hd
  simpa using hne

theorem alike_blanksThen {after : List Char → Option Nat} (ha : Alike after) :
    Alike (blanksThen after) := by
  intro ks ks' hks hks' hagree
  -- the blanks are other chunks, the same number in both lists
  have hsame := runChunks_agree isBlank false hagree
  generalize hn : runChunks isBlank false ks = n at hsame
  obtain ⟨r, h, h'⟩ := ha _ _ (hks.drop n) (hks'.drop n) (List.forall₂_drop n hagree)
  have hrun := runLength_unchunk isBlank_of_isWordChar hks.wordChunks
  have hrun' := runLength_unchunk isBlank_of_isWordChar hks'.wordChunks
  rw [hn] at hrun
  rw [hsame] at hrun'
  refine ⟨r.map (n + ·), ?_, ?_⟩
  · simp only [blanksThen, hrun, drop_charsIn, h]
    cases r <;> simp [charsIn_add, Nat.add_comm]
  · simp only [blanksThen, hrun', drop_charsIn, h']
    cases r <;> simp [charsIn_add, Nat.add_comm]

theorem Chunked.headIsWord_after_word {w : List Char} {ks : List Chunk}
    (h : Chunked (.word w :: ks)) : headIsWord (unchunk ks) = false := by
  cases h with
  | word _ hstart hrest => exact headIsWord_unchunk hrest hstart

theorem Chunked.other_not_word {c : Char} {ks : List Chunk} (h : Chunked (.other c :: ks)) :
    isWordChar c = false := by
  cases h with
  | other hc _ => exact hc

section

variable {kw : String} (hword : IsWord kw.toList) {after : List Char → Option Nat}
  (hafter : ∀ d rest, isWordChar d = true → after (d :: rest) = none)
include hword hafter

theorem keywordThen_word {v : List Char} (hv : IsWord v) {rest : List Char}
    (hrest : headIsWord rest = false) :
    keywordThen kw after (v ++ rest) =
      if v = kw.toList then (after rest).map (· + kw.length) else none := by
  unfold keywordThen
  by_cases hvk : v = kw.toList
  · subst hvk
    have hpre : kw.toList.isPrefixOf (kw.toList ++ rest) = true :=
      List.isPrefixOf_iff_prefix.mpr (List.prefix_append _ _)
    rw [hpre, if_pos rfl, if_pos rfl, ← String.length_toList, List.drop_left]
  · rw [if_neg hvk]
    split
    · rename_i hpre
      have hp : kw.toList <+: v ++ rest := List.isPrefixOf_iff_prefix.mp hpre
      rcases List.prefix_or_prefix_of_prefix hp (List.prefix_append v rest) with hkv | hvk'
      · -- the keyword is a proper prefix of the word: a word character follows it
        have hlt : kw.toList.length < v.length :=
          Nat.lt_of_le_of_ne hkv.length_le fun h => hvk (hkv.eq_of_length h).symm
        obtain ⟨d, ds, hd⟩ : ∃ d ds, v.drop kw.toList.length = d :: ds :=
          List.exists_cons_of_ne_nil (by simp; omega)
        have hmem : d ∈ v.drop kw.toList.length := by
          rw [hd]
          exact List.mem_cons_self
        have hdword : isWordChar d = true := hv.2 d (List.mem_of_mem_drop hmem)
        have hdrop : (v ++ rest).drop kw.length = d :: (ds ++ rest) := by
          rw [← String.length_toList, List.drop_append_of_le_length hkv.length_le, hd]
          rfl
        rw [hdrop, hafter d _ hdword]
        rfl
      · -- the word is a proper prefix of the keyword, which goes on into `rest`
        obtain ⟨t, ht⟩ := hvk'
        have htne : t ≠ [] := fun h => hvk (by rw [← ht, h, List.append_nil])
        have hpt : t <+: rest := by
          rw [← ht] at hp
          exact (List.prefix_append_right_inj v).mp hp
        obtain ⟨e, es, rfl⟩ := List.exists_cons_of_ne_nil htne
        obtain ⟨u, hu⟩ := hpt
        have he : isWordChar e = true := hword.2 e (by rw [← ht]; simp)
        rw [← hu] at hrest
        simp [headIsWord, he] at hrest
    · rfl

theorem alike_keywordThen (hkw : kw.toList ∈ pathKeywords) (ha : Alike after) :
    Alike (keywordThen kw after) := by
  intro ks ks' hks hks' hagree
  obtain ⟨d, ds, hd⟩ := List.exists_cons_of_ne_nil hword.1
  have hdword : isWordChar d = true := hword.2 d (by rw [hd]; exact List.mem_cons_self)
  -- a keyword starts with a word character, so it opens nothing at the end or at a character
  have hother : ∀ c xs, isWordChar c = false →
      keywordThen kw after (unchunk (.other c :: xs)) = none := by
    intro c xs hc
    have hdc : d ≠ c := fun h => by rw [h, hc] at hdword; cases hdword
    simp [keywordThen, Chunk.chars, hd, List.isPrefixOf, hdc]
  have hnil : keywordThen kw after (unchunk []) = none := by
    simp [keywordThen, hd]
  cases hagree with
  | nil => exact .of_none hnil hnil
  | @cons k k' ks ks' hk hrest =>
      cases k with
      | other c =>
          rw [agree_other hk] at hks' ⊢
          exact .of_none (hother c ks hks.other_not_word) (hother c ks' hks'.other_not_word)
      | word v =>
          cases k' with
          | other _ => exact hk.elim
          | word w =>
              have hv := keywordThen_word hword hafter hks.isWord hks.headIsWord_after_word
              have hw := keywordThen_word hword hafter hks'.isWord hks'.headIsWord_after_word
              simp only [ReadsAlike, unchunk_cons, Chunk.chars]
              by_cases hvk : v = kw.toList
              · -- the keyword itself: both words are it
                have hwk : w = kw.toList := (hk (.inl (hvk ▸ hkw))).symm.trans hvk
                obtain ⟨r, h, h'⟩ := ha ks ks' hks.tail hks'.tail hrest
                refine ⟨r.map (· + 1), ?_, ?_⟩
                · rw [hv, if_pos hvk, h]
                  cases r <;> simp [Chunk.chars, hvk, String.length_toList, Nat.add_comm]
                · rw [hw, if_pos hwk, h']
                  cases r <;> simp [Chunk.chars, hwk, String.length_toList, Nat.add_comm]
              · -- another word: neither is the keyword
                have hwk : w ≠ kw.toList := fun hwk => hvk ((hk (.inr (hwk ▸ hkw))).trans hwk)
                exact ⟨none, by rw [hv, if_neg hvk]; rfl, by rw [hw, if_neg hwk]; rfl⟩

end

theorem isWord_of_all {w : List Char} (h : (!w.isEmpty && w.all isWordChar) = true) :
    IsWord w := by
  simp only [Bool.and_eq_true, Bool.not_eq_true', List.isEmpty_eq_false_iff,
    List.all_eq_true] at h
  exact ⟨h.1, h.2⟩

theorem alike_importOrRequireAt : Alike importOrRequireAt := by
  have himport : IsWord "import".toList := isWord_of_all (by decide)
  have hrequire : IsWord "require".toList := isWord_of_all (by decide)
  have hfrom : IsWord "from".toList := isWord_of_all (by decide)
  have hparen : isWordChar '(' = false := by decide
  have hpath := alike_quotedPath eitherQuote_of_isWordChar
  -- what follows a keyword refuses a word character
  have hblank : ∀ d rest, isWordChar d = true → blankThen lazyThenPath (d :: rest) = none := by
    intro d rest hd
    simp [blankThen, isBlank_of_isWordChar d hd]
  have hparenAfter : ∀ d rest, isWordChar d = true →
      blanksThen (charThen '(' (blanksThen (quotedPath eitherQuote))) (d :: rest) = none := by
    intro d rest hd
    have hne : d ≠ '(' := fun h => by rw [h, hparen] at hd; cases hd
    simp [blanksThen, runLength, isBlank_of_isWordChar d hd, charThen, hne]
  have hpathAfter : ∀ d rest, isWordChar d = true →
      blanksThen (quotedPath eitherQuote) (d :: rest) = none := by
    intro d rest hd
    simp [blanksThen, runLength, isBlank_of_isWordChar d hd, quotedPath,
      eitherQuote_of_isWordChar d hd]
  exact (alike_keywordThen himport hblank (by simp [pathKeywords])
      (alike_blankThen alike_lazyThenPath)).orElse
    ((alike_keywordThen himport hparenAfter (by simp [pathKeywords])
      (alike_blanksThen (alike_charThen hparen (alike_blanksThen hpath)))).orElse
    ((alike_keywordThen hrequire hparenAfter (by simp [pathKeywords])
      (alike_blanksThen (alike_charThen hparen (alike_blanksThen hpath)))).orElse
    (alike_keywordThen hfrom hpathAfter (by simp [pathKeywords]) (alike_blanksThen hpath))))

/-! ## Scanning agreeing texts -/

theorem lastIsWord_agree {xs ys : List Chunk} (h : List.Forall₂ Chunk.Agree xs ys)
    (hx : ∀ k ∈ xs, k.chars ≠ []) (hy : ∀ k ∈ ys, k.chars ≠ [])
    (hwx : WordChunks xs) (hwy : WordChunks ys) :
    ((unchunk xs).getLast?.map isWordChar).getD false =
      ((unchunk ys).getLast?.map isWordChar).getD false := by
  induction h with
  | nil => rfl
  | @cons x y xs ys hxy hrest ih =>
      have ih' := ih (fun k hk => hx k (List.mem_cons_of_mem x hk))
        (fun k hk => hy k (List.mem_cons_of_mem y hk)) hwx.of_cons hwy.of_cons
      cases xs with
      | cons x₂ xs =>
          -- the last character lies in the rest, which is not empty on either side
          cases hrest with
          | @cons _ y₂ _ ys₂ _ _ =>
              have hne : unchunk (x₂ :: xs) ≠ [] := by
                simp [hx x₂ (by simp)]
              have hne' : unchunk (y₂ :: ys₂) ≠ [] := by
                simp [hy y₂ (List.mem_cons_of_mem y List.mem_cons_self)]
              rw [unchunk_cons x, List.getLast?_append_of_ne_nil _ hne,
                unchunk_cons y, List.getLast?_append_of_ne_nil _ hne']
              exact ih'
      | nil =>
          cases hrest
          cases x with
          | other c =>
              rw [agree_other hxy]
          | word v =>
              cases y with
              | other _ => exact hxy.elim
              | word w =>
                  have hv := hwx v List.mem_cons_self
                  have hw := hwy w List.mem_cons_self
                  obtain ⟨a, ha⟩ := List.getLast?_isSome.mpr hv.1 |> Option.isSome_iff_exists.mp
                  obtain ⟨b, hb⟩ := List.getLast?_isSome.mpr hw.1 |> Option.isSome_iff_exists.mp
                  simp [Chunk.chars, ha, hb, hv.2 a (List.mem_of_getLast? ha),
                    hw.2 b (List.mem_of_getLast? hb)]

section

variable {rule : Rule} {f : List Char → Option Nat}
  (hrule : ∀ prev cs, rule prev cs = if (prev.map isWordChar).getD false = true then none else f cs)
include hrule

theorem spansFrom_inside_word (rest : List Char) :
    ∀ {w : List Char} {p : Char} {offset : Nat}, isWordChar p = true →
      (∀ c ∈ w, isWordChar c = true) →
      spansFrom rule (some p) offset (w ++ rest) =
        spansFrom rule (some (w.getLast?.getD p)) (offset + byteSize w) rest
  | [], _, _, _, _ => by simp
  | c :: w, p, offset, hp, hw => by
      have hc := hw c List.mem_cons_self
      rw [List.cons_append, spansFrom.eq_2, hrule, if_pos (by simp [hp])]
      simp only
      rw [spansFrom_inside_word rest hc fun d hd => hw d (List.mem_cons_of_mem c hd)]
      cases w with
      | nil => simp
      | cons d ds => simp [List.getLast?_cons, Nat.add_assoc]

theorem spansFrom_skip_chunk {k : Chunk} {ks : List Chunk} (hk : Chunked (k :: ks))
    {prev : Option Char} (offset : Nat)
    (hnone : ∀ m, rule prev (unchunk (k :: ks)) ≠ some (m + 1)) :
    spansFrom rule prev offset (unchunk (k :: ks)) =
      spansFrom rule k.chars.getLast? (offset + byteSize k.chars) (unchunk ks) := by
  cases k with
  | other c =>
      simp only [unchunk_cons, Chunk.chars, List.singleton_append] at hnone ⊢
      rw [spansFrom.eq_2]
      split
      · rename_i m hm
        exact absurd hm (hnone m)
      · simp
  | word w =>
      obtain ⟨d, ds, rfl⟩ := List.exists_cons_of_ne_nil hk.isWord.1
      have hw := hk.isWord.2
      simp only [unchunk_cons, Chunk.chars, List.cons_append] at hnone ⊢
      rw [spansFrom.eq_2]
      split
      · rename_i m hm
        exact absurd hm (hnone m)
      · rw [spansFrom_inside_word hrule _ (hw d List.mem_cons_self)
          fun c hc => hw c (List.mem_cons_of_mem d hc)]
        simp [List.getLast?_cons, Nat.add_assoc]

omit hrule in
theorem spansFrom_take_chunks {cs : List Chunk} (hcs : Chunked cs) {prev : Option Char}
    (offset : Nat) {N : Nat} (hN : 0 < N) (hNlen : N ≤ cs.length)
    (hmatch : rule prev (unchunk cs) = some (charsIn cs N)) :
    spansFrom rule prev offset (unchunk cs) =
      ⟨offset, offset + byteSize (unchunk (cs.take N))⟩ ::
        spansFrom rule (unchunk (cs.take N)).getLast? (offset + byteSize (unchunk (cs.take N)))
          (unchunk (cs.drop N)) := by
  have hpos : 0 < cs.length := by omega
  obtain ⟨k, ks, rfl⟩ := List.exists_cons_of_ne_nil (List.ne_nil_of_length_pos hpos)
  have hk := hcs.chars_ne_nil k List.mem_cons_self
  obtain ⟨K, hK⟩ : ∃ K, charsIn (k :: ks) N = K + 1 := by
    obtain ⟨n, rfl⟩ := Nat.exists_eq_add_of_lt hN
    refine ⟨charsIn (k :: ks) (n + 1) - 1, ?_⟩
    have : 0 < k.chars.length := List.length_pos_of_ne_nil hk
    simp only [Nat.zero_add, charsIn_cons_succ]
    omega
  have htake := take_charsIn (k :: ks) N
  have hdrop := drop_charsIn (k :: ks) N
  rw [hK] at hmatch htake hdrop
  obtain ⟨c, tail, hct⟩ : ∃ c tail, unchunk (k :: ks) = c :: tail :=
    List.exists_cons_of_ne_nil (by simp [hk])
  rw [hct] at hmatch htake hdrop ⊢
  rw [spansFrom.eq_2, hmatch]
  simp only [htake, hdrop]

/-- A scan by a rule that matches, at the start of a chunk not preceded by a word character, as
an alike matcher does, finds its matches at the same chunk indices in two agreeing texts. -/
theorem spansFrom_agree (hf : Alike f) :
    ∀ (cs cs' pre pre' : List Chunk) (prev prev' : Option Char),
      Chunked cs → Chunked cs' → List.Forall₂ Chunk.Agree cs cs' → pre.length = pre'.length →
      (prev.map isWordChar).getD false = (prev'.map isWordChar).getD false →
      ∃ idx : List (Nat × Nat),
        spansFrom rule prev (byteSize (unchunk pre)) (unchunk cs) =
          idx.map (holeSpan (pre ++ cs)) ∧
        spansFrom rule prev' (byteSize (unchunk pre')) (unchunk cs') =
          idx.map (holeSpan (pre' ++ cs')) ∧
        ∀ p ∈ idx, pre.length ≤ p.1 ∧ p.1 < p.2 ∧ p.2 ≤ pre.length + cs.length
  | [], cs', pre, pre', prev, prev', _, _, hagree, _, _ => by
      cases hagree
      exact ⟨[], by simp [spansFrom], by simp [spansFrom], by simp⟩
  | k :: ks, cs', pre, pre', prev, prev', hcs, hcs', hagree, hlen, hprev => by
      obtain ⟨k', ks', hk, hrest, rfl⟩ : ∃ k' ks', k.Agree k' ∧
          List.Forall₂ Chunk.Agree ks ks' ∧ cs' = k' :: ks' := by
        cases hagree with
        | cons hk hrest => exact ⟨_, _, hk, hrest, rfl⟩
      have hlen₂ := hrest.length_eq
      -- what the rule says at the start of both texts
      obtain ⟨r, hr, hr'⟩ : ∃ r : Option Nat,
          rule prev (unchunk (k :: ks)) = r.map (charsIn (k :: ks)) ∧
          rule prev' (unchunk (k' :: ks')) = r.map (charsIn (k' :: ks')) := by
        by_cases hw : (prev.map isWordChar).getD false = true
        · exact ⟨none, by rw [hrule, if_pos hw]; rfl, by rw [hrule, if_pos (hprev ▸ hw)]; rfl⟩
        · obtain ⟨r, h, h'⟩ := hf _ _ hcs hcs' (.cons hk hrest)
          exact ⟨r, by rw [hrule, if_neg hw, h], by rw [hrule, if_neg (hprev ▸ hw), h']⟩
      -- the number of chunks it takes, within the text
      by_cases htake : ∃ n, r = some n ∧ 0 < n
      · obtain ⟨n, rfl, hn⟩ := htake
        have hN : 0 < min n (k :: ks).length := by simp; omega
        have hNlen : min n (k :: ks).length ≤ (k :: ks').length := by simp [hlen₂]
        have hNpos : 0 < min n (ks.length + 1) := by simpa using hN
        have hm := spansFrom_take_chunks hcs (byteSize (unchunk pre)) hN (Nat.min_le_right _ _)
          (hr.trans (by rw [charsIn_min]; rfl))
        have hm' := spansFrom_take_chunks hcs' (byteSize (unchunk pre')) hN hNlen
          (hr'.trans (by
            rw [show (k :: ks).length = (k' :: ks').length by simp [hlen₂], charsIn_min]
            rfl))
        have hlast := lastIsWord_agree
          (List.forall₂_take (min n (k :: ks).length) (.cons hk hrest))
          (fun c hc => hcs.chars_ne_nil c (List.mem_of_mem_take hc))
          (fun c hc => hcs'.chars_ne_nil c (List.mem_of_mem_take hc))
          (hcs.wordChunks.of_sublist (List.take_sublist _ _))
          (hcs'.wordChunks.of_sublist (List.take_sublist _ _))
        obtain ⟨idx, h₁, h₂, hb⟩ := spansFrom_agree hf
          ((k :: ks).drop (min n (k :: ks).length)) ((k' :: ks').drop (min n (k :: ks).length))
          (pre ++ (k :: ks).take (min n (k :: ks).length))
          (pre' ++ (k' :: ks').take (min n (k :: ks).length))
          _ _ (hcs.drop _) (hcs'.drop _) (List.forall₂_drop _ (.cons hk hrest))
          (by simp [hlen, hlen₂]) hlast
        refine ⟨(pre.length, pre.length + min n (k :: ks).length) :: idx, ?_, ?_, ?_⟩
        · rw [hm]
          simp only [unchunk_append, byteSize_append, List.append_assoc, List.take_append_drop]
            at h₁
          rw [h₁, List.map_cons, holeSpan, pos_length_append, pos_append_length]
          rfl
        · rw [hm']
          simp only [unchunk_append, byteSize_append, List.append_assoc, List.take_append_drop]
            at h₂
          rw [h₂, List.map_cons, holeSpan, hlen, pos_length_append, pos_append_length,
            show (k :: ks).length = (k' :: ks').length by simp [hlen₂]]
          rfl
        · intro p hp
          rcases List.mem_cons.mp hp with rfl | hp
          · simp only
            omega
          · have := hb p hp
            simp only [List.length_append, List.length_take, List.length_drop] at this
            omega
      · -- the rule takes nothing: the scan passes over the first chunk
        have hnothing : ∀ (xs : List Chunk) m, r.map (charsIn xs) ≠ some (m + 1) := by
          intro xs m hm
          obtain ⟨n, rfl, hn⟩ := Option.map_eq_some_iff.mp hm
          have hzero : n = 0 := by
            by_contra h
            exact htake ⟨n, rfl, Nat.pos_of_ne_zero h⟩
          subst hzero
          simp at hn
        have hskip := spansFrom_skip_chunk hrule hcs (byteSize (unchunk pre))
          fun m => by rw [hr]; exact hnothing _ m
        have hskip' := spansFrom_skip_chunk hrule hcs' (byteSize (unchunk pre'))
          fun m => by rw [hr']; exact hnothing _ m
        have hlast : (k.chars.getLast?.map isWordChar).getD false =
            (k'.chars.getLast?.map isWordChar).getD false := by
          have h := lastIsWord_agree (.cons hk .nil)
            (by simpa using hcs.chars_ne_nil k List.mem_cons_self)
            (by simpa using hcs'.chars_ne_nil k' List.mem_cons_self)
            (hcs.wordChunks.of_sublist (by simp)) (hcs'.wordChunks.of_sublist (by simp))
          simpa using h
        obtain ⟨idx, h₁, h₂, hb⟩ := spansFrom_agree hf ks ks' (pre ++ [k]) (pre' ++ [k'])
          k.chars.getLast? k'.chars.getLast? hcs.tail hcs'.tail hrest (by simp [hlen]) hlast
        refine ⟨idx, ?_, ?_, ?_⟩
        · rw [hskip]
          simpa [List.append_assoc] using h₁
        · rw [hskip']
          simpa [List.append_assoc] using h₂
        · intro p hp
          have := hb p hp
          simp only [List.length_append, List.length_cons, List.length_nil] at this ⊢
          omega
termination_by cs => cs.length
decreasing_by
  · simp only [List.length_drop, List.length_cons]
    omega
  · simp only [List.length_cons]
    omega

end

def SameChunkSpans (cs cs' : List Chunk) (spans spans' : List Span) : Prop :=
  ∃ idx : List (Nat × Nat), spans = idx.map (holeSpan cs) ∧ spans' = idx.map (holeSpan cs') ∧
    ∀ p ∈ idx, p.1 < p.2 ∧ p.2 ≤ cs.length

/-- Two agreeing chunked texts have their module-naming statements of the import-and-require
style over the same chunks. -/
theorem modulePathSpans_agree {cs cs' : List Chunk} (hcs : Chunked cs) (hcs' : Chunked cs')
    (hagree : List.Forall₂ Chunk.Agree cs cs') :
    SameChunkSpans cs cs' (modulePathSpans .importOrRequire (unchunk cs))
      (modulePathSpans .importOrRequire (unchunk cs')) := by
  have hrule : ∀ prev text, ModulePathRule.toRule .importOrRequire prev text =
      if (prev.map isWordChar).getD false = true then none else importOrRequireAt text :=
    fun _ _ => rfl
  obtain ⟨idx, h₁, h₂, hb⟩ := spansFrom_agree hrule alike_importOrRequireAt cs cs' [] [] none none
    hcs hcs' hagree rfl rfl
  refine ⟨idx, by simpa [modulePathSpans, spans] using h₁, by simpa [modulePathSpans, spans] using h₂,
    fun p hp => ?_⟩
  have := hb p hp
  simp only [List.length_nil, Nat.zero_add] at this
  exact ⟨this.2.1, this.2.2⟩

end Text
end Obfuscator
