import Mathlib
import Obfuscator.Proofs.Minifying
/-!
# Minifying where layout carries meaning drops blank lines

Where layout carries meaning, minifying replaces each blank run (a line break and the blank
lines after it, each ended by its own line break) by a single line break. Read along its scan this
is `squeeze` (`run_eq_squeeze`), which three equations pin down: it keeps a character that is no
line break, and at a line break it keeps the break and passes over the blank lines that follow.

Read on the lines of the text, split at its line breaks, that is a filter: the first and the last
line stay as they are, and of the lines between them exactly the blank ones go (`keptLines`). A
line is blank when it holds only spaces, tabs and carriage returns. The first line is never
passed over, since no line break stands before it, and neither is the last, since no line break
ends it. The main statement is `minifying_drops_blank_lines`: the lines of the output are the kept
lines of the input, a text of one line is left as it is, and minifying again changes nothing.
-/

namespace Obfuscator

open Text Lexer

namespace Minify

/-! ## Lines -/

def isBlankLine (line : List Char) : Bool := line.all isInlineBlank

/-- The lines after the first that minifying keeps: the non-blank ones, and the last one. -/
def keptAfterFirst (rest : List (List Char)) : List (List Char) :=
  rest.dropLast.filter (fun l => !isBlankLine l) ++ rest.getLast?.toList

/-- The lines minifying keeps: the first and the last line, and between them the lines that are
not blank, in order. -/
def keptLines : List (List Char) → List (List Char)
  | [] => []
  | first :: rest => first :: keptAfterFirst rest

@[simp] theorem keptAfterFirst_nil : keptAfterFirst [] = [] := rfl

@[simp] theorem keptAfterFirst_singleton (l : List Char) : keptAfterFirst [l] = [l] := rfl

theorem keptAfterFirst_cons_cons (l m : List Char) (rest : List (List Char)) :
    keptAfterFirst (l :: m :: rest) =
      if isBlankLine l then keptAfterFirst (m :: rest) else l :: keptAfterFirst (m :: rest) := by
  cases hl : isBlankLine l <;> simp [keptAfterFirst, hl]

theorem keptAfterFirst_ne_nil {rest : List (List Char)} (h : rest ≠ []) :
    keptAfterFirst rest ≠ [] := by
  obtain ⟨last, hlast⟩ := Option.isSome_iff_exists.mp (List.getLast?_isSome.mpr h)
  simp [keptAfterFirst, hlast]

theorem mem_keptAfterFirst {rest : List (List Char)} {l : List Char}
    (h : l ∈ keptAfterFirst rest) : l ∈ rest := by
  simp only [keptAfterFirst, List.mem_append, List.mem_filter, Option.mem_toList] at h
  rcases h with ⟨hl, -⟩ | hl
  · exact List.dropLast_subset rest hl
  · exact List.mem_of_getLast? hl

theorem keptAfterFirst_keptAfterFirst (rest : List (List Char)) :
    keptAfterFirst (keptAfterFirst rest) = keptAfterFirst rest := by
  cases hlast : rest.getLast? with
  | none => rw [List.getLast?_eq_none_iff.mp hlast]; rfl
  | some last =>
      have hmiddle : ∀ l ∈ rest.dropLast.filter (fun l => !isBlankLine l), (!isBlankLine l) = true :=
        fun l hl => (List.mem_filter.mp hl).2
      simp [keptAfterFirst, hlast, List.filter_eq_self.mpr hmiddle]

theorem keptLines_keptLines (ls : List (List Char)) : keptLines (keptLines ls) = keptLines ls := by
  cases ls with
  | nil => rfl
  | cons first rest => simp [keptLines, keptAfterFirst_keptAfterFirst]

theorem newline_not_mem_of_mem_splitOn :
    ∀ {text line : List Char}, line ∈ text.splitOn '\n' → '\n' ∉ line
  | [], line, h => by simp_all [List.splitOn_nil]
  | c :: cs, line, h => by
      have ih := @newline_not_mem_of_mem_splitOn cs
      rw [List.splitOn_cons_eq_if_modifyHead] at h
      split at h
      · rcases List.mem_cons.mp h with rfl | h
        · simp
        · exact ih h
      · rename_i hc
        obtain ⟨head, tail, hsplit⟩ := List.exists_cons_of_ne_nil (List.splitOn_ne_nil '\n' cs)
        rw [hsplit, List.modifyHead_cons] at h
        rcases List.mem_cons.mp h with rfl | h
        · -- the first piece grows by the character, which is no line break
          have hhead := ih (hsplit ▸ List.mem_cons_self)
          have hne : c ≠ '\n' := by simpa using hc
          simp only [List.mem_cons, not_or]
          exact ⟨Ne.symm hne, hhead⟩
        · exact ih (hsplit ▸ List.mem_cons_of_mem head h)

/-! ## Blank lines at a position -/

theorem isInlineBlank_newline : isInlineBlank '\n' = false := by decide

theorem blankLinesLength_of_newline {cs rest : List Char}
    (h : cs.dropWhile isInlineBlank = '\n' :: rest) :
    blankLinesLength cs = (cs.takeWhile isInlineBlank).length + 1 + blankLinesLength rest := by
  rw [blankLinesLength]
  split
  · rename_i rest' heq
    rw [drop_length_takeWhile, h] at heq
    cases heq
    rfl
  · rename_i hne
    rw [drop_length_takeWhile] at hne
    exact (hne rest h).elim

theorem blankLinesLength_eq_zero {cs : List Char}
    (h : ∀ rest, cs.dropWhile isInlineBlank ≠ '\n' :: rest) : blankLinesLength cs = 0 := by
  rw [blankLinesLength]
  split
  · rename_i rest heq
    rw [drop_length_takeWhile] at heq
    exact (h rest heq).elim
  · rfl

theorem blankLinesLength_blank {l : List Char} (hl : isBlankLine l = true) (rest : List Char) :
    blankLinesLength (l ++ '\n' :: rest) = l.length + 1 + blankLinesLength rest := by
  have hall : ∀ c ∈ l, isInlineBlank c = true := List.all_eq_true.mp hl
  have hdrop : (l ++ '\n' :: rest).dropWhile isInlineBlank = '\n' :: rest := by
    rw [List.dropWhile_append_of_pos hall]
    simp [isInlineBlank_newline]
  have htake : (l ++ '\n' :: rest).takeWhile isInlineBlank = l := by
    rw [List.takeWhile_append_of_pos hall]
    simp [isInlineBlank_newline]
  rw [blankLinesLength_of_newline hdrop, htake]

theorem blankLinesLength_of_not_blank {l : List Char} (hnl : '\n' ∉ l)
    (hl : isBlankLine l = false) (rest : List Char) : blankLinesLength (l ++ rest) = 0 := by
  obtain ⟨c, hc, hcb⟩ : ∃ c ∈ l, isInlineBlank c = false := by
    simpa [isBlankLine] using hl
  obtain ⟨d, ds, hds⟩ : ∃ d ds, l.dropWhile isInlineBlank = d :: ds := by
    cases h : l.dropWhile isInlineBlank with
    | nil =>
        have hall := List.dropWhile_eq_nil_iff.mp h c hc
        rw [hcb] at hall
        cases hall
    | cons d ds => exact ⟨d, ds, rfl⟩
  have hd : d ≠ '\n' := fun hd =>
    hnl (hd ▸ (List.dropWhile_sublist _).subset (hds ▸ List.mem_cons_self))
  have hdrop : (l ++ rest).dropWhile isInlineBlank = d :: (ds ++ rest) := by
    rw [List.dropWhile_append, hds]
    simp
  exact blankLinesLength_eq_zero fun rest' heq => hd (by rw [hdrop] at heq; cases heq; rfl)

theorem blankLinesLength_last {l : List Char} (hnl : '\n' ∉ l) : blankLinesLength l = 0 := by
  cases hl : isBlankLine l with
  | false => simpa using blankLinesLength_of_not_blank hnl hl []
  | true =>
      have hdrop : l.dropWhile isInlineBlank = [] :=
        List.dropWhile_eq_nil_iff.mpr (List.all_eq_true.mp hl)
      exact blankLinesLength_eq_zero fun rest heq => by rw [hdrop] at heq; cases heq

/-! ## Minifying along its scan -/

/-- Minifying where layout carries meaning, along its scan: each blank run becomes one line
break. -/
def squeeze (text : List Char) : List Char := rewriteFrom blankRunRule (fun _ => ['\n']) [] text

theorem blankRunRule_prev (prev : Option Char) (text : List Char) :
    blankRunRule prev text = blankRunRule none text := by
  rcases text with _ | ⟨c, cs⟩
  · rfl
  · by_cases hc : c = '\n'
    · subst hc; rfl
    · simp [blankRunRule, hc]

theorem rewriteFrom_blankRunRule (before text : List Char) :
    rewriteFrom blankRunRule (fun _ => ['\n']) before text = squeeze text := by
  suffices h : ∀ before before', rewriteFrom blankRunRule (fun _ => ['\n']) before text =
      rewriteFrom blankRunRule (fun _ => ['\n']) before' text from h before []
  intro before
  fun_induction rewriteFrom blankRunRule (fun _ => ['\n']) before text with
  | case1 before =>
      intro before'
      simp [rewriteFrom]
  | case2 before c cs k hrule ih =>
      intro before'
      rw [rewriteFrom.eq_2, blankRunRule_prev before'.getLast?,
        ← blankRunRule_prev before.getLast?, hrule]
      simp only
      rw [ih]
  | case3 before c cs hrule ih =>
      intro before'
      rw [rewriteFrom.eq_2]
      split
      · rename_i k hk
        rw [blankRunRule_prev, ← blankRunRule_prev before.getLast?] at hk
        exact absurd hk (hrule k)
      · rw [ih]

@[simp] theorem squeeze_nil : squeeze [] = [] := by simp [squeeze, rewriteFrom]

theorem squeeze_cons {c : Char} (hc : c ≠ '\n') (cs : List Char) :
    squeeze (c :: cs) = c :: squeeze cs := by
  have hrule : blankRunRule ([] : List Char).getLast? (c :: cs) = none := by
    simp [blankRunRule, hc]
  rw [squeeze, rewriteFrom, hrule]
  simp only
  rw [rewriteFrom_blankRunRule]

theorem squeeze_newline (cs : List Char) :
    squeeze ('\n' :: cs) = '\n' :: squeeze (cs.drop (blankLinesLength cs)) := by
  rw [squeeze, rewriteFrom]
  by_cases hk : blankLinesLength cs = 0
  · have hrule : blankRunRule ([] : List Char).getLast? ('\n' :: cs) = none := by
      simp [blankRunRule, hk]
    rw [hrule]
    simp only
    rw [rewriteFrom_blankRunRule, hk, List.drop_zero]
  · obtain ⟨k, hk'⟩ := Nat.exists_eq_succ_of_ne_zero hk
    have hrule : blankRunRule ([] : List Char).getLast? ('\n' :: cs) = some (k + 1 + 1) := by
      simp [blankRunRule, hk']
    rw [hrule]
    simp only [List.drop_succ_cons, List.nil_append]
    rw [rewriteFrom_blankRunRule, hk']
    rfl

theorem squeeze_append_line {l : List Char} (hl : '\n' ∉ l) (rest : List Char) :
    squeeze (l ++ rest) = l ++ squeeze rest := by
  induction l with
  | nil => rfl
  | cons c cs ih =>
      have hc : c ≠ '\n' := fun h => hl (h ▸ List.mem_cons_self)
      rw [List.cons_append, squeeze_cons hc, ih fun h => hl (List.mem_cons_of_mem c h),
        List.cons_append]

/-- Where layout carries meaning, minifying is squeezing along the scan. -/
theorem run_eq_squeeze (L : Language) (hL : L.profile.whitespaceSensitive = true)
    (code : List Char) : run L code = some (squeeze code) := by
  unfold run
  simp only [hL, if_true]
  exact splice_spans_eq_rewrite blankRunRule (fun _ => ['\n']) code (fun _ => ['\n'])
    fun _ _ _ _ => rfl

/-! ## Squeezing, line by line -/

theorem squeeze_newline_intercalate :
    ∀ {ls : List (List Char)}, ls ≠ [] → (∀ l ∈ ls, '\n' ∉ l) →
      squeeze ('\n' :: ['\n'].intercalate ls) = '\n' :: ['\n'].intercalate (keptAfterFirst ls)
  | [], hne, _ => absurd rfl hne
  | [l], _, hl => by
      have hnl := hl l List.mem_cons_self
      rw [List.intercalate_singleton, squeeze_newline, blankLinesLength_last hnl, List.drop_zero,
        keptAfterFirst_singleton, List.intercalate_singleton]
      simpa using squeeze_append_line hnl []
  | l :: m :: rest, _, hl => by
      have hnl := hl l List.mem_cons_self
      have ih := @squeeze_newline_intercalate (m :: rest) (List.cons_ne_nil m rest)
        fun l' hl' => hl l' (List.mem_cons_of_mem l hl')
      rw [List.intercalate_cons_cons, List.append_assoc, List.singleton_append,
        keptAfterFirst_cons_cons]
      cases hblank : isBlankLine l with
      | true =>
          -- the blank line goes with the break before it; the break after it starts the rest
          rw [squeeze_newline, blankLinesLength_blank hblank, Nat.add_assoc,
            List.drop_length_add_append, Nat.add_comm 1, List.drop_succ_cons, ← squeeze_newline, ih, if_pos rfl]
      | false =>
          rw [squeeze_newline, blankLinesLength_of_not_blank hnl hblank, List.drop_zero,
            squeeze_append_line hnl, ih, if_neg Bool.false_ne_true,
            List.intercalate_cons_of_ne_nil (keptAfterFirst_ne_nil (List.cons_ne_nil m rest))]
          simp

theorem squeeze_intercalate {ls : List (List Char)} (hl : ∀ l ∈ ls, '\n' ∉ l) :
    squeeze (['\n'].intercalate ls) = ['\n'].intercalate (keptLines ls) := by
  rcases ls with _ | ⟨first, rest⟩
  · simp [keptLines]
  · have hfirst := hl first List.mem_cons_self
    rcases rest with _ | ⟨l, rest⟩
    · simpa [keptLines] using squeeze_append_line hfirst []
    · rw [List.intercalate_cons_of_ne_nil (List.cons_ne_nil l rest), List.append_assoc,
        List.singleton_append, squeeze_append_line hfirst,
        squeeze_newline_intercalate (List.cons_ne_nil l rest)
          fun l' hl' => hl l' (List.mem_cons_of_mem first hl'),
        keptLines, List.intercalate_cons_of_ne_nil (keptAfterFirst_ne_nil (List.cons_ne_nil l rest))]
      simp

theorem squeeze_eq_intercalate_keptLines (code : List Char) :
    squeeze code = ['\n'].intercalate (keptLines (code.splitOn '\n')) := by
  have hlines : ['\n'].intercalate (code.splitOn '\n') = code := List.intercalate_splitOn '\n'
  calc squeeze code = squeeze (['\n'].intercalate (code.splitOn '\n')) := by rw [hlines]
    _ = ['\n'].intercalate (keptLines (code.splitOn '\n')) :=
      squeeze_intercalate fun _ => newline_not_mem_of_mem_splitOn

theorem newline_not_mem_of_mem_keptLines {ls : List (List Char)} (hl : ∀ l ∈ ls, '\n' ∉ l) :
    ∀ l ∈ keptLines ls, '\n' ∉ l := by
  rcases ls with _ | ⟨first, rest⟩
  · simp [keptLines]
  · intro l hmem
    rcases List.mem_cons.mp hmem with rfl | hmem
    · exact hl l List.mem_cons_self
    · exact hl l (List.mem_cons_of_mem first (mem_keptAfterFirst hmem))

theorem keptLines_ne_nil {ls : List (List Char)} (h : ls ≠ []) : keptLines ls ≠ [] := by
  rcases ls with _ | ⟨first, rest⟩
  · exact absurd rfl h
  · simp [keptLines]

example : run .python "def f():\n\n  \n    return 1\n\n".toList =
    some "def f():\n    return 1\n".toList := by
  decide +kernel

/-- Where layout carries meaning, minifying drops exactly the blank lines between the first and
the last: the lines of the output are the first line, the lines after it that are not blank (only
spaces, tabs and carriage returns), and the last line, each unchanged and in order. A text of one
line is left as it is, and minifying again changes nothing. -/
theorem minifying_drops_blank_lines (code : List Char) :
    ∃ m, run .python code = some m ∧
      m.splitOn '\n' = keptLines (code.splitOn '\n') ∧
      ('\n' ∉ code → m = code) ∧
      run .python m = some m := by
  have hlines : ∀ l ∈ code.splitOn '\n', '\n' ∉ l := fun _ => newline_not_mem_of_mem_splitOn
  have hkept := newline_not_mem_of_mem_keptLines hlines
  have hne := keptLines_ne_nil (List.splitOn_ne_nil '\n' code)
  refine ⟨squeeze code, run_eq_squeeze .python rfl code, ?_, ?_, ?_⟩
  · rw [squeeze_eq_intercalate_keptLines]
    exact List.splitOn_intercalate '\n' hkept hne
  · intro hcode
    rw [squeeze_eq_intercalate_keptLines, List.splitOn_eq_singleton hcode]
    simp [keptLines]
  · -- the kept lines keep the same lines again
    rw [run_eq_squeeze .python rfl, squeeze_eq_intercalate_keptLines code,
      squeeze_intercalate hkept, keptLines_keptLines]

end Minify

end Obfuscator
