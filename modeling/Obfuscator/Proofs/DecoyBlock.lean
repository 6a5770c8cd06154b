import Mathlib
import Obfuscator.Passes
/-!
# The decoy block

Injection puts the language's decoy block in front of the text, or, in a language whose files
open with a tag, right after that tag when the text opens with it. A PHP text alternates between
markup that is printed and code: a character is code when an open tag `<?php` ends before it
and no closing tag `?>` starts in between (`InCode`).

Main statement (`injecting_keeps_code_and_text`): taking the block out of the output gives the
text back, with one line break added after a leading tag that had none; and in PHP text that
opens with `<?php` after blanks, and only there, every character of the block is code. Only a
leading tag written in lower case is recognised: PHP text with markup before its first tag, or
with its tag in upper case, gets the block in front, where it is printed
(`injecting_prints_block_before_unrecognised_tags`).
-/
namespace Obfuscator

namespace Text

theorem leadingBlanks_append_trimStart (cs : List Char) : leadingBlanks cs ++ trimStart cs = cs :=
  List.takeWhile_append_dropWhile

theorem take_length_sub_trimStart (cs : List Char) :
    cs.take (cs.length - (trimStart cs).length) = leadingBlanks cs := by
  have hsplit := leadingBlanks_append_trimStart cs
  have hlen : cs.length - (trimStart cs).length = (leadingBlanks cs).length := by
    have := congrArg List.length hsplit
    rw [List.length_append] at this
    omega
  rw [hlen]
  calc cs.take (leadingBlanks cs).length
      = (leadingBlanks cs ++ trimStart cs).take (leadingBlanks cs).length := by rw [hsplit]
    _ = leadingBlanks cs := List.take_left' rfl

end Text

namespace DeadCode

open Text

/-- Whether an open tag starts at character `j` of a PHP text: `<?php` in any letter case,
followed by a blank or by the end of the text. -/
def IsOpenTagAt (out : List Char) (j : Nat) : Prop :=
  ((out.drop j).take 5).map Char.toLower = "<?php".toList ∧ ∀ c ∈ out[j + 5]?, isBlank c = true

/-- Whether a closing tag `?>` starts at character `k` of a PHP text. -/
def IsCloseTagAt (out : List Char) (k : Nat) : Prop := (out.drop k).take 2 = "?>".toList

/-- Whether character `i` of a PHP text lies in code: an open tag ends at or before it, and no
closing tag starts between the end of that tag and it. -/
def InCode (out : List Char) (i : Nat) : Prop :=
  ∃ j, j + 5 ≤ i ∧ IsOpenTagAt out j ∧ ∀ k, j + 5 ≤ k → k ≤ i → ¬ IsCloseTagAt out k

theorem toLower_eq_lt {c : Char} (h : c.toLower = '<') : c = '<' := by
  have hupper : ¬ c.isUpper := by
    intro hup
    -- lowering keeps letters letters, and `<` is none
    have halpha := Char.isAlpha_toLower_eq_isAlpha c
    rw [h] at halpha
    simp [Char.isAlpha, hup] at halpha
  rwa [Char.toLower_eq_of_not_isUpper hupper] at h

theorem IsOpenTagAt.getElem? {out : List Char} {j : Nat} (h : IsOpenTagAt out j) :
    out[j]? = some '<' := by
  obtain ⟨htag, -⟩ := h
  cases hout : out.drop j with
  | nil => simp [hout] at htag
  | cons c rest =>
      have hc : c.toLower = '<' := by simpa [hout] using congrArg List.head? htag
      rw [← List.head?_drop, hout, toLower_eq_lt hc]
      rfl

theorem IsCloseTagAt.getElem? {out : List Char} {k : Nat} (h : IsCloseTagAt out k) :
    out[k]? = some '?' := by
  cases hout : out.drop k with
  | nil => simp [IsCloseTagAt, hout] at h
  | cons c rest =>
      have hc : c = '?' := by simpa [IsCloseTagAt, hout] using congrArg List.head? h
      rw [← List.head?_drop, hout, hc]
      rfl

theorem not_isOpenTagAt_of_not_mem {pre post : List Char} (hpre : '<' ∉ pre) {j : Nat}
    (hj : j < pre.length) : ¬ IsOpenTagAt (pre ++ post) j := by
  intro h
  have hat := h.getElem?
  rw [List.getElem?_append_left hj] at hat
  exact hpre (List.mem_of_getElem? hat)

theorem not_isCloseTagAt_of_not_mem {pre mid post : List Char} (hmid : '?' ∉ mid) {k : Nat}
    (hk₁ : pre.length ≤ k) (hk₂ : k < pre.length + mid.length) :
    ¬ IsCloseTagAt (pre ++ mid ++ post) k := by
  intro h
  have hat := h.getElem?
  rw [List.append_assoc, List.getElem?_append_right hk₁,
    List.getElem?_append_left (by omega)] at hat
  exact hmid (List.mem_of_getElem? hat)

theorem isOpenTagAt_tag (pre : List Char) {post : List Char}
    (hpost : ∀ c ∈ post.head?, isBlank c = true) :
    IsOpenTagAt (pre ++ "<?php".toList ++ post) pre.length := by
  constructor
  · simp
  · have hat : (pre ++ "<?php".toList ++ post)[pre.length + 5]? = post.head? := by
      rw [List.append_assoc, List.getElem?_append_right (by omega)]
      simp [List.head?_eq_getElem?]
    rwa [hat]

theorem inCode_after_tag (pre : List Char) {mid : List Char} (post : List Char)
    (hmid : '?' ∉ mid) (hhead : ∀ c ∈ mid.head?, isBlank c = true) :
    ∀ i < mid.length, InCode (pre ++ "<?php".toList ++ mid ++ post) (pre.length + 5 + i) := by
  intro i hi
  have hne : mid ≠ [] := List.ne_nil_of_length_pos (by omega)
  refine ⟨pre.length, by omega, ?_, ?_⟩
  · have hhead' : ∀ c ∈ (mid ++ post).head?, isBlank c = true := by
      simpa [List.head?_append_of_ne_nil _ hne] using hhead
    simpa [List.append_assoc] using isOpenTagAt_tag pre hhead'
  · intro k hk₁ hk₂
    have hlen : (pre ++ "<?php".toList).length = pre.length + 5 := by simp
    exact not_isCloseTagAt_of_not_mem hmid (by omega) (by omega)

theorem not_inCode_of_not_mem {pre post : List Char} (hpre : '<' ∉ pre) :
    ∀ i < pre.length, ¬ InCode (pre ++ post) i := by
  rintro i hi ⟨j, hj, htag, -⟩
  exact not_isOpenTagAt_of_not_mem hpre (by omega) htag

/-! ## Where the block goes -/

variable {L : Language} {c : List Char}

theorem inject_of_openTag_newline {tag : String} (htag : L.profile.openTag = some tag)
    {rest : List Char} (htrim : trimStart c = tag.toList ++ '\n' :: rest) :
    inject L c = leadingBlanks c ++ tag.toList ++ '\n' :: (L.profile.deadCode.toList ++ rest) := by
  have hpre : tag.toList.isPrefixOf (trimStart c) = true := by
    simp [htrim, List.isPrefixOf_iff_prefix]
  have hdrop : (trimStart c).drop tag.length = '\n' :: rest := by
    simp [htrim, ← String.length_toList]
  simp [inject, htag, hpre, take_length_sub_trimStart, hdrop]

theorem inject_of_openTag {tag : String} (htag : L.profile.openTag = some tag) {rest : List Char}
    (htrim : trimStart c = tag.toList ++ rest) (hrest : rest.head? ≠ some '\n') :
    inject L c = leadingBlanks c ++ tag.toList ++ '\n' :: (L.profile.deadCode.toList ++ rest) := by
  have hpre : tag.toList.isPrefixOf (trimStart c) = true := by
    simp [htrim, List.isPrefixOf_iff_prefix]
  have hdrop : (trimStart c).drop tag.length = rest := by
    simp [htrim, ← String.length_toList]
  simp only [inject, htag, hpre, if_true, take_length_sub_trimStart, hdrop]
  cases rest with
  | nil => simp
  | cons x r =>
      have hx : x ≠ '\n' := fun h => hrest (by simp [h])
      simp [hx]

theorem inject_of_no_openTag
    (h : ∀ tag, L.profile.openTag = some tag → ¬ tag.toList <+: trimStart c) :
    inject L c = L.profile.deadCode.toList ++ c := by
  cases htag : L.profile.openTag with
  | none => simp [inject, htag]
  | some tag =>
      have hpre : tag.toList.isPrefixOf (trimStart c) = false :=
        Bool.eq_false_iff.mpr fun h' => h tag htag (List.isPrefixOf_iff_prefix.mp h')
      simp [inject, htag, hpre]

theorem php_openTag {tag : String} (h : Language.php.profile.openTag = some tag) :
    tag = "<?php" := by
  simpa [Language.profile] using h.symm

theorem inCode_block (lead post : List Char) :
    ∀ i < braceDeadCode.length,
      InCode (lead ++ "<?php".toList ++ '\n' :: (braceDeadCode.toList ++ post))
        ((lead ++ "<?php".toList ++ ['\n']).length + i) := by
  intro i hi
  have hmid : '?' ∉ '\n' :: braceDeadCode.toList := by decide
  have hhead : ∀ x ∈ ('\n' :: braceDeadCode.toList).head?, isBlank x = true := by
    simp [isBlank]
  have hi' : i + 1 < ('\n' :: braceDeadCode.toList).length := by
    rw [List.length_cons, String.length_toList]
    omega
  have hcode := inCode_after_tag lead post hmid hhead (i + 1) hi'
  -- the block's `i`-th character is the `i + 1`-th after the tag, the line break coming first
  have hpos : (lead ++ "<?php".toList ++ ['\n']).length + i = lead.length + 5 + (i + 1) := by
    simp only [List.length_append, List.length_singleton]
    have h5 : ("<?php".toList).length = 5 := rfl
    omega
  rw [hpos]
  simpa using hcode

theorem inject_php_untagged (h : ¬ "<?php".toList <+: trimStart c) :
    inject .php c = braceDeadCode.toList ++ c ∧
      ∀ i < braceDeadCode.length, ¬ InCode (inject .php c) i := by
  have hinject : inject .php c = braceDeadCode.toList ++ c := by
    apply inject_of_no_openTag
    intro tag htag
    rw [php_openTag htag]
    exact h
  refine ⟨hinject, ?_⟩
  intro i hi
  rw [hinject]
  exact not_inCode_of_not_mem (by decide) i (by rwa [String.length_toList])

/-! ## The block is code, and the text is kept -/

/-- The decoy block stands in the output, and taking it out gives the text back, with one line
break added after a leading open tag that had none. In PHP, every character of the block is code
exactly when the text opens with the tag `<?php` after blanks. -/
theorem injecting_keeps_code_and_text (L : Language) (c : List Char) :
    ∃ pre post, inject L c = pre ++ L.profile.deadCode.toList ++ post ∧
      (pre ++ post = c ∨ ∃ tag rest, L.profile.openTag = some tag ∧
        c = leadingBlanks c ++ tag.toList ++ rest ∧ rest.head? ≠ some '\n' ∧
        pre ++ post = leadingBlanks c ++ tag.toList ++ '\n' :: rest) ∧
      (L = .php → ((∀ i < L.profile.deadCode.length, InCode (inject L c) (pre.length + i)) ↔
        "<?php".toList <+: trimStart c)) := by
  by_cases htagged : ∃ tag, L.profile.openTag = some tag ∧ tag.toList <+: trimStart c
  · obtain ⟨tag, htag, rest, htrim⟩ := htagged
    have hsplit : leadingBlanks c ++ tag.toList ++ rest = c := by
      rw [List.append_assoc, htrim, leadingBlanks_append_trimStart]
    -- the line break after the tag is the one the output has, or one added
    obtain ⟨post, hpost, hkept⟩ : ∃ post, inject L c =
        leadingBlanks c ++ tag.toList ++ '\n' :: (L.profile.deadCode.toList ++ post) ∧
        (leadingBlanks c ++ tag.toList ++ '\n' :: post = c ∨
          rest.head? ≠ some '\n' ∧ post = rest) := by
      by_cases hnl : rest.head? = some '\n'
      · obtain ⟨r, rfl⟩ : ∃ r, rest = '\n' :: r := by
          cases rest with
          | nil => cases hnl
          | cons x r =>
              have hx : x = '\n' := by simpa using hnl
              exact ⟨r, by rw [hx]⟩
        exact ⟨r, inject_of_openTag_newline htag htrim.symm, Or.inl hsplit⟩
      · exact ⟨rest, inject_of_openTag htag htrim.symm hnl, Or.inr ⟨hnl, rfl⟩⟩
    refine ⟨leadingBlanks c ++ tag.toList ++ ['\n'], post, by simp [hpost], ?_, ?_⟩
    · rcases hkept with hkept | ⟨hnl, rfl⟩
      · exact Or.inl (by simpa using hkept)
      · exact Or.inr ⟨tag, post, htag, hsplit.symm, hnl, by simp⟩
    · rintro rfl
      -- in PHP the tag is `<?php`, and the block after it is code
      obtain rfl := php_openTag htag
      refine ⟨fun _ => ⟨rest, htrim⟩, ?_⟩
      rintro - i hi
      rw [hpost]
      exact inCode_block (leadingBlanks c) post i hi
  · -- without the tag first the block goes in front, and PHP text does not open with it
    have hnone : ∀ tag, L.profile.openTag = some tag → ¬ tag.toList <+: trimStart c :=
      fun tag htag hpre => htagged ⟨tag, htag, hpre⟩
    refine ⟨[], c, by simp [inject_of_no_openTag hnone], Or.inl rfl, ?_⟩
    rintro rfl
    have hphp : ¬ "<?php".toList <+: trimStart c := hnone "<?php" rfl
    refine ⟨fun hall => absurd (hall 0 (by decide)) ?_, fun h => absurd h hphp⟩
    exact (inject_php_untagged hphp).2 0 (by decide)

theorem injecting_after_php_tag_keeps_code :
    Language.php = .php ∧ "<?php".toList <+: trimStart "<?php echo 1;".toList ∧
      ∃ pre post, inject .php "<?php echo 1;".toList =
          pre ++ Language.php.profile.deadCode.toList ++ post ∧
        (pre ++ post = "<?php echo 1;".toList ∨
          ∃ tag rest, Language.php.profile.openTag = some tag ∧
            "<?php echo 1;".toList = leadingBlanks "<?php echo 1;".toList ++ tag.toList ++ rest ∧
            rest.head? ≠ some '\n' ∧
            pre ++ post = leadingBlanks "<?php echo 1;".toList ++ tag.toList ++ '\n' :: rest) ∧
        (Language.php = .php →
          ((∀ i < Language.php.profile.deadCode.length,
              InCode (inject .php "<?php echo 1;".toList) (pre.length + i)) ↔
            "<?php".toList <+: trimStart "<?php echo 1;".toList)) :=
  ⟨rfl, ⟨" echo 1;".toList, by decide⟩, injecting_keeps_code_and_text .php _⟩

/-- PHP text with markup before its open tag, or with its tag in upper case, gets the block in
front, where none of it is code. -/
theorem injecting_prints_block_before_unrecognised_tags :
    ("<?php".toList <:+: "<p>hi</p>\n<?php echo 1;".toList ∧
        inject .php "<p>hi</p>\n<?php echo 1;".toList =
          braceDeadCode.toList ++ "<p>hi</p>\n<?php echo 1;".toList ∧
        ∀ i < braceDeadCode.length,
          ¬ InCode (inject .php "<p>hi</p>\n<?php echo 1;".toList) i) ∧
      ("<?PHP".toList <:+: "<?PHP echo 1;".toList ∧
        inject .php "<?PHP echo 1;".toList = braceDeadCode.toList ++ "<?PHP echo 1;".toList ∧
        ∀ i < braceDeadCode.length, ¬ InCode (inject .php "<?PHP echo 1;".toList) i) :=
  ⟨⟨⟨"<p>hi</p>\n".toList, " echo 1;".toList, by decide⟩, inject_php_untagged (by decide)⟩,
    ⟨⟨[], " echo 1;".toList, by decide⟩, inject_php_untagged (by decide)⟩⟩

end DeadCode
end Obfuscator
