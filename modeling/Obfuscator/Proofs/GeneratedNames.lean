import Obfuscator.Passes
import Obfuscator.Proofs.CodePositions
/-!
# Generated names and the table of names

A generated name is a language's rename prefix and four lowercase hexadecimal digits. This
module proves what renaming relies on of such names: they are words, they never carry an
interpolation prefix, and `freshName` only returns one that is neither generated yet nor a whole
word of the text it was asked about. It also gives the table of names its lookup laws: inserting
an identifier that has no name yet gives it the new name and leaves every other lookup alone.
-/

namespace Obfuscator

open Text Lexer

/-! ## The shape of a generated name -/

def isLowerHexDigit (c : Char) : Bool := c.isDigit || ('a' ≤ c && c ≤ 'f')

/-- A name of the shape renaming generates with prefix `namePrefix`: the prefix and four lowercase
hexadecimal digits. -/
def IsGeneratedName (namePrefix name : String) : Prop :=
  ∃ digits : List Char, name.toList = namePrefix.toList ++ digits ∧ digits.length = 4 ∧
    ∀ c ∈ digits, isLowerHexDigit c = true

def isGeneratedShape (namePrefix name : String) : Bool :=
  namePrefix.toList.isPrefixOf name.toList &&
    (name.toList.drop namePrefix.toList.length).length == 4 &&
    (name.toList.drop namePrefix.toList.length).all isLowerHexDigit

theorem isGeneratedName_iff {namePrefix name : String} :
    IsGeneratedName namePrefix name ↔ isGeneratedShape namePrefix name = true := by
  simp only [isGeneratedShape, Bool.and_eq_true, beq_iff_eq, List.all_eq_true,
    List.isPrefixOf_iff_prefix]
  constructor
  · rintro ⟨digits, hname, hlen, hhex⟩
    rw [hname, List.drop_left]
    exact ⟨⟨List.prefix_append _ _, hlen⟩, hhex⟩
  · rintro ⟨⟨hpre, hlen⟩, hhex⟩
    obtain ⟨digits, hdigits⟩ := hpre
    rw [← hdigits, List.drop_left] at hlen hhex
    exact ⟨digits, hdigits.symm, hlen, hhex⟩

instance (namePrefix name : String) : Decidable (IsGeneratedName namePrefix name) :=
  decidable_of_iff _ isGeneratedName_iff.symm

theorem isLowerHexDigit_digitChar : ∀ d < 16, isLowerHexDigit (Nat.digitChar d) = true := by
  decide

theorem isLowerHexDigit_of_mem_toDigits {c : Char} :
    ∀ {n : Nat}, c ∈ Nat.toDigits 16 n → isLowerHexDigit c = true
  | n, h => by
      rw [Nat.toDigits_eq_if (by decide)] at h
      split at h
      · rename_i hn
        rw [List.mem_singleton.mp h]
        exact isLowerHexDigit_digitChar n hn
      · rename_i hn
        rcases List.mem_append.mp h with h | h
        · exact isLowerHexDigit_of_mem_toDigits h
        · rw [List.mem_singleton.mp h]
          exact isLowerHexDigit_digitChar _ (Nat.mod_lt n (by decide))
termination_by n => n
decreasing_by exact Nat.div_lt_self (by omega) (by decide)

theorem isAlphanum_of_isLowerHexDigit {c : Char} (h : isLowerHexDigit c = true) :
    c.isAlphanum = true := by
  simp only [isLowerHexDigit, Bool.or_eq_true, Bool.and_eq_true, decide_eq_true_eq] at h
  rcases h with h | ⟨ha, hf⟩
  · simp [Char.isAlphanum, h]
  · have hz : c ≤ 'z' := Char.le_trans hf (by decide)
    have hlow : (97 : UInt32) ≤ c.val ∧ c.val ≤ 122 := ⟨ha, hz⟩
    simp [Char.isAlphanum, Char.isAlpha, Char.isLower, hlow]

theorem toList_hex4 (x : UInt16) :
    (Rename.hex4 x).toList =
      List.replicate (4 - (hexDigits x.toNat).length) '0' ++ hexDigits x.toNat := by
  simp [Rename.hex4, String.toList_ofList]

theorem isGeneratedName_hex4 (namePrefix : String) (x : UInt16) :
    IsGeneratedName namePrefix (namePrefix ++ Rename.hex4 x) := by
  have hlen : (hexDigits x.toNat).length ≤ 4 :=
    (Nat.length_toDigits_le_iff (by decide) (by decide)).mpr (by simpa using x.toNat_lt)
  refine ⟨(Rename.hex4 x).toList, String.toList_append, ?_, ?_⟩
  · rw [toList_hex4, List.length_append, List.length_replicate]
    omega
  · intro c hc
    rw [toList_hex4] at hc
    rcases List.mem_append.mp hc with hc | hc
    · rw [(List.mem_replicate.mp hc).2]
      rfl
    · exact isLowerHexDigit_of_mem_toDigits hc

theorem isWordChar_renamePrefix (L : Language) :
    ∀ c ∈ L.profile.renamePrefix.toList, isWordChar c = true := by
  have hall : L.profile.renamePrefix.toList.all isWordChar = true := by
    cases L <;> decide
  exact List.all_eq_true.mp hall

theorem IsGeneratedName.isWord {L : Language} {name : String}
    (h : IsGeneratedName L.profile.renamePrefix name) : IsWord name.toList := by
  obtain ⟨digits, hname, hlen, hhex⟩ := h
  rw [hname]
  refine ⟨by simp [← List.length_pos_iff, hlen], ?_⟩
  intro c hc
  rcases List.mem_append.mp hc with hc | hc
  · exact isWordChar_renamePrefix L c hc
  · exact isWordChar_of_isAlphanum (isAlphanum_of_isLowerHexDigit (hhex c hc))

theorem hasInterpolationPrefix_alphanum (marker : Char) {a b c : Char} (rest : List Char)
    (hb : b.isAlphanum = true) (hc : c.isAlphanum = true) :
    hasInterpolationPrefix marker (a :: b :: c :: rest) = false := by
  cases ha : a.isAlpha <;> cases hb' : b.isAlpha <;> cases hc' : c.isAlpha <;>
    simp [hasInterpolationPrefix, ha, hb', hc', hb, hc]

theorem IsGeneratedName.marksInterpolation {namePrefix name : String} (m : Option Char)
    (h : IsGeneratedName namePrefix name) : marksInterpolation m name.toList = false := by
  obtain ⟨digits, hname, hlen, hhex⟩ := h
  match m, digits, hlen, hhex with
  | none, _, _, _ => rfl
  | some marker, [d₁, d₂, d₃, d₄], _, hhex =>
      have hd₂ := isAlphanum_of_isLowerHexDigit (hhex d₂ (by simp))
      have hd₃ := isAlphanum_of_isLowerHexDigit (hhex d₃ (by simp))
      simp only [Text.marksInterpolation, hname, List.reverse_append]
      exact hasInterpolationPrefix_alphanum marker _ hd₃ hd₂

/-! ## The table of names -/

namespace RenameMap

theorem find?_insertSorted {e : String × String} {xs : List (String × String)}
    {p : String × String → Bool} (hunique : p e = true → ∀ x ∈ xs, p x = false) :
    (insertSorted e xs).find? p = if p e then some e else xs.find? p := by
  induction xs with
  | nil =>
      simp only [insertSorted, List.find?_cons, List.find?_nil]
      cases p e <;> rfl
  | cons x xs ih =>
      simp only [insertSorted]
      split
      · simp only [List.find?_cons]
        cases p e <;> rfl
      · have ih' := ih fun he y hy => hunique he y (List.mem_cons_of_mem x hy)
        cases hx : p x with
        | true =>
            have he : p e = false := by
              cases hpe : p e with
              | false => rfl
              | true =>
                  have := hunique hpe x List.mem_cons_self
                  rw [hx] at this
                  cases this
            simp [hx, he]
        | false =>
            simp [hx, ih']

theorem any_insertSorted (e : String × String) (p : String × String → Bool) :
    ∀ xs, (insertSorted e xs).any p = (p e || xs.any p)
  | [] => by simp [insertSorted]
  | x :: xs => by
      simp only [insertSorted]
      split
      · rfl
      · simp only [List.any_cons, any_insertSorted e p xs]
        cases p e <;> cases p x <;> rfl

@[simp] theorem get?_empty (k : String) : ({} : RenameMap).get? k = none := rfl

theorem get?_insert {m : RenameMap} {k : String} (hk : m.get? k = none) (g k' : String) :
    (m.insert k g).get? k' = if k' = k then some g else m.get? k' := by
  have hnone : ∀ x ∈ m.entries, (x.1 == k) = false := by
    intro x hx
    simp only [get?, Option.map_eq_none_iff, List.find?_eq_none] at hk
    simpa using hk x hx
  by_cases hkk : k' = k
  · subst hkk
    simp only [get?, insert]
    rw [find?_insertSorted fun _ => hnone]
    simp
  · have hne : ((k, g).1 == k') = false := by simpa using Ne.symm hkk
    simp only [get?, insert, if_neg hkk]
    rw [find?_insertSorted (fun h => by rw [hne] at h; cases h), hne]
    rfl

theorem isGenerated_insert (m : RenameMap) (k g name : String) :
    (m.insert k g).isGenerated name = ((g == name) || m.isGenerated name) := by
  simp [isGenerated, insert, any_insertSorted]

theorem get?_ne_of_isGenerated {m : RenameMap} {g : String} (h : m.isGenerated g = false)
    (k : String) : m.get? k ≠ some g := by
  intro hk
  simp only [get?, Option.map_eq_some_iff] at hk
  obtain ⟨e, he, rfl⟩ := hk
  have hmem := List.mem_of_find?_eq_some he
  have : m.isGenerated e.2 = true := List.any_eq_true.mpr ⟨e, hmem, by simp⟩
  rw [h] at this
  cases this

end RenameMap

/-! ## Drawing a fresh name -/

namespace Rename

theorem freshName_spec {namePrefix : String} {src : Source} {m : RenameMap} :
    ∀ {budget : Nat} {d d' : Draws} {name : String},
      freshName namePrefix src m budget d = some (name, d') →
      m.isGenerated name = false ∧ src.containsWord name.toList = false ∧
        ∃ x : UInt16, name = namePrefix ++ hex4 x
  | 0, _, _, _, h => by cases h
  | budget + 1, d, d', name, h => by
      simp only [freshName] at h
      split at h
      · exact freshName_spec h
      · rename_i hfresh
        simp only [Option.some.injEq, Prod.mk.injEq] at h
        obtain ⟨rfl, -⟩ := h
        simp only [Bool.or_eq_true, not_or, Bool.not_eq_true] at hfresh
        exact ⟨hfresh.1, hfresh.2, _, rfl⟩

end Rename
end Obfuscator
