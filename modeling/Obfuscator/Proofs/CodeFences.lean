import Mathlib
import Obfuscator.Proofs.Serving
/-!
# Code fences

A rewriting service often answers with its code inside a fenced block: a line that opens with
three backticks and an info string, the code, and a closing fence. Stripping the fences trims
the reply, drops the opening line, takes the closing fence off the end and trims line breaks
off what lies between; a reply that is not such a block is only trimmed.

Main statements: stripping undoes fencing, whatever blanks surround the block, for every body
that does not end in a line break (`fencing_is_undone_by_stripping`); and the transformer
refuses a reply of the service exactly when it strips to nothing
(`serving_refuses_replies_that_strip_to_nothing`). Only a trimmed text is tested for being
empty, so a fenced block of blanks passes as code while an unfenced blank reply is refused.
-/

namespace Obfuscator
namespace Text

theorem trimStart_blanks_append {w cs : List Char} (hw : ∀ c ∈ w, isBlank c = true)
    (hcs : ∀ c ∈ cs.head?, isBlank c = false) : trimStart (w ++ cs) = cs := by
  rw [trimStart, List.dropWhile_append_of_pos hw]
  cases cs with
  | nil => rfl
  | cons c cs =>
      have hc : isBlank c = false := hcs c rfl
      simp [hc]

theorem trimEnd_eq_reverse (cs : List Char) : trimEnd cs = (trimStart cs.reverse).reverse := rfl

theorem trimEnd_append_blanks {cs w : List Char} (hw : ∀ c ∈ w, isBlank c = true)
    (hcs : ∀ c ∈ cs.getLast?, isBlank c = false) : trimEnd (cs ++ w) = cs := by
  have hw' : ∀ c ∈ w.reverse, isBlank c = true := by simpa using hw
  have hcs' : ∀ c ∈ cs.reverse.head?, isBlank c = false := by simpa using hcs
  rw [trimEnd_eq_reverse, List.reverse_append, trimStart_blanks_append hw' hcs',
    List.reverse_reverse]

theorem trim_blanks_around {w₁ core w₂ : List Char} (hw₁ : ∀ c ∈ w₁, isBlank c = true)
    (hw₂ : ∀ c ∈ w₂, isBlank c = true) (hne : core ≠ [])
    (hhead : ∀ c ∈ core.head?, isBlank c = false)
    (hlast : ∀ c ∈ core.getLast?, isBlank c = false) : trim (w₁ ++ core ++ w₂) = core := by
  have hhead' : ∀ c ∈ (core ++ w₂).head?, isBlank c = false := by
    simpa [List.head?_append_of_ne_nil _ hne] using hhead
  rw [trim, List.append_assoc, trimStart_blanks_append hw₁ hhead',
    trimEnd_append_blanks hw₂ hlast]

theorem isBlankText_trim_iff {cs : List Char} : isBlankText (trim cs) = true ↔ trim cs = [] := by
  constructor
  · intro hblank
    by_contra hne
    -- the last character of a trimmed text is never a blank
    have hlast := List.rdropWhile_last_not isBlank (trimStart cs) hne
    have hmem : (trim cs).getLast hne ∈ trim cs := List.getLast_mem hne
    exact hlast (List.all_eq_true.mp hblank _ hmem)
  · intro h
    rw [h]
    rfl

end Text

namespace Delegate

open Text

@[simp] theorem isBlank_backtick : isBlank '`' = false := by decide

theorem toList_fence : ("```" : String).toList = fence := rfl

theorem toList_closingFence : ("\n```" : String).toList = '\n' :: fence := rfl

theorem dropWhile_to_newline {info rest : List Char} (hinfo : '\n' ∉ info) :
    (info ++ '\n' :: rest).dropWhile (· != '\n') = '\n' :: rest := by
  have hinside : ∀ c ∈ info, (c != '\n') = true := by
    intro c hc
    have hne : c ≠ '\n' := fun h => hinfo (h ▸ hc)
    simpa using hne
  rw [List.dropWhile_append_of_pos hinside]
  simp

theorem stripCodeFences_block {text : String} {info inner : List Char} (hinfo : '\n' ∉ info)
    (htrim : trim text.toList = fence ++ info ++ '\n' :: (inner ++ fence)) :
    stripCodeFences text =
      String.ofList (inner.reverse.dropWhile fun c => c == '\n' || c == '\r').reverse := by
  have hopen : fence.isPrefixOf (fence ++ info ++ '\n' :: (inner ++ fence)) = true := by
    simp [List.isPrefixOf_iff_prefix, List.append_assoc]
  have hdrop : (fence ++ info ++ '\n' :: (inner ++ fence)).drop 3 =
      info ++ '\n' :: (inner ++ fence) := by
    simp [fence]
  have hlast : ∀ c ∈ (inner ++ fence).getLast?, isBlank c = false := by
    simp [fence]
  have hbody : trimEnd (inner ++ fence) = inner ++ fence := by
    simpa using trimEnd_append_blanks (w := []) (by simp) hlast
  have hclose : fence.reverse.isPrefixOf (inner ++ fence).reverse = true := by
    simp [List.isPrefixOf_iff_prefix]
  have hinner : (inner ++ fence).take ((inner ++ fence).length - 3) = inner := by
    simp [fence]
  simp only [stripCodeFences, htrim, hopen, hdrop, dropWhile_to_newline hinfo, hbody, hclose,
    hinner, if_true]

theorem rdropWhile_lineBreak_newline {body : List Char}
    (hbody : ∀ c ∈ body.getLast?, c ≠ '\n' ∧ c ≠ '\r') :
    ((body ++ ['\n']).reverse.dropWhile fun c => c == '\n' || c == '\r').reverse = body := by
  change List.rdropWhile _ (body ++ ['\n']) = body
  rw [List.rdropWhile_concat_pos _ _ _ (by decide), List.rdropWhile_eq_self_iff]
  intro hne
  have hlast := hbody (body.getLast hne) (List.getLast?_eq_some_getLast hne ▸ rfl)
  simpa using hlast

/-- Stripping the fences of a fenced block, with blanks around it, gives back its body. -/
theorem fencing_is_undone_by_stripping (info body w₁ w₂ : String) (hinfo : '\n' ∉ info.toList)
    (hbody : ∀ c ∈ body.toList.getLast?, c ≠ '\n' ∧ c ≠ '\r')
    (hw₁ : ∀ c ∈ w₁.toList, isBlank c = true) (hw₂ : ∀ c ∈ w₂.toList, isBlank c = true) :
    stripCodeFences (w₁ ++ "```" ++ info ++ "\n" ++ body ++ "\n```" ++ w₂) = body := by
  have htext : (w₁ ++ "```" ++ info ++ "\n" ++ body ++ "\n```" ++ w₂).toList =
      w₁.toList ++ (fence ++ info.toList ++ '\n' :: ((body.toList ++ ['\n']) ++ fence)) ++
        w₂.toList := by
    simp [String.toList_append, toList_fence, toList_closingFence]
  have htrim : trim (w₁ ++ "```" ++ info ++ "\n" ++ body ++ "\n```" ++ w₂).toList =
      fence ++ info.toList ++ '\n' :: ((body.toList ++ ['\n']) ++ fence) := by
    rw [htext]
    -- the block opens and closes with a backtick, so trimming stops at its fences
    apply trim_blanks_around hw₁ hw₂ <;> simp [fence, List.getLast?_cons, List.getLast?_append]
  rw [stripCodeFences_block hinfo htrim, rdropWhile_lineBreak_newline hbody, String.ofList_toList]

theorem fencing_block_with_fence_line_is_undone :
    '\n' ∉ ("js" : String).toList ∧
      (∀ c ∈ (" x()\n```\ny()" : String).toList.getLast?, c ≠ '\n' ∧ c ≠ '\r') ∧
      (∀ c ∈ ("\n " : String).toList, isBlank c = true) ∧
      (∀ c ∈ ("\t\n" : String).toList, isBlank c = true) ∧
      stripCodeFences ("\n " ++ "```" ++ "js" ++ "\n" ++ " x()\n```\ny()" ++ "\n```" ++ "\t\n") =
        " x()\n```\ny()" := by
  have hinfo : '\n' ∉ ("js" : String).toList := by decide
  have hbody : ∀ c ∈ (" x()\n```\ny()" : String).toList.getLast?, c ≠ '\n' ∧ c ≠ '\r' := by
    simp
  have hw₁ : ∀ c ∈ ("\n " : String).toList, isBlank c = true := by simp [isBlank]
  have hw₂ : ∀ c ∈ ("\t\n" : String).toList, isBlank c = true := by simp [isBlank]
  exact ⟨hinfo, hbody, hw₁, hw₂, fencing_is_undone_by_stripping _ _ _ _ hinfo hbody hw₁ hw₂⟩

theorem stripCodeFences_unfenced {text : String} (h : ¬ fence <+: trim text.toList) :
    stripCodeFences text = String.ofList (trim text.toList) := by
  have hopen : fence.isPrefixOf (trim text.toList) = false :=
    Bool.eq_false_iff.mpr fun h' => h (List.isPrefixOf_iff_prefix.mp h')
  simp only [stripCodeFences, hopen]
  rfl

theorem fence_prefix_of_stripped_blank {raw : String}
    (hblank : isBlankText (stripCodeFences raw).toList = true) (hne : stripCodeFences raw ≠ "") :
    fence <+: trim raw.toList := by
  by_contra hopen
  rw [stripCodeFences_unfenced hopen, String.toList_ofList] at hblank
  rw [stripCodeFences_unfenced hopen, isBlankText_trim_iff.mp hblank] at hne
  exact hne rfl

end Delegate

namespace Transformer

open Delegate Text

/-- The transformer refuses a reply of the service exactly when it strips to nothing, and
otherwise returns the stripped reply; a reply that strips to blanks only is a fenced block. -/
theorem serving_refuses_replies_that_strip_to_nothing (t : Transformer)
    (service : RewritingService) (route : Route) (hroute : route ≠ .localOnly) (code : String)
    (settings : Settings) (k raw : String) (hk : k.toList.any (fun c => !isBlank c) = true)
    (hraw : service { code, settings, credential := k } = .ok raw) :
    (t.serve service route code settings (some k)).map (·.result) =
        some (if stripCodeFences raw = "" then .error (.delegated .emptyResponse)
          else .ok (Outcome.ofDelegated settings.language (stripCodeFences raw))) ∧
      (isBlankText (stripCodeFences raw).toList = true → stripCodeFences raw ≠ "" →
        fence <+: trim raw.toList) := by
  refine ⟨?_, fence_prefix_of_stripped_blank⟩
  have hserve : t.serve service route code settings (some k) =
      some (t.serveRemotely service code settings k) := by
    -- a credential with a character that is not blank selects the service on either route
    cases route with
    | localOnly => exact absurd rfl hroute
    | byCredential | serviceOnly => simp [serve, Mode.select_some, hk]
  rw [hserve]
  by_cases hempty : stripCodeFences raw = ""
  · simp [serveRemotely, hraw, hempty, Except.bind]
  · have hne : (stripCodeFences raw).isEmpty = false := by
      simpa [String.isEmpty_iff] using hempty
    simp [serveRemotely, hraw, hempty, hne, Except.bind]

theorem serving_refuses_blank_reply :
    Route.byCredential ≠ .localOnly ∧ ("k" : String).toList.any (fun c => !isBlank c) = true ∧
      (fun _ => .ok " \n " : RewritingService)
          { code := "run();", settings := {}, credential := "k" } = .ok " \n " ∧
      ((({} : Transformer).serve (fun _ => .ok " \n ") .byCredential "run();" {}
          (some "k")).map (·.result) =
        some (if stripCodeFences " \n " = "" then .error (.delegated .emptyResponse)
          else .ok (Outcome.ofDelegated ({} : Settings).language (stripCodeFences " \n "))) ∧
      (isBlankText (stripCodeFences " \n ").toList = true → stripCodeFences " \n " ≠ "" →
        fence <+: trim (" \n " : String).toList)) := by
  have hk : ("k" : String).toList.any (fun c => !isBlank c) = true := by decide
  exact ⟨by decide, hk, rfl,
    serving_refuses_replies_that_strip_to_nothing {} _ .byCredential (by decide) "run();" {} "k"
      " \n " hk rfl⟩

/-- A fenced reply whose inside is a blank passes as code: the transformer returns the blank. -/
theorem serving_passes_fenced_blanks :
    (({} : Transformer).serve (fun _ => .ok "```\n \n```") .byCredential "run();" {}
        (some "k")).map (·.result) = some (.ok (Outcome.ofDelegated .javaScript " ")) ∧
      isBlankText (" " : String).toList = true := by
  decide

end Transformer
end Obfuscator
