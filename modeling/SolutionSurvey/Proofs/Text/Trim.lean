import SolutionSurvey.Text.Wording
import Mathlib.Data.List.Basic
import Mathlib.Data.List.TakeWhile

/-!
# Blanks at the ends of a text

A text without blanks at its ends is what a trim leaves, and what is left does not depend on blanks that are
put around a text.

## Main definitions

* `Text.IsTrimmed` — no blank stands at either end.
* `Text.trimChars_of_isTrimmed`, `Text.isTrimmed_trimChars` — these are the texts that a trim leaves.
* `Text.trimChars_pad` — blanks around a text do not matter to it.
* `Wording.IsTrimmed` — the same for a text with halves.
-/

namespace SolutionSurvey

namespace Text

/-- No blank stands at either end of a text. -/
structure IsTrimmed (cs : List Char) : Prop where
  head : ∀ c ∈ cs.head?, isBlank c = false
  last : ∀ c ∈ cs.getLast?, isBlank c = false

theorem dropWhile_of_head {cs : List Char} (h : ∀ c ∈ cs.head?, isBlank c = false) :
    cs.dropWhile isBlank = cs := by
  cases cs with
  | nil => rfl
  | cons c rest => rw [List.dropWhile_cons_of_neg (by simp [h c rfl])]

theorem trimRight_of_last {cs : List Char} (h : ∀ c ∈ cs.getLast?, isBlank c = false) : trimRight cs = cs := by
  have hlast : ∀ c ∈ cs.reverse.head?, isBlank c = false := by
    rw [List.head?_reverse]
    exact h
  rw [trimRight, dropWhile_of_head hlast, List.reverse_reverse]

theorem trimChars_of_isTrimmed {cs : List Char} (h : IsTrimmed cs) : trimChars cs = cs := by
  rw [trimChars, trimLeft, dropWhile_of_head h.head, trimRight_of_last h.last]

theorem head_dropWhile (cs : List Char) : ∀ c ∈ (cs.dropWhile isBlank).head?, isBlank c = false := by
  intro c hc
  have hhead := List.head?_dropWhile_not isBlank cs
  rw [Option.mem_def] at hc
  simpa [hc] using hhead

theorem last_trimRight (cs : List Char) : ∀ c ∈ (trimRight cs).getLast?, isBlank c = false := by
  rw [trimRight, List.getLast?_reverse]
  exact head_dropWhile cs.reverse

theorem isTrimmed_trimChars (cs : List Char) : IsTrimmed (trimChars cs) := by
  refine ⟨?_, last_trimRight (trimLeft cs)⟩
  -- The first character is that of the text without the blanks it starts with.
  obtain ⟨gone, hgone⟩ := List.dropWhile_suffix (l := (trimLeft cs).reverse) isBlank
  have hprefix : trimLeft cs = trimChars cs ++ gone.reverse := by
    rw [trimChars, trimRight, ← List.reverse_append, hgone, List.reverse_reverse]
  intro c hc
  refine head_dropWhile cs c ?_
  have hleft : cs.dropWhile isBlank = trimChars cs ++ gone.reverse := hprefix
  rw [hleft, List.head?_append]
  simp only [Option.mem_def] at hc
  simp [hc]

theorem trimChars_pad {lead trail : List Char} (hlead : ∀ c ∈ lead, isBlank c) (htrail : ∀ c ∈ trail, isBlank c)
    (cs : List Char) : trimChars (lead ++ cs ++ trail) = trimChars cs := by
  have hleft : trimLeft (lead ++ cs ++ trail) = trimLeft (cs ++ trail) := by
    rw [trimLeft, trimLeft, List.append_assoc, List.dropWhile_append_of_pos hlead]
  rw [trimChars, trimChars, hleft]
  by_cases hblank : ∀ c ∈ cs, isBlank c
  · have hall : ∀ c ∈ cs ++ trail, isBlank c := List.forall_mem_append.mpr ⟨hblank, htrail⟩
    rw [trimLeft, trimLeft, List.dropWhile_eq_nil_iff.mpr hall, List.dropWhile_eq_nil_iff.mpr hblank]
  · have hne : cs.dropWhile isBlank ≠ [] := fun hnil => hblank (List.dropWhile_eq_nil_iff.mp hnil)
    have hkeep : trimLeft (cs ++ trail) = trimLeft cs ++ trail := by
      rw [trimLeft, trimLeft, List.dropWhile_append, if_neg (by simpa using hne)]
    have htrail' : ∀ c ∈ trail.reverse, isBlank c := fun c hc => htrail c (List.mem_reverse.mp hc)
    rw [hkeep, trimRight, trimRight, List.reverse_append, List.dropWhile_append_of_pos htrail']

theorem trim_trim (s : String) : trim (trim s) = trim s := by
  rw [trim, trim, String.toList_ofList, trimChars_of_isTrimmed (isTrimmed_trimChars s.toList)]

theorem isBlankText_trim {s : String} (h : isBlankText s = false) : isBlankText (trim s) = false := by
  rw [← trim_ne_empty_iff, trim_trim]
  exact trim_ne_empty_iff.mpr h

/-- A text stays without blanks at its ends when other text without blanks takes the place of some of it. -/
theorem IsTrimmed.replace {lead inner trail other : List Char} (h : IsTrimmed (lead ++ inner ++ trail))
    (hne : other ≠ []) (hother : ∀ c ∈ other, isBlank c = false) : IsTrimmed (lead ++ other ++ trail) := by
  obtain ⟨hhead, hlast⟩ := h
  obtain ⟨d, others, rfl⟩ := List.exists_cons_of_ne_nil hne
  refine ⟨fun c hc => ?_, fun c hc => ?_⟩
  · cases lead with
    | nil => exact hother c (by simp_all)
    | cons e lead => exact hhead c (by simpa using hc)
  · rcases List.eq_nil_or_concat' trail with rfl | ⟨trail, e, rfl⟩
    · have hend : (lead ++ d :: others ++ []).getLast? = (d :: others).getLast? := by
        rw [List.append_nil, List.getLast?_append, List.getLast?_cons, Option.some_or]
      rw [hend] at hc
      exact hother c (List.mem_of_getLast? hc)
    · rw [← List.append_assoc, List.getLast?_concat] at hc hlast
      exact hlast c hc

/-- A text stays without blanks at its ends when another character comes in front. -/
theorem IsTrimmed.cons {c : Char} {cs : List Char} (h : IsTrimmed cs) (hc : isBlank c = false) :
    IsTrimmed (c :: cs) where
  head := by simpa using hc
  last := by
    intro d hd
    rw [List.getLast?_cons, Option.mem_some_iff] at hd
    cases hlast : cs.getLast? with
    | none =>
        rw [hlast, Option.getD_none] at hd
        exact hd ▸ hc
    | some e =>
        rw [hlast, Option.getD_some] at hd
        exact hd ▸ h.last e hlast

theorem trimChars_isInfix (cs : List Char) : trimChars cs <:+: cs := by
  have hleft : trimLeft cs <:+ cs := List.dropWhile_suffix isBlank
  have hright : trimChars cs <+: trimLeft cs := by
    have hback := List.dropWhile_suffix (l := (trimLeft cs).reverse) isBlank
    simpa [trimChars, trimRight] using List.reverse_prefix.mpr hback
  exact hright.isInfix.trans hleft.isInfix

/-- No digit is blank. -/
theorem isBlank_of_isDigit {c : Char} (h : c.isDigit) : isBlank c = false := by
  have hrange := Char.isDigit_iff_toNat.mp h
  have hzero : '0'.toNat = 48 := rfl
  have hnine : '9'.toNat = 57 := rfl
  rw [← Bool.not_eq_true]
  simp only [isBlank, Bool.or_eq_true, Bool.and_eq_true, decide_eq_true_eq, beq_iff_eq]
  omega

end Text

/-! ## Texts with halves -/

namespace Wording

/-- The characters that a text ends with. -/
def lastRun : Wording → String
  | .plain s => s
  | .broken _ _ rest => rest.lastRun

/-- No blank stands at either end of a text. -/
structure IsTrimmed (w : Wording) : Prop where
  head : ∀ c ∈ w.firstRun.toList.head?, Text.isBlank c = false
  last : ∀ c ∈ w.lastRun.toList.getLast?, Text.isBlank c = false

theorem trimmedEnd_of_last {w : Wording} (h : ∀ c ∈ w.lastRun.toList.getLast?, Text.isBlank c = false) :
    w.trimmedEnd = w := by
  induction w with
  | plain s =>
      have hright : Text.trimRight s.toList = s.toList := Text.trimRight_of_last h
      rw [trimmedEnd, hright, String.ofList_toList]
  | broken head half rest ih => rw [trimmedEnd, ih h]

theorem last_trimmedEnd (w : Wording) : ∀ c ∈ w.trimmedEnd.lastRun.toList.getLast?, Text.isBlank c = false := by
  induction w with
  | plain s =>
      rw [trimmedEnd, lastRun, String.toList_ofList]
      exact Text.last_trimRight s.toList
  | broken head half rest ih => exact ih

/-- A text without blanks at its ends has none to lose. -/
theorem trimmed_of_isTrimmed {w : Wording} (h : IsTrimmed w) : w.trimmed = w := by
  cases w with
  | plain s =>
      have hchars : Text.trimChars s.toList = s.toList := Text.trimChars_of_isTrimmed ⟨h.head, h.last⟩
      rw [trimmed, Text.trim, hchars, String.ofList_toList]
  | broken head half rest =>
      have hleft : Text.trimLeft head.toList = head.toList := Text.dropWhile_of_head h.head
      have hright : rest.trimmedEnd = rest := trimmedEnd_of_last h.last
      rw [trimmed, hleft, String.ofList_toList, hright]

theorem isTrimmed_trimmed (w : Wording) : IsTrimmed w.trimmed := by
  cases w with
  | plain s =>
      have hchars := Text.isTrimmed_trimChars s.toList
      refine ⟨?_, ?_⟩ <;> simp only [trimmed, firstRun, lastRun, Text.trim, String.toList_ofList]
      · exact hchars.head
      · exact hchars.last
  | broken head half rest =>
      refine ⟨?_, last_trimmedEnd rest⟩
      rw [trimmed, firstRun, String.toList_ofList]
      exact Text.head_dropWhile head.toList

/-- A text stays without blanks at its ends when another character comes in front. -/
theorem IsTrimmed.prepend {w : Wording} (h : IsTrimmed w) {c : Char} (hc : Text.isBlank c = false) :
    IsTrimmed (w.prepend (.singleton c)) := by
  have hfirst : (w.prepend (.singleton c)).firstRun.toList = c :: w.firstRun.toList := by
    cases w <;> simp [Wording.prepend, firstRun]
  refine ⟨by simpa [hfirst] using hc, ?_⟩
  cases w with
  | plain s =>
      have hchars : Text.IsTrimmed s.toList := ⟨h.head, h.last⟩
      have hlist : (String.singleton c ++ s).toList = c :: s.toList := by simp
      rw [Wording.prepend, lastRun, hlist]
      exact (hchars.cons hc).last
  | broken head half rest => exact h.last

end Wording

end SolutionSurvey
