import SolutionSurvey.Text.Casing
import Mathlib.Data.List.Basic
import Mathlib.Data.List.Forall2

/-!
# Endings in lower case

Lower case takes each character to one or more others, and to which ones may depend on its neighbours.
Still an ending of plain letters is there in lower case exactly if the text ends in these letters,
whatever their case: no character beyond ASCII has a plain letter in its lower-case form.

## Main definitions

* `IsPlain` — the ASCII characters that are the lower-case form of no other characters than ASCII ones.
* `IsLowered`, `lowerForms` — what a character may become in lower case.
* `isSuffixOf_lower` — the endings of plain letters in lower case.
-/

namespace SolutionSurvey.Text

/-- Whether a character is one of ASCII that no other character has in its lower-case form. The letters
`i` and `k` are left out: the dotted capital and the sign of Kelvin become them. -/
def IsPlain (c : Char) : Prop :=
  c.toNat ∉ [0, 0x69, 0x6B] ∧ c.toNat < 0x80

instance : DecidablePred IsPlain :=
  fun c => inferInstanceAs (Decidable (c.toNat ∉ [0, 0x69, 0x6B] ∧ c.toNat < 0x80))

/-- What a character may become in lower case, as far as plain characters go. -/
def IsLowered (c : Char) (image : List Char) : Prop :=
  if c.toNat < 0x80 then image = [c.toLower] else image ≠ [] ∧ ∀ d ∈ image, ¬ IsPlain d

/-! ## Single characters -/

/-- Capitals beyond ASCII have their small letters beyond ASCII too, but for the sign of Kelvin. -/
theorem lowerRuns_avoid : ∀ r ∈ lowerRuns.toList,
    r.last < 0x80 ∨ 0x80 ≤ r.first + r.offset ∨ (r.first = r.last ∧ r.first + r.offset = 0x6B) := by
  decide +kernel

theorem not_isPlain_ofNat {n : Nat} (h : 0x80 ≤ n ∨ n = 0x6B) : ¬ IsPlain (Char.ofNat n) := by
  rcases h with hlarge | rfl
  · by_cases hvalid : n.isValidChar
    · have hchar : Char.ofNat n = Char.ofNatAux n hvalid := dif_pos hvalid
      have hnat : (Char.ofNatAux n hvalid).toNat = n := rfl
      rw [hchar, IsPlain, hnat]
      omega
    · have hnull : Char.ofNat n = Char.ofNat 0 := (dif_neg hvalid).trans rfl
      rw [hnull]
      decide
  · decide

theorem isLowered_lowerChar (c : Char) : IsLowered c (lowerChar c) := by
  unfold IsLowered lowerChar mapCase
  by_cases hascii : c.toNat < 0x80
  · rw [if_pos hascii, if_pos hascii]
  · rw [if_neg hascii, if_neg hascii]
    have hself : ¬ IsPlain c := fun h => hascii h.2
    split
    · next e hfound =>
        -- The only character with a longer image is the dotted capital.
        have hmem := Array.mem_of_find?_eq_some hfound
        simp only [lowerExpansions, List.mem_toArray, List.mem_singleton] at hmem
        subst hmem
        have hi : ¬ IsPlain (Char.ofNat 0x69) := by decide
        have hdot : ¬ IsPlain (Char.ofNat 0x307) := by decide
        simp [hi, hdot]
    · split
      · next n hrun =>
          refine ⟨by simp, ?_⟩
          simp only [List.mem_singleton, forall_eq]
          obtain ⟨r, hr, himage⟩ := Array.exists_of_findSome?_eq_some hrun
          unfold CaseRun.image? at himage
          split at himage
          · next hin =>
              have havoid := lowerRuns_avoid r (Array.mem_toList_iff.mpr hr)
              rw [Option.some.injEq] at himage
              exact not_isPlain_ofNat (by omega)
          · cases himage
      · simpa using hself

/-! ## Texts -/

/-- The forms that a character may have in lower case. Only the capital sigma has two. -/
def lowerForms (c : Char) : List (List Char) :=
  if c.toNat = 0x3A3 then [[Char.ofNat 0x3C2], [Char.ofNat 0x3C3]] else [lowerChar c]

theorem isLowered_of_mem_lowerForms {c : Char} {image : List Char} (h : image ∈ lowerForms c) :
    IsLowered c image := by
  unfold lowerForms at h
  split at h
  · next hc =>
      have hsigma : ∀ {d : Nat}, 0x80 ≤ d → IsLowered c [Char.ofNat d] := by
        intro d hd
        simpa [IsLowered, hc] using not_isPlain_ofNat (.inl hd)
      simp only [List.mem_cons, List.not_mem_nil, or_false] at h
      rcases h with rfl | rfl
      · exact hsigma (by decide)
      · exact hsigma (by decide)
  · rw [List.mem_singleton.mp h]
    exact isLowered_lowerChar c

/-- Lower case puts a form of the first character before the lower case of the others. -/
theorem lowerFrom_cons (before : List Char) (c : Char) (cs : List Char) :
    ∃ image ∈ lowerForms c, lowerFrom before (c :: cs) = image ++ lowerFrom (c :: before) cs := by
  refine ⟨_, ?_, rfl⟩
  unfold lowerForms
  split
  · split <;> simp
  · exact List.mem_singleton_self _

/-- The lower case of a text goes through a form of each of its characters. -/
theorem exists_images (before cs : List Char) :
    ∃ images, List.Forall₂ (fun c image => image ∈ lowerForms c) cs images ∧
      lowerFrom before cs = images.flatten := by
  induction cs generalizing before with
  | nil => exact ⟨[], .nil, rfl⟩
  | cons c cs ih =>
      obtain ⟨image, himage, hcons⟩ := lowerFrom_cons before c cs
      obtain ⟨images, himages, hflatten⟩ := ih (c :: before)
      exact ⟨image :: images, .cons himage himages, by rw [hcons, hflatten, List.flatten_cons]⟩

/-- Only ASCII characters become plain ones. -/
theorem not_isPlain_toLower {c : Char} (h : ¬ c.toNat < 0x80) : ¬ IsPlain c.toLower := by
  have hself : c.toLower = c := by
    unfold Char.toLower
    rw [dif_neg]
    rintro ⟨-, hle⟩
    have hnat : c.toNat ≤ 'Z'.toNat := hle
    exact h (Nat.lt_of_le_of_lt hnat (by decide))
  rw [hself]
  exact fun hplain => h hplain.2

/-- From the end of a text on, plain characters are the small letters of its characters. -/
theorem prefix_images_iff {cs : List Char} {images : List (List Char)}
    (h : List.Forall₂ IsLowered cs images) {ending : List Char} (hplain : ∀ d ∈ ending, IsPlain d) :
    ending <+: (images.map List.reverse).flatten ↔ ending <+: cs.map Char.toLower := by
  induction h generalizing ending with
  | nil => rfl
  | @cons c image cs images hc _ ih =>
      cases ending with
      | nil => simp
      | cons d ending =>
          rw [List.forall_mem_cons] at hplain
          rw [List.map_cons, List.map_cons, List.flatten_cons, List.cons_prefix_cons]
          by_cases hascii : c.toNat < 0x80
          · rw [IsLowered, if_pos hascii] at hc
            rw [hc, List.reverse_singleton, List.singleton_append, List.cons_prefix_cons,
              ih hplain.2]
          · rw [IsLowered, if_neg hascii] at hc
            obtain ⟨hne, hnone⟩ := hc
            obtain ⟨y, ys, hys⟩ := List.exists_cons_of_ne_nil (mt List.reverse_eq_nil_iff.mp hne)
            have hy : ¬ IsPlain y := hnone y (List.mem_reverse.mp (hys ▸ List.mem_cons_self))
            rw [hys, List.cons_append, List.cons_prefix_cons]
            refine iff_of_false ?_ ?_
            · rintro ⟨rfl, -⟩
              exact hy hplain.1
            · rintro ⟨rfl, -⟩
              exact not_isPlain_toLower hascii hplain.1

/-- **Endings in lower case.** A text in lower case ends in plain characters exactly if the text itself
ends in them, whatever their case. -/
theorem isSuffixOf_lower {ending : List Char} (hplain : ∀ d ∈ ending, IsPlain d) (s : String) :
    ending.isSuffixOf (lower s).toList = ending.isSuffixOf (s.toList.map Char.toLower) := by
  obtain ⟨images, himages, hflatten⟩ := exists_images [] s.toList
  have hreverse : ∀ d ∈ ending.reverse, IsPlain d := fun d hd => hplain d (List.mem_reverse.mp hd)
  have hlowered := himages.imp fun _ _ => isLowered_of_mem_lowerForms
  have hback := prefix_images_iff (List.forall₂_reverse_iff.mpr hlowered) hreverse
  rw [List.map_reverse, ← List.reverse_flatten, List.map_reverse, List.reverse_prefix,
    List.reverse_prefix] at hback
  rw [lower, String.toList_ofList, hflatten, Bool.eq_iff_iff, List.isSuffixOf_iff_suffix,
    List.isSuffixOf_iff_suffix, hback]

end SolutionSurvey.Text
