import SolutionSurvey.Proofs.Text.Casing
import SolutionSurvey.Proofs.Text.Trim

/-!
# Texts in lower case

A text in lower case stays as it is when it is put in lower case again, although lower case may lengthen a
text and looks at the neighbours of a capital sigma: what it makes are small letters only, and these are left
alone wherever they stand. It makes no blanks, so a text in lower case has blanks at its ends only if the text
has.

## Main definitions

* `Text.IsSmall` — the characters that lower case leaves as they are.
* `Text.isSmall_of_mem_lowerForms` — what lower case makes of a character.
* `Text.lowerFrom_of_small` — lower case of a text in lower case.
* `Wording.IsTrimmed.mapRuns_lower` — lower case of a text without blanks at its ends.
* `Wording.IsSmall` — texts with halves that lower case leaves as they are.
-/

namespace SolutionSurvey

namespace Text

/-! ## Runs -/

/-- Code points from `low` to `high` in steps are apart from those of a run, or take turns with them. -/
def CaseRun.isApart (r : CaseRun) (low high step : ℕ) : Bool :=
  high.blt r.first || r.last.blt low ||
    (r.step == 2 && (step == 2 || low == high) && (low + r.first) % 2 == 1)

/-- What a run makes is apart from what any run moves. -/
theorem lowerRuns_isApart : (lowerRuns.toList.all fun r => lowerRuns.toList.all fun r' =>
    r'.isApart (r.first + r.offset).toNat (r.last + r.offset).toNat r.step) = true := by
  decide +kernel

/-- The images of a run stand outside a range of code points. -/
def CaseRun.Avoids (r : CaseRun) (first last : Int) : Prop :=
  r.last + r.offset < first ∨ last < r.first + r.offset

instance (r : CaseRun) (first last : Int) : Decidable (r.Avoids first last) :=
  inferInstanceAs (Decidable (_ ∨ _))

/-- Runs make no capitals of ASCII, no characters that lower case treats apart, no blanks and no surrogates,
and nothing in the private planes. -/
theorem lowerRuns_avoid_ranges : ∀ r ∈ lowerRuns.toList,
    0x60 < r.first + r.offset ∧ r.last + r.offset < 0xF0000 ∧ r.Avoids 0x80 0xA0 ∧
      r.Avoids 0x130 0x130 ∧ r.Avoids 0x3A3 0x3A3 ∧ r.Avoids 0x1680 0x1680 ∧ r.Avoids 0x2000 0x205F ∧
      r.Avoids 0x3000 0x3000 ∧ r.Avoids 0xD800 0xDFFF := by
  decide +kernel

/-- No run moves the small sigmas or the combining dot. -/
theorem lowerRuns_leave : ∀ r ∈ lowerRuns.toList, ∀ n ∈ [0x307, 0x3C2, 0x3C3], r.image? n = none := by
  decide +kernel

/-- The image of a code point stands among those of its run. -/
theorem CaseRun.image?_eq_some {r : CaseRun} {c n : ℕ} (h : r.image? c = some n)
    (hpos : 0 ≤ r.first + r.offset) :
    (n : Int) = c + r.offset ∧ r.first ≤ c ∧ c ≤ r.last ∧ (c - r.first) % r.step = 0 := by
  unfold CaseRun.image? at h
  split at h
  · next hin =>
      rw [Option.some.injEq] at h
      refine ⟨?_, hin⟩
      have hle : (r.first : Int) ≤ c := Int.ofNat_le.mpr hin.1
      rw [← h, Int.toNat_of_nonneg (by omega)]
  · cases h

/-- What one run has made is moved by no run. -/
theorem CaseRun.image?_image {r r' : CaseRun} (hr : r ∈ lowerRuns.toList) (hr' : r' ∈ lowerRuns.toList)
    {c n : ℕ} (h : r.image? c = some n) : r'.image? n = none := by
  have hapart := List.all_eq_true.mp (List.all_eq_true.mp lowerRuns_isApart r hr) r' hr'
  have hpos := (lowerRuns_avoid_ranges r hr).1
  obtain ⟨hn, hfirst, hlast, hstep⟩ := CaseRun.image?_eq_some h (by omega)
  rw [CaseRun.image?, if_neg]
  rintro ⟨hfirst', hlast', hstep'⟩
  simp only [CaseRun.isApart, Nat.blt_eq, Bool.or_eq_true, Bool.and_eq_true, beq_iff_eq] at hapart
  rcases hapart with (hhigh | hlow) | ⟨⟨htwo, htwo' | hone⟩, hodd⟩
  · omega
  · omega
  · rw [htwo] at hstep'
    rw [htwo'] at hstep
    omega
  · rw [htwo] at hstep'
    omega

/-! ## Single characters -/

/-- A character that lower case leaves as it is. -/
def IsSmall (c : Char) : Prop :=
  lowerForms c = [[c]]

instance : DecidablePred IsSmall :=
  fun _ => inferInstanceAs (Decidable (_ = _))

theorem toLower_ascii : ∀ n < 0x80, IsSmall (Char.ofNat n).toLower ∧
    ((Char.ofNat n).toLower = Char.ofNat n ∨ isBlank (Char.ofNat n).toLower = false) := by
  decide +kernel

/-- A character beyond ASCII that no run moves is small, but for the two that have entries of their own. -/
theorem isSmall_of_image?_eq_none {c : Char} (hascii : ¬ c.toNat < 0x80) (hdotted : c.toNat ≠ 0x130)
    (hsigma : c.toNat ≠ 0x3A3) (h : ∀ r ∈ lowerRuns.toList, r.image? c.toNat = none) : IsSmall c := by
  have hrun : lowerRuns.findSome? (fun r => r.image? c.toNat) = none :=
    Array.findSome?_eq_none_iff.mpr fun r hr => h r (Array.mem_toList_iff.mpr hr)
  have hsingle : lowerExpansions.find? (fun e => e.1 == c.toNat) = none := by
    simp [lowerExpansions, hdotted.symm]
  rw [IsSmall, lowerForms, if_neg hsigma, lowerChar, if_neg hascii, mapCase, hsingle, hrun]

theorem toNat_ofNat_of_lt {n : ℕ} (hplane : n < 0xF0000) (hsurrogate : n < 0xD800 ∨ 0xDFFF < n) :
    (Char.ofNat n).toNat = n := by
  have hvalid : n.isValidChar := by
    simp only [Nat.isValidChar]
    omega
  have hchar : Char.ofNat n = Char.ofNatAux n hvalid := dif_pos hvalid
  rw [hchar]
  rfl

/-- What a run makes of a character is small and not blank. -/
theorem isSmall_of_image? {r : CaseRun} (hr : r ∈ lowerRuns.toList) {c n : ℕ} (h : r.image? c = some n) :
    IsSmall (Char.ofNat n) ∧ isBlank (Char.ofNat n) = false := by
  obtain ⟨hpos, hplane, hlatin, hdotted, hsigma, hogham, hspaces, hwide, hsurrogate⟩ :=
    lowerRuns_avoid_ranges r hr
  obtain ⟨hn, hfirst, hlast, -⟩ := CaseRun.image?_eq_some h (by omega)
  simp only [CaseRun.Avoids] at hlatin hdotted hsigma hogham hspaces hwide hsurrogate
  have hnat : (Char.ofNat n).toNat = n := toNat_ofNat_of_lt (by omega) (by omega)
  refine ⟨?_, ?_⟩
  · by_cases hascii : n < 0x80
    · -- an image in ASCII is beyond the capitals
      have hlower : (Char.ofNat n).toLower = Char.ofNat n := by
        unfold Char.toLower
        rw [dif_neg]
        rintro ⟨-, hle⟩
        have hle' : (Char.ofNat n).toNat ≤ 'Z'.toNat := hle
        have hz : 'Z'.toNat = 0x5A := rfl
        omega
      exact hlower ▸ (toLower_ascii n hascii).1
    · have hfixed : ∀ r' ∈ lowerRuns.toList, r'.image? (Char.ofNat n).toNat = none :=
        hnat.symm ▸ fun r' hr' => CaseRun.image?_image hr hr' h
      exact isSmall_of_image?_eq_none (by omega) (by omega) (by omega) hfixed
  · rw [← Bool.not_eq_true]
    simp only [isBlank, hnat, Bool.or_eq_true, Bool.and_eq_true, decide_eq_true_eq, beq_iff_eq]
    omega

/-- What lower case makes apart from runs is small and not blank. -/
theorem isSmall_of_mem_special {d : Char} (hd : d ∈ [0x69, 0x307, 0x3C2, 0x3C3].map Char.ofNat) :
    IsSmall d ∧ isBlank d = false := by
  have hvisible : ∀ n ∈ [0x69, 0x307, 0x3C2, 0x3C3], isBlank (Char.ofNat n) = false := by decide
  refine ⟨?_, (List.forall_mem_map (P := fun d => isBlank d = false)).mpr hvisible d hd⟩
  simp only [List.map_cons, List.map_nil, List.mem_cons, List.not_mem_nil, or_false] at hd
  obtain rfl | hrest := hd
  · exact (toLower_ascii 0x69 (by decide)).1
  · have hcode : d.toNat ∈ [0x307, 0x3C2, 0x3C3] := by
      rcases hrest with rfl | rfl | rfl <;> decide
    have hfixed : ∀ r ∈ lowerRuns.toList, r.image? d.toNat = none :=
      fun r hr => lowerRuns_leave r hr d.toNat hcode
    simp only [List.mem_cons, List.not_mem_nil, or_false] at hcode
    exact isSmall_of_image?_eq_none (by omega) (by omega) (by omega) hfixed

theorem isSmall_of_mem_lowerChar {c d : Char} (hsigma : c.toNat ≠ 0x3A3) (hd : d ∈ lowerChar c) :
    IsSmall d ∧ (d = c ∨ isBlank d = false) := by
  by_cases hascii : c.toNat < 0x80
  · rw [lowerChar, if_pos hascii, List.mem_singleton] at hd
    have hc := toLower_ascii c.toNat hascii
    rw [Char.ofNat_toNat] at hc
    rwa [hd]
  · rw [lowerChar, if_neg hascii, mapCase] at hd
    split at hd
    · next e hfound =>
      have hmem := Array.mem_of_find?_eq_some hfound
      simp only [lowerExpansions, List.mem_toArray, List.mem_singleton] at hmem
      subst hmem
      have hspecial : d ∈ [0x69, 0x307, 0x3C2, 0x3C3].map Char.ofNat := by
        simp only [List.map_cons, List.map_nil, List.mem_cons, List.not_mem_nil, or_false] at hd ⊢
        exact hd.elim .inl fun h => .inr (.inl h)
      exact (isSmall_of_mem_special hspecial).imp_right .inr
    · next hsingle =>
      split at hd
      · next n hrun =>
        obtain ⟨r, hr, himage⟩ := Array.exists_of_findSome?_eq_some hrun
        obtain rfl := List.mem_singleton.mp hd
        exact (isSmall_of_image? (Array.mem_toList_iff.mpr hr) himage).imp_right .inr
      · next hrun =>
        obtain rfl := List.mem_singleton.mp hd
        refine ⟨?_, .inl rfl⟩
        rw [IsSmall, lowerForms, if_neg hsigma, lowerChar, if_neg hascii, mapCase, hsingle, hrun]

/-- **Lower case makes small characters**, and other ones than the character itself only if they are not
blank. -/
theorem isSmall_of_mem_lowerForms {c d : Char} {image : List Char} (h : image ∈ lowerForms c) (hd : d ∈ image) :
    IsSmall d ∧ (d = c ∨ isBlank d = false) := by
  unfold lowerForms at h
  split at h
  · have hspecial : d ∈ [0x69, 0x307, 0x3C2, 0x3C3].map Char.ofNat := by
      simp only [List.mem_cons, List.not_mem_nil, or_false] at h
      rcases h with rfl | rfl <;> simp [List.mem_singleton.mp hd]
    exact (isSmall_of_mem_special hspecial).imp_right .inr
  · next hsigma =>
    obtain rfl := List.mem_singleton.mp h
    exact isSmall_of_mem_lowerChar hsigma hd

/-- Lower case makes no blank of a character that is none. -/
theorem isBlank_of_mem_lowerForms {c d : Char} {image : List Char} (h : image ∈ lowerForms c) (hd : d ∈ image)
    (hc : isBlank c = false) : isBlank d = false := by
  rcases (isSmall_of_mem_lowerForms h hd).2 with rfl | hvisible
  · exact hc
  · exact hvisible

/-- Every character has some form in lower case. -/
theorem ne_nil_of_mem_lowerForms {c : Char} {image : List Char} (h : image ∈ lowerForms c) : image ≠ [] := by
  have hlowered := isLowered_of_mem_lowerForms h
  rw [IsLowered] at hlowered
  split at hlowered
  · rw [hlowered]
    exact List.cons_ne_nil _ _
  · exact hlowered.1

/-! ## Texts -/

/-- Small characters stay wherever they stand. -/
theorem lowerFrom_of_small {cs : List Char} (h : ∀ c ∈ cs, IsSmall c) (before : List Char) :
    lowerFrom before cs = cs := by
  induction cs generalizing before with
  | nil => rfl
  | cons c cs ih =>
      obtain ⟨hc, hcs⟩ := List.forall_mem_cons.mp h
      obtain ⟨image, himage, hcons⟩ := lowerFrom_cons before c cs
      rw [hc] at himage
      rw [hcons, ih hcs, List.mem_singleton.mp himage, List.singleton_append]

/-- The characters of a text in lower case are small. -/
theorem isSmall_of_mem_lowerFrom {before cs : List Char} {d : Char} (hd : d ∈ lowerFrom before cs) :
    IsSmall d := by
  induction cs generalizing before with
  | nil => cases hd
  | cons c cs ih =>
      obtain ⟨image, himage, hcons⟩ := lowerFrom_cons before c cs
      rw [hcons, List.mem_append] at hd
      exact hd.elim (fun hd => (isSmall_of_mem_lowerForms himage hd).1) ih

theorem lowerFrom_eq_nil_iff {before cs : List Char} : lowerFrom before cs = [] ↔ cs = [] := by
  cases cs with
  | nil => simp [lowerFrom]
  | cons c cs =>
      obtain ⟨image, himage, hcons⟩ := lowerFrom_cons before c cs
      simp [hcons, ne_nil_of_mem_lowerForms himage]

/-- The last character in lower case comes from the last character. -/
theorem isBlank_getLast?_lowerFrom {before cs : List Char} (h : ∀ c ∈ cs.getLast?, isBlank c = false) :
    ∀ d ∈ (lowerFrom before cs).getLast?, isBlank d = false := by
  induction cs generalizing before with
  | nil => exact nofun
  | cons c cs ih =>
      intro d hd
      obtain ⟨image, himage, hcons⟩ := lowerFrom_cons before c cs
      rw [hcons] at hd
      by_cases hnil : cs = []
      · subst hnil
        rw [lowerFrom_eq_nil_iff.mpr rfl, List.append_nil] at hd
        exact isBlank_of_mem_lowerForms himage (List.mem_of_getLast? hd) (h c rfl)
      · rw [List.getLast?_append_of_ne_nil _ (mt lowerFrom_eq_nil_iff.mp hnil)] at hd
        obtain ⟨c', cs', rfl⟩ := List.exists_cons_of_ne_nil hnil
        exact ih (fun e he => h e (by simpa using he)) d hd

/-- The first character in lower case comes from the first character. -/
theorem isBlank_head?_lowerFrom {before cs : List Char} (h : ∀ c ∈ cs.head?, isBlank c = false) :
    ∀ d ∈ (lowerFrom before cs).head?, isBlank d = false := by
  cases cs with
  | nil => exact nofun
  | cons c cs =>
      intro d hd
      obtain ⟨image, himage, hcons⟩ := lowerFrom_cons before c cs
      obtain ⟨e, rest, rfl⟩ := List.exists_cons_of_ne_nil (ne_nil_of_mem_lowerForms himage)
      rw [hcons, List.cons_append, List.head?_cons, Option.mem_some_iff] at hd
      exact isBlank_of_mem_lowerForms himage (hd ▸ List.mem_cons_self) (h c rfl)

end Text

/-! ## Texts with halves -/

namespace Wording

/-- All characters of a text are small. -/
def IsSmall : Wording → Prop
  | .plain s => ∀ c ∈ s.toList, Text.IsSmall c
  | .broken head _ rest => (∀ c ∈ head.toList, Text.IsSmall c) ∧ rest.IsSmall

/-- Small characters stay wherever they stand. -/
theorem mapRuns_lower_of_isSmall {w : Wording} (h : w.IsSmall) : w.mapRuns Text.lower = w := by
  have hrun {s : String} (hs : ∀ c ∈ s.toList, Text.IsSmall c) : Text.lower s = s := by
    rw [Text.lower, Text.lowerFrom_of_small hs, String.ofList_toList]
  induction w with
  | plain s => rw [mapRuns, hrun h]
  | broken head half rest ih => rw [mapRuns, hrun h.1, ih h.2]

/-- The characters of a text in lower case are small. -/
theorem isSmall_mapRuns_lower (w : Wording) : (w.mapRuns Text.lower).IsSmall := by
  have hrun (s : String) : ∀ c ∈ (Text.lower s).toList, Text.IsSmall c := by
    rw [Text.lower, String.toList_ofList]
    exact fun c => Text.isSmall_of_mem_lowerFrom
  induction w with
  | plain s => exact hrun s
  | broken head half rest ih => exact ⟨hrun head, ih⟩

theorem IsSmall.prepend {w : Wording} (h : w.IsSmall) {s : String} (hs : ∀ c ∈ s.toList, Text.IsSmall c) :
    (w.prepend s).IsSmall := by
  cases w with
  | plain t =>
      rw [Wording.prepend, IsSmall, String.toList_append, List.forall_mem_append]
      exact ⟨hs, h⟩
  | broken head half rest =>
      rw [Wording.prepend, IsSmall, String.toList_append, List.forall_mem_append]
      exact ⟨⟨hs, h.1⟩, h.2⟩

/-- Lower case puts no blanks at the ends of a text. -/
theorem IsTrimmed.mapRuns_lower {w : Wording} (h : IsTrimmed w) : IsTrimmed (w.mapRuns Text.lower) where
  head := by
    have hfirst : (w.mapRuns Text.lower).firstRun.toList = Text.lowerFrom [] w.firstRun.toList := by
      cases w <;> simp [mapRuns, firstRun, Text.lower]
    rw [hfirst]
    exact Text.isBlank_head?_lowerFrom h.head
  last := by
    have hlast : (w.mapRuns Text.lower).lastRun.toList = Text.lowerFrom [] w.lastRun.toList := by
      clear h
      induction w with
      | plain s => simp [mapRuns, lastRun, Text.lower]
      | broken head half rest ih => exact ih
    rw [hlast]
    exact Text.isBlank_getLast?_lowerFrom h.last

end Wording

end SolutionSurvey
