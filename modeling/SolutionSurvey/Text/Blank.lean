/-!
# Blank characters

The characters that count as surrounding space: the Unicode separators and the control characters
that end lines, columns and records. A byte order mark and the zero-width characters are not blank.

## Main definitions

* `isBlank` — the class itself.
* `trim` — a text without the blanks at its two ends.
-/

namespace SolutionSurvey.Text

/-- Whether a character is blank. -/
def isBlank (c : Char) : Bool :=
  let n := c.toNat
  (0x09 ≤ n && n ≤ 0x0D) || (0x1C ≤ n && n ≤ 0x20) || n == 0x85 || n == 0xA0 || n == 0x1680 ||
    (0x2000 ≤ n && n ≤ 0x200A) || n == 0x2028 || n == 0x2029 || n == 0x202F || n == 0x205F ||
    n == 0x3000

/-- A list of characters without the blanks it starts with. -/
def trimLeft (cs : List Char) : List Char :=
  cs.dropWhile isBlank

/-- A list of characters without the blanks it ends with. -/
def trimRight (cs : List Char) : List Char :=
  (cs.reverse.dropWhile isBlank).reverse

/-- A list of characters without the blanks at its two ends. -/
def trimChars (cs : List Char) : List Char :=
  trimRight (trimLeft cs)

/-- A text without the blanks at its two ends. -/
def trim (s : String) : String :=
  String.ofList (trimChars s.toList)

/-- Whether every character of a text is blank. -/
def isBlankText (s : String) : Bool :=
  s.toList.all isBlank

@[simp] theorem trimChars_nil : trimChars [] = [] := rfl

/-- A text without blanks has none to lose. -/
theorem trimChars_eq_self {cs : List Char} (h : ∀ c ∈ cs, isBlank c = false) : trimChars cs = cs := by
  have keep : ∀ ds : List Char, (∀ c ∈ ds, isBlank c = false) → ds.dropWhile isBlank = ds := by
    intro ds hds
    cases ds with
    | nil => rfl
    | cons d ds => simp [hds d (by simp)]
  simp only [trimChars, trimLeft, trimRight]
  rw [keep cs h, keep cs.reverse fun c hc => h c (List.mem_reverse.mp hc), List.reverse_reverse]

/-- Nothing is left of a text exactly if all of it is blank. -/
theorem trimChars_eq_nil_iff {cs : List Char} : trimChars cs = [] ↔ ∀ c ∈ cs, isBlank c := by
  have gone : ∀ ds : List Char, ds.dropWhile isBlank = [] ↔ ∀ c ∈ ds, isBlank c := by
    intro ds
    induction ds with
    | nil => simp
    | cons d ds ih => by_cases hd : isBlank d <;> simp [hd, ih]
  have left : ∀ c ds, cs.dropWhile isBlank = c :: ds → isBlank c = false := by
    intro c ds hcs
    have := List.head?_dropWhile_not isBlank cs
    simpa [hcs] using this
  simp only [trimChars, trimLeft, trimRight, List.reverse_eq_nil_iff, gone, List.mem_reverse]
  constructor
  · intro h
    rcases hcs : cs.dropWhile isBlank with _ | ⟨c, ds⟩
    · exact (gone cs).mp hcs
    · have hc := h c (by simp [hcs])
      simp [left c ds hcs] at hc
  · intro h
    simp [(gone cs).mpr h]

theorem trim_ne_empty_iff {s : String} : trim s ≠ "" ↔ isBlankText s = false := by
  have hempty : trim s = "" ↔ trimChars s.toList = [] := by
    simp [trim, ← String.toList_inj]
  rw [Ne, hempty, trimChars_eq_nil_iff, ← Bool.not_eq_true, isBlankText, List.all_eq_true]

end SolutionSurvey.Text
