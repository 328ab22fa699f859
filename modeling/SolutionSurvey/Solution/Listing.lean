import SolutionSurvey.Text.Blank

/-!
# Solution listings

The text of a solution file lists one entry for each project: a kind, a name, a path and an identity,
each between quotes. An entry starts at the beginning of a line, after any blanks; blanks and the parts
of an entry may run over line ends. All other text is passed over.

## Main definitions

* `Listing.Entry` — an entry.
* `Listing.readEntry` — the entry at the beginning of a text, with the text after it.
* `Listing.entries` — all entries of a text.
-/

namespace SolutionSurvey.Listing

/-- An entry of a solution file. -/
structure Entry where
  kind : String
  name : String
  path : String
  guid : String
  deriving Repr, DecidableEq, Inhabited

/-! ## Parts of an entry

Each reader gives the text that follows what it has read. -/

/-- Reads the given characters. -/
def expect : List Char → List Char → Option (List Char)
  | [], cs => some cs
  | _ :: _, [] => none
  | p :: ps, c :: cs => if p = c then expect ps cs else none

/-- Reads blanks. -/
def skipBlanks (cs : List Char) : List Char :=
  cs.dropWhile Text.isBlank

/-- Reads one or more characters up to an end mark, which is not read. -/
def upTo (stop : Char) (cs : List Char) : Option (String × List Char) :=
  match cs.takeWhile (· != stop) with
  | [] => none
  | part => some (String.ofList part, cs.dropWhile (· != stop))

/-- Reads a part between braces between quotes. -/
def braced (cs : List Char) : Option (String × List Char) := do
  let cs ← expect ['"', '{'] cs
  let (part, cs) ← upTo '}' cs
  let cs ← expect ['}', '"'] cs
  pure (part, cs)

/-- Reads a part between quotes. -/
def quotedPart (cs : List Char) : Option (String × List Char) := do
  let cs ← expect ['"'] cs
  let (part, cs) ← upTo '"' cs
  let cs ← expect ['"'] cs
  pure (part, cs)

/-- Reads a comma and the blanks after it. -/
def comma (cs : List Char) : Option (List Char) :=
  (expect [','] cs).map skipBlanks

/-- The word that starts an entry, with its bracket. -/
def opening : List Char := "Project(".toList

/-- The entry at the beginning of a text, with the text after it. -/
def readEntry (cs : List Char) : Option (Entry × List Char) := do
  let cs ← expect opening (skipBlanks cs)
  let (kind, cs) ← braced cs
  let cs ← expect [')'] cs
  let cs ← expect ['='] (skipBlanks cs)
  let (name, cs) ← quotedPart (skipBlanks cs)
  let cs ← comma cs
  let (path, cs) ← quotedPart cs
  let cs ← comma cs
  let (guid, cs) ← braced cs
  pure (⟨kind, name, path, guid⟩, cs)

/-! ## The text after an entry is shorter -/

theorem expect_length {ps cs rest : List Char} (h : expect ps cs = some rest) :
    rest.length + ps.length = cs.length := by
  induction ps generalizing cs with
  | nil => simp [expect] at h; simp [h]
  | cons p ps ih =>
    cases cs with
    | nil => simp [expect] at h
    | cons c cs =>
      simp only [expect] at h
      split at h
      · have := ih h; simp; omega
      · cases h

theorem skipBlanks_length (cs : List Char) : (skipBlanks cs).length ≤ cs.length :=
  (List.dropWhile_suffix _).length_le

theorem upTo_length {stop : Char} {cs rest : List Char} {part : String}
    (h : upTo stop cs = some (part, rest)) : rest.length ≤ cs.length := by
  unfold upTo at h
  split at h
  · cases h
  · cases h; exact (List.dropWhile_suffix _).length_le

theorem braced_length {cs rest : List Char} {part : String}
    (h : braced cs = some (part, rest)) : rest.length ≤ cs.length := by
  simp only [braced, Option.bind_eq_bind, Option.bind_eq_some_iff, Option.pure_def, Option.some.injEq,
    Prod.exists, Prod.mk.injEq] at h
  obtain ⟨a, ha, b, c, hb, d, hd, -, rfl⟩ := h
  have h₁ := expect_length ha
  have h₂ := upTo_length hb
  have h₃ := expect_length hd
  omega

theorem quotedPart_length {cs rest : List Char} {part : String}
    (h : quotedPart cs = some (part, rest)) : rest.length ≤ cs.length := by
  simp only [quotedPart, Option.bind_eq_bind, Option.bind_eq_some_iff, Option.pure_def,
    Option.some.injEq, Prod.exists, Prod.mk.injEq] at h
  obtain ⟨a, ha, b, c, hb, d, hd, -, rfl⟩ := h
  have h₁ := expect_length ha
  have h₂ := upTo_length hb
  have h₃ := expect_length hd
  omega

theorem comma_length {cs rest : List Char} (h : comma cs = some rest) : rest.length ≤ cs.length := by
  simp only [comma, Option.map_eq_some_iff] at h
  obtain ⟨a, ha, rfl⟩ := h
  have h₁ := expect_length ha
  have h₂ := skipBlanks_length a
  omega

/-- The text after an entry is shorter than the text that starts with it. -/
theorem readEntry_length {cs rest : List Char} {e : Entry} (h : readEntry cs = some (e, rest)) :
    rest.length < cs.length := by
  simp only [readEntry, Option.bind_eq_bind, Option.bind_eq_some_iff, Option.pure_def, Option.some.injEq,
    Prod.exists, Prod.mk.injEq] at h
  obtain ⟨a, ha, _, b, hb, c, hc, d, hd, _, e, he, f, hf, _, g, hg, i, hi, _, j, hj, -, rfl⟩ := h
  have h₁ := expect_length ha
  have h₂ := skipBlanks_length cs
  have h₃ := braced_length hb
  have h₄ := expect_length hc
  have h₅ := expect_length hd
  have h₆ := skipBlanks_length c
  have h₇ := quotedPart_length he
  have h₈ := skipBlanks_length d
  have h₉ := comma_length hf
  have h₁₀ := quotedPart_length hg
  have h₁₁ := comma_length hi
  have h₁₂ := braced_length hj
  have : 0 < opening.length := by decide
  omega

/-! ## All entries -/

/-- The entries of a text that may start in the middle of a line. -/
def entriesFrom (atLineStart : Bool) (cs : List Char) : List Entry :=
  match _h : if atLineStart then readEntry cs else none with
  | some (e, rest) => e :: entriesFrom false rest
  | none =>
    match cs with
    | [] => []
    | c :: cs => entriesFrom (c == '\n') cs
  termination_by cs.length
  decreasing_by
    · cases atLineStart with
      | true => exact readEntry_length _h
      | false => cases _h
    · simp

/-- All entries of a text, in order. -/
def entries (s : String) : List Entry :=
  entriesFrom true s.toList

end SolutionSurvey.Listing
