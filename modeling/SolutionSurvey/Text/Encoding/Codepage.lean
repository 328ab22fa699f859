/-!
# Code pages

An encoding with one byte for each character is a table of the characters of its bytes. Most tables agree
with ASCII in their lower half and are given by the upper half alone.

## Main definitions

* `Codepage` — a table with the names it goes by.
* `Codepage.char?` — the character of a byte.
-/

namespace SolutionSurvey

/-- The characters of the bytes from zero on, with the name of the page and its other names. -/
structure Codepage where
  name : String
  aliases : List String
  chars : Array Char
  deriving Repr, DecidableEq, Inhabited

namespace Codepage

/-- The mark in a table for a byte that has no character. -/
def unused : Char := '\ufffe'

/-- A page whose lower half is ASCII. -/
def upper (name : String) (aliases : List String) (high : String) : Codepage :=
  ⟨name, aliases, ((List.range 128).map Char.ofNat ++ high.toList).toArray⟩

/-- A page given by all its characters. -/
def whole (name : String) (aliases : List String) (chars : String) : Codepage :=
  ⟨name, aliases, chars.toList.toArray⟩

/-- The character of a byte. -/
def char? (p : Codepage) (b : UInt8) : Option Char :=
  p.chars[b.toNat]?.filter (· != unused)

end Codepage

end SolutionSurvey
