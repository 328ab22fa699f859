import SolutionSurvey.Text.CaseTable
import SolutionSurvey.Text.Printable

/-!
# Case of letters

Full Unicode case mapping of texts. Upper case and folding look at one character at a time; lower case
looks at the neighbours of a capital sigma, which takes its final form at the end of a word.

## Main definitions

* `lower`, `upper`, `fold` — the three mappings on texts.
-/

namespace SolutionSurvey.Text

/-- The image of one character under a mapping given by runs and expansions. -/
def mapCase (runs : Array CaseRun) (expansions : Array (Nat × List Nat)) (c : Char) : List Char :=
  match expansions.find? fun e => e.1 == c.toNat with
  | some e => e.2.map Char.ofNat
  | none =>
    match runs.findSome? fun r => r.image? c.toNat with
    | some n => [Char.ofNat n]
    | none => [c]

/-- The upper-case form of a character. -/
def upperChar (c : Char) : List Char :=
  if c.toNat < 0x80 then [c.toUpper] else mapCase upperRuns upperExpansions c

/-- The folded form of a character, for comparisons that ignore case. -/
def foldChar (c : Char) : List Char :=
  if c.toNat < 0x80 then [c.toLower] else mapCase foldRuns foldExpansions c

/-- The lower-case form of a character that stands alone. -/
def lowerChar (c : Char) : List Char :=
  if c.toNat < 0x80 then [c.toLower] else mapCase lowerRuns lowerExpansions c

/-! ## The capital sigma

A capital sigma ends a word when the nearest character before it that is not ignorable carries case,
and the nearest such character after it does not. -/

/-- Whether the nearest character that is not ignorable carries case. -/
def carriesCase : List Char → Bool
  | [] => false
  | c :: rest =>
    if inRanges caseIgnorable c.toNat then carriesCase rest else inRanges caseBearing c.toNat

/-- Lower case of the characters that follow `before`, which is listed nearest first. -/
def lowerFrom (before : List Char) : List Char → List Char
  | [] => []
  | c :: rest =>
    let image :=
      if c.toNat = 0x3A3 then
        if carriesCase before && !carriesCase rest then [Char.ofNat 0x3C2] else [Char.ofNat 0x3C3]
      else lowerChar c
    image ++ lowerFrom (c :: before) rest

/-- A text in lower case. -/
def lower (s : String) : String :=
  String.ofList (lowerFrom [] s.toList)

/-- A text in upper case. -/
def upper (s : String) : String :=
  String.ofList (s.toList.flatMap upperChar)

/-- A text folded for comparisons that ignore case. -/
def fold (s : String) : String :=
  String.ofList (s.toList.flatMap foldChar)

end SolutionSurvey.Text
