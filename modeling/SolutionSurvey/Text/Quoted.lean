import SolutionSurvey.Text.Printable
import SolutionSurvey.Text.Wording

/-!
# Quoted texts

The written form of a text inside a message or a structured value: between quotes, with the
characters that cannot stand for themselves written as escapes.

## Main definitions

* `quoteOf` — single quotes, unless the text holds one and no double quote.
* `escapeChar` — the written form of one character.
* `quoted`, `Wording.quoted` — the written form of a text.
* `Wording.shown` — a text with its halves as escapes.
-/

namespace SolutionSurvey.Text

/-- The digits of a number in base sixteen, in lower case, at least `width` of them. -/
def hex (width n : Nat) : String :=
  let ds := Nat.toDigits 16 n
  String.ofList (List.replicate (width - ds.length) '0' ++ ds)

/-- The quote that encloses a text: a single one, unless only a double one avoids an escape. -/
def quoteOf (s : String) : Char :=
  if s.toList.contains '\'' && !s.toList.contains '"' then '"' else '\''

/-- A character that is written as `\x`, `\u` or `\U` with as many digits as it needs. -/
def hexEscape (n : Nat) : String :=
  if n ≤ 0xFF then "\\x" ++ hex 2 n
  else if n ≤ 0xFFFF then "\\u" ++ hex 4 n
  else "\\U" ++ hex 8 n

/-- The written form of one character between the given quotes. -/
def escapeChar (quote c : Char) : String :=
  if c = quote ∨ c = '\\' then String.ofList ['\\', c]
  else if c = '\n' then "\\n"
  else if c = '\r' then "\\r"
  else if c = '\t' then "\\t"
  else if isPrintable c then String.singleton c
  else hexEscape c.toNat

/-- The written form of a text between the given quotes. -/
def escapeText (quote : Char) (s : String) : String :=
  String.join (s.toList.map (escapeChar quote))

/-- The written form of a text. -/
def quoted (s : String) : String :=
  let q := quoteOf s
  String.singleton q ++ escapeText q s ++ String.singleton q

end SolutionSurvey.Text

namespace SolutionSurvey.Wording

/-- A text with its halves as escapes, as the error stream shows it. -/
def shown (w : Wording) : String :=
  w.spelled fun h => Text.hexEscape h.code

/-- The written form of a text between the given quotes. -/
def escaped (quote : Char) : Wording → String
  | .plain s => Text.escapeText quote s
  | .broken head half rest => Text.escapeText quote head ++ Text.hexEscape half.code ++ rest.escaped quote

/-- The written form of a text. -/
def quoted (w : Wording) : String :=
  let q := Text.quoteOf (w.spelled fun _ => "")
  String.singleton q ++ w.escaped q ++ String.singleton q

end SolutionSurvey.Wording
