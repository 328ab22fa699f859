import SolutionSurvey.Failure

/-!
# Punycode

Text as its ASCII characters followed by the places and codes of all others. These are numbers in digits of
base 36, with the least digit first; how large a last digit may be adapts to the numbers before. A code may be
that of half of a surrogate pair.

## Main definitions

* `Punycode.Insertion` — a text into which signs are being inserted.
* `Punycode.decode` — the text of some characters of ASCII.
-/

namespace SolutionSurvey.Punycode

/-- The value of a digit, letters first. -/
def digit? (c : Char) : Option Nat :=
  let c := c.toUpper
  if 'A' ≤ c ∧ c ≤ 'Z' then some (c.toNat - 65)
  else if '0' ≤ c ∧ c ≤ '9' then some (c.toNat - 48 + 26)
  else none

/-- The least value that a digit has if it is not the last one of its number. -/
def threshold (place bias : Nat) : Nat :=
  min 26 (max 1 (36 * (place + 1) - bias))

/-- The rest of an adaptation: large numbers shift the bias by whole digits. -/
def adaptFrom : Nat → Nat → Nat → Nat
  | 0, shifted, delta => shifted + 36 * delta / (delta + 38)
  | fuel + 1, shifted, delta =>
    if 455 < delta then adaptFrom fuel (shifted + 36) (delta / 35)
    else shifted + 36 * delta / (delta + 38)

/-- The bias after a number, when the text has `count` characters. -/
def adapt (isFirst : Bool) (delta count : Nat) : Nat :=
  let delta := if isFirst then delta / 700 else delta / 2
  let delta := delta + delta / count
  adaptFrom delta 0 delta

/-- A text into which signs are being inserted: where the next number counts from, the code that it
adds to, and the number that is being read. -/
structure Insertion where
  text : List Sign
  start : Nat := 0
  code : Nat := 0x80
  bias : Nat := 72
  isFirst : Bool := true
  place : Nat := 0
  weight : Nat := 1
  value : Nat := 0
  deriving Repr, DecidableEq, Inhabited

/-- Inserts the sign of a whole number. The number counts the places in the text, once for each code. -/
def Insertion.insert (s : Insertion) (delta : Nat) : Except Failure Insertion :=
  let places := s.text.length + 1
  let code := s.code + (s.start + delta) / places
  let at_ := (s.start + delta) % places
  if 0x10FFFF < code then
    .error (.malformedText ("Invalid character U+" ++ String.ofList (Nat.toDigits 16 code)))
  else
    .ok { text := s.text.take at_ ++ .ofCode code :: s.text.drop at_, start := at_ + 1, code,
          bias := adapt s.isFirst delta places, isFirst := false }

/-- Reads one more digit. -/
def Insertion.push (s : Insertion) (c : Char) : Except Failure Insertion :=
  match digit? c with
  | none => .error (.malformedText ("Invalid extended code point '" ++ c.toUpper.toString ++ "'"))
  | some d =>
    let value := s.value + d * s.weight
    let least := threshold s.place s.bias
    if d < least then s.insert value
    else .ok { s with place := s.place + 1, weight := s.weight * (36 - least), value }

/-- The text whose ASCII characters and whose numbers are given. -/
def decode (base numbers : List Char) : Except Failure (List Sign) := do
  let s ← numbers.foldlM Insertion.push { text := base.map .char }
  if s.place = 0 then pure s.text else .error (.malformedText "incomplete punicode string")

/-- The ASCII characters before the last dash, and what follows it. -/
def split {α : Type} (isDash : α → Bool) (cs : List α) : List α × List α :=
  let after := (cs.reverse.takeWhile fun c => !isDash c).reverse
  (cs.take (cs.length - after.length - 1), after)

end SolutionSurvey.Punycode
