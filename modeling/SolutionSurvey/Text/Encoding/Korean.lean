import SolutionSurvey.Text.Encoding.KoreanTable
import SolutionSurvey.Text.Encoding.Multibyte

/-!
# The encodings of Korea

KS X 1001 has a part of the syllables in rows and columns. A code page adds the others in the order of
their code points; another encoding writes a syllable as the numbers of its letters; and the first one can
spell a syllable out, letter by letter.

## Main definitions

* `Korean.syllable` — the syllable of some letters.
* `Korean.readEucKr`, `Korean.readCp949`, `Korean.readJohab` — what bytes stand for.
-/

namespace SolutionSurvey.Korean

open Multibyte

/-! ## Syllables and their letters -/

/-- The first syllable. -/
def firstSyllable : Nat := 0xAC00

/-- The number of syllables. -/
def syllableCount : Nat := 19 * 21 * 28

/-- The letters that begin a syllable, in order. -/
def initials : List Char := "ㄱㄲㄴㄷㄸㄹㅁㅂㅃㅅㅆㅇㅈㅉㅊㅋㅌㅍㅎ".toList

/-- The vowels, in order. -/
def vowels : List Char := "ㅏㅐㅑㅒㅓㅔㅕㅖㅗㅘㅙㅚㅛㅜㅝㅞㅟㅠㅡㅢㅣ".toList

/-- The letters that end a syllable, in order. -/
def finals : List Char := "ㄱㄲㄳㄴㄵㄶㄷㄹㄺㄻㄼㄽㄾㄿㅀㅁㅂㅄㅅㅆㅇㅈㅊㅋㅌㅍㅎ".toList

/-- The syllable of a first letter, a vowel and, if there is one, a last letter, all by their places. -/
def syllable (initial vowel : Nat) (final : Option Nat) : Char :=
  Char.ofNat (firstSyllable + (initial * 21 + vowel) * 28 + (final.map (· + 1)).getD 0)

/-! ## Rows and columns -/

/-- The byte of a row of letters. -/
def letterRow : Nat := 0xA4

/-- The byte of a letter that is left out. -/
def noLetter : Nat := 0xD4

/-- The syllable that is spelled out by the bytes of three letters. -/
def spelled? (x y z : Nat) : Option Char := do
  let initial ← (highPair? ksX1001 letterRow x).bind initials.idxOf?
  let vowel ← (highPair? ksX1001 letterRow y).bind vowels.idxOf?
  if z = noLetter then pure (syllable initial vowel none)
  else
    let final ← (highPair? ksX1001 letterRow z).bind finals.idxOf?
    pure (syllable initial vowel (some final))

/-- Reads KS X 1001 beside ASCII. A letter that is left out introduces a syllable that is spelled out. -/
def readEucKr : List Nat → Reading
  | a :: b :: rest =>
    if a = letterRow ∧ b = noLetter then
      match rest with
      | r :: x :: s :: y :: t :: z :: _ =>
        if r = letterRow ∧ s = letterRow ∧ t = letterRow then readChar 8 (spelled? x y z)
        else .error (.illegal 1)
      | _ => .error .incomplete
    else readPair (highPair? ksX1001) (a :: b :: rest)
  | bs => readPair (fun _ _ => none) bs

/-! ## The other syllables in order -/

/-- Which syllables KS X 1001 has. -/
def syllableMarks : Array Bool :=
  ksX1001.foldl (fun marks run => run.2.toList.foldl (fun marks c =>
      if firstSyllable ≤ c.toNat then marks.setIfInBounds (c.toNat - firstSyllable) true else marks)
    marks) (Array.replicate syllableCount false)

/-- The syllables that KS X 1001 does not have, in order. -/
def otherSyllables : Array Char :=
  ((List.range syllableCount).filterMap fun n =>
    if syllableMarks[n]? == some false then some (Char.ofNat (firstSyllable + n)) else none).toArray

/-- The column of a byte among the letters of ASCII, large and small, and the bytes from 0x81 on. -/
def letterColumn? (b : Nat) : Option Nat :=
  if 0x41 ≤ b && b ≤ 0x5A then some (b - 0x41)
  else if 0x61 ≤ b && b ≤ 0x7A then some (b - 0x61 + 26)
  else if 0x81 ≤ b && b ≤ 0xFE then some (b - 0x81 + 52)
  else none

/-- The place of two bytes among the syllables that stand around KS X 1001: above it in rows of 178, to the
left of it in rows of 84. -/
def syllablePlace? (a b : Nat) : Option Nat :=
  (letterColumn? b).bind fun column =>
    if 0x81 ≤ a && a ≤ 0xA0 then some ((a - 0x81) * 178 + column)
    else if 0xA1 ≤ a && b ≤ 0xA0 then some (32 * 178 + (a - 0xA1) * 84 + column)
    else none

/-- Reads code page 949. -/
def readCp949 : List Nat → Reading :=
  readPair fun a b =>
    highPair? ksX1001 a b <|> (syllablePlace? a b).bind fun n => otherSyllables[n]?

/-! ## Numbers of letters -/

/-- The place of a first letter by its number, none for a letter that is left out. -/
def initialOf? (n : Nat) : Option (Option Nat) :=
  if n = 1 then some none
  else if 2 ≤ n && n ≤ 20 then some (some (n - 2))
  else none

/-- The place of a vowel by its number. -/
def vowelOf? (n : Nat) : Option (Option Nat) :=
  if n = 2 then some none
  else if 3 ≤ n && n ≤ 7 then some (some (n - 3))
  else if 10 ≤ n && n ≤ 15 then some (some (n - 5))
  else if 18 ≤ n && n ≤ 23 then some (some (n - 7))
  else if 26 ≤ n && n ≤ 29 then some (some (n - 9))
  else none

/-- The place of a last letter by its number. -/
def finalOf? (n : Nat) : Option (Option Nat) :=
  if n = 1 then some none
  else if 2 ≤ n && n ≤ 17 then some (some (n - 2))
  else if 19 ≤ n && n ≤ 29 then some (some (n - 3))
  else none

/-- What a syllable is of which letters may be left out: a letter alone stands for itself. -/
def compose? : Option Nat → Option Nat → Option Nat → Option Char
  | some i, some v, f => some (syllable i v f)
  | some i, none, none => initials[i]?
  | none, some v, none => vowels[v]?
  | none, none, some f => finals[f]?
  | none, none, none => some '\u3000'
  | _, _, _ => none

/-- The syllable of two bytes that hold three numbers of five bits. -/
def numbered? (a b : Nat) : Option Char := do
  let n := a * 256 + b
  compose? (← initialOf? (n / 1024 % 32)) (← vowelOf? (n / 32 % 32)) (← finalOf? (n % 32))

/-- The row and the column in KS X 1001 of two bytes, of which two rows share one first byte. -/
def foldedCell? (a b : Nat) : Option (Nat × Nat) :=
  if a == 0xD8 || a == 0xDF || 0xF9 < a || b < 0x31 || (0x80 ≤ b && b < 0x91) || b % 0x80 == 0x7F ||
      (a == 0xDA && 0xA1 ≤ b && b ≤ 0xD3) then none
  else
    let row := if a < 0xE0 then 2 * (a - 0xD9) else 2 * a - 0x197
    let column := if b < 0x91 then b - 0x31 else b - 0x43
    if column < 94 then some (row + 0x21, column + 0x21) else some (row + 0x22, column - 94 + 0x21)

/-- Reads syllables by the numbers of their letters, and what else KS X 1001 has in folded rows. -/
def readJohab : List Nat → Reading :=
  readPair fun a b =>
    if a < 0xD8 then numbered? a b
    else (foldedCell? a b).bind fun (row, column) => ksX1001.char? (row * 256 + column)

end SolutionSurvey.Korean
