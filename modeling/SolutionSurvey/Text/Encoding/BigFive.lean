import SolutionSurvey.Text.Encoding.BigFiveTable
import SolutionSurvey.Text.Encoding.Multibyte

/-!
# Big5

The encoding of Taiwan, with the additions of a code page and those of Hong Kong.

## Main definitions

* `BigFive.readBig5`, `BigFive.readCp950`, `BigFive.readHongKong` — what bytes stand for.
-/

namespace SolutionSurvey.BigFive

open Multibyte

/-- Reads Big5. -/
def readBig5 : List Nat → Reading :=
  readPair fun a b => big5.char? (a * 256 + b)

/-- Reads code page 950. -/
def readCp950 : List Nat → Reading :=
  readPair fun a b => cp950Own.char? (a * 256 + b) <|> big5.char? (a * 256 + b)

/-- Whether two bytes mean the same with the additions of Hong Kong. -/
def isShared (a b : Nat) : Bool :=
  a < 0xC6 || 0xC8 < a || (a == 0xC6 && b < 0xA1)

/-- The letters with two marks, which are two characters. -/
def markedLetter? : Nat → Option (List Char)
  | 0x8862 => some ['\u00ca', '\u0304']
  | 0x8864 => some ['\u00ca', '\u030c']
  | 0x88A3 => some ['\u00ea', '\u0304']
  | 0x88A5 => some ['\u00ea', '\u030c']
  | _ => none

/-- Reads Big5 with the additions of Hong Kong. -/
def readHongKong : List Nat → Reading
  | a :: b :: rest =>
    match if 0x80 ≤ a then markedLetter? (a * 256 + b) else none with
    | some cs => .ok (cs, 2)
    | none =>
      readPair (fun a b =>
        let code := a * 256 + b
        (if isShared a b then big5.char? code else none) <|> hongKong.char? code) (a :: b :: rest)
  | bs => readPair (fun _ _ => none) bs

end SolutionSurvey.BigFive
