import SolutionSurvey.Text.Encoding.JapaneseTable
import SolutionSurvey.Text.Encoding.Multibyte

/-!
# The encodings of Japan

JIS X 0208 has rows and columns of characters, JIS X 0212 has others, and JIS X 0213 has those of the first
one with more in a first and a second plane. The encodings write the rows and columns with their highest
bits set, or fold two rows into one so that half-width syllables keep their bytes.

## Main definitions

* `Japanese.firstPlane?`, `Japanese.secondPlane?` — the characters of JIS X 0213 by row and column.
* `Japanese.readEucJp`, `Japanese.readEucJis`, `Japanese.readShiftJis`, `Japanese.readShiftJis2004`,
  `Japanese.readCp932` — what bytes stand for.
-/

namespace SolutionSurvey.Japanese

open Multibyte

/-! ## Rows and columns -/

/-- The edition of JIS X 0213; the second one added ten ideographs and replaced one. -/
inductive Edition where
  | first
  | second
  deriving Repr, DecidableEq, Inhabited

/-- The cells of the ideographs that the second edition added. -/
def added : List Nat :=
  [0x2E21, 0x2F7E, 0x4F54, 0x4F7E, 0x7427, 0x7E7A, 0x7E7B, 0x7E7C, 0x7E7D, 0x7E7E]

/-- The characters of a cell in the first plane of JIS X 0213. -/
def firstPlane? (cell : Nat) : Option (List Char) :=
  ((jisX0208.char? cell <|> jisX0213First.char? cell).map fun c => [c]) <|>
    (jisX0213Pairs.lookup cell).map String.toList

/-- The character of a cell in the second plane of JIS X 0213. -/
def secondPlane? (e : Edition) (cell : Nat) : Option Char :=
  if e = .first ∧ cell = 0x7D3B then some '\u9b1d' else jisX0213Second.char? cell

/-- What some characters, if there are any, come to as the reading of so many bytes. -/
def readChars (width : Nat) : Option (List Char) → Reading
  | some cs => .ok (cs, width)
  | none => .error (.illegal 1)

/-- Reads two bytes as a cell of the first plane of JIS X 0213. In the first edition both bytes of an added
ideograph are refused. -/
def readFirstPlane (e : Edition) (cell : Nat) : Reading :=
  if e = .first ∧ cell ∈ added then .error (.illegal 2) else readChars 2 (firstPlane? cell)

/-- The half-width syllable of a byte. -/
def halfWidth? (b : Nat) : Option Char :=
  if 0xA1 ≤ b && b ≤ 0xDF then some (Char.ofNat (0xFF61 + (b - 0xA1))) else none

/-! ## Highest bits set -/

/-- Reads rows and columns with the highest bits set: half-width syllables after one mark, the rows and
columns of `third?` after another, and those of `second` without a mark. -/
def readMarked (second : Nat → Reading) (third? : Nat → Option Char) : List Nat → Reading
  | [] => .error .incomplete
  | a :: rest =>
    let cell (b c : Nat) : Option Nat :=
      if 0x80 ≤ b && 0x80 ≤ c then some ((b - 0x80) * 256 + (c - 0x80)) else none
    if a < 0x80 then .ok ([Char.ofNat a], 1)
    else if a = 0x8F then
      match rest with
      | b :: c :: _ => readChar 3 ((cell b c).bind third?)
      | _ => .error .incomplete
    else
      match rest with
      | [] => .error .incomplete
      | b :: _ =>
        if a = 0x8E then readChar 2 (halfWidth? b)
        else
          match cell a b with
          | some n => second n
          | none => .error (.illegal 1)

/-- Reads JIS X 0208 and JIS X 0212. -/
def readEucJp : List Nat → Reading :=
  readMarked (fun n => readChar 2 (jisX0208.char? n)) jisX0212.char?

/-- Reads JIS X 0213 with a wide tilde, and with JIS X 0212 in the free cells of the second plane. -/
def readEucJis (e : Edition) : List Nat → Reading :=
  readMarked (fun n => if n = 0x2232 then .ok (['～'], 2) else readFirstPlane e n)
    fun n => secondPlane? e n <|> jisX0212.char? n

/-! ## Folded rows -/

/-- The row, from zero, and the column of two bytes of which a first byte has two rows. -/
def foldedCell? (a b : Nat) : Option (Nat × Nat) :=
  if b < 0x40 || b == 0x7F || 0xFC < b then none
  else
    let row := 2 * (if a < 0xE0 then a - 0x81 else a - 0xC1)
    let column := if b < 0x80 then b - 0x40 else b - 0x41
    if column < 94 then some (row, column + 0x21) else some (row + 1, column - 94 + 0x21)

/-- The cell of two bytes in a single plane. -/
def planeCell? (a b : Nat) : Option Nat :=
  (foldedCell? a b).map fun (row, column) => (row + 0x21) * 256 + column

/-- Whether a byte begins a pair where the first bytes end with `last`. -/
def isLead (last a : Nat) : Bool :=
  (0x81 ≤ a && a ≤ 0x9F) || (0xE0 ≤ a && a ≤ last)

/-- Reads a byte that `single?` knows, or two bytes after a first byte up to `last`. -/
def readFolded (last : Nat) (single? : Nat → Option Char) (pair : Nat → Nat → Reading) :
    List Nat → Reading
  | [] => .error .incomplete
  | a :: rest =>
    match single? a with
    | some c => .ok ([c], 1)
    | none =>
      if isLead last a then
        match rest with
        | [] => .error .incomplete
        | b :: _ => pair a b
      else .error (.illegal 1)

/-- The character of a byte in JIS X 0201, where a yen sign and an overline replace two signs of ASCII. -/
def roman? (a : Nat) : Option Char :=
  if a = 0x5C then some '¥'
  else if a = 0x7E then some '‾'
  else if a < 0x80 then some (Char.ofNat a)
  else none

/-- The single bytes of ASCII and the half-width syllables. -/
def asciiSingle? (a : Nat) : Option Char :=
  if a < 0x80 then some (Char.ofNat a) else halfWidth? a

/-- The single bytes of JIS X 0201. -/
def romanSingle? (a : Nat) : Option Char :=
  roman? a <|> halfWidth? a

/-- Reads JIS X 0208 in folded rows. -/
def readShiftJis : List Nat → Reading :=
  readFolded 0xEA asciiSingle? fun a b => readChar 2 ((planeCell? a b).bind jisX0208.char?)

/-- The row in the second plane of JIS X 0213 of a folded row beyond the first plane; only rows that are in
use have one. -/
def secondPlaneRow (row : Nat) : Nat :=
  if 0x67 ≤ row then row + 0x07
  else if 0x63 ≤ row || row == 0x5F then row - 0x37
  else row - 0x3D

/-- Reads JIS X 0213 in folded rows, where a cell has the backslash that the single bytes lack. -/
def readShiftJis2004 (e : Edition) : List Nat → Reading :=
  readFolded 0xFC romanSingle? fun a b =>
    match foldedCell? a b with
    | none => .error (.illegal 1)
    | some (row, column) =>
      if row < 94 then
        let cell := (row + 0x21) * 256 + column
        if cell = 0x2140 then .ok (['\\'], 2) else readFirstPlane e cell
      else readChar 2 (secondPlane? e (secondPlaneRow row * 256 + column))

/-- The single bytes of code page 932. Four bytes that begin nothing are private characters. -/
def cp932Single? (a : Nat) : Option Char :=
  if a ≤ 0x80 then some (Char.ofNat a)
  else if a = 0xA0 then some '\uf8f0'
  else if 0xFD ≤ a then some (Char.ofNat (0xF8F1 + (a - 0xFD)))
  else halfWidth? a

/-- The private character of two bytes in code page 932, in rows of 188. -/
def cp932Private? (a b : Nat) : Option Char :=
  if 0xF0 ≤ a && a ≤ 0xF9 then
    (foldedCell? a b).map fun (row, column) =>
      Char.ofNat (0xE000 + 188 * (a - 0xF0) + 94 * (row % 2) + (column - 0x21))
  else none

/-- Reads code page 932. -/
def readCp932 : List Nat → Reading :=
  readFolded 0xFC cp932Single? fun a b =>
    readChar 2 (cp932Own.char? (a * 256 + b) <|>
      (if isLead 0xEA a then (planeCell? a b).bind jisX0208.char? else none) <|> cp932Private? a b)

end SolutionSurvey.Japanese
