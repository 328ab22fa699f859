import SolutionSurvey.Text.Encoding.GuoBiaoTable
import SolutionSurvey.Text.Encoding.Multibyte

/-!
# The encodings of mainland China

GB 2312 has rows and columns of characters. GBK puts signs into its free cells and the other ideographs, in
the order of their code points, around it. GB 18030 fills what is left in two bytes and reaches all other
characters with four bytes. HZ writes GB 2312 in seven bits, between marks.

## Main definitions

* `GuoBiao.readGb2312`, `GuoBiao.readGbk`, `GuoBiao.readGb18030` — what bytes stand for.
* `GuoBiao.stepHz` — what bytes stand for outside and inside the marks.
-/

namespace SolutionSurvey.GuoBiao

open Multibyte

/-! ## Ideographs in the order of their code points -/

/-- The first ideograph. -/
def firstIdeograph : Nat := 0x4E00

/-- The number of ideographs that GBK has in the order of their code points or in GB 2312. -/
def ideographCount : Nat := 20902

/-- Which ideographs GB 2312 has, from the first one on. -/
def ideographMarks : Array Bool :=
  gb2312.foldl (fun marks run => run.2.toList.foldl (fun marks c =>
      if firstIdeograph ≤ c.toNat then marks.setIfInBounds (c.toNat - firstIdeograph) true else marks)
    marks) (Array.replicate ideographCount false)

/-- The ideographs that GB 2312 does not have, in the order of their code points. -/
def otherIdeographs : Array Char :=
  ((List.range ideographCount).filterMap fun n =>
    if ideographMarks[n]? == some false then some (Char.ofNat (firstIdeograph + n)) else none).toArray

/-- What GBK has after them. -/
def compatibleIdeographs : String :=
  "\uf92c\uf979\uf995\uf9e7\uf9f1\ufa0c\ufa0d\ufa0e\ufa0f\ufa11\ufa13" ++
  "\ufa14\ufa18\ufa1f\ufa20\ufa21\ufa23\ufa24\ufa27\ufa28\ufa29"

/-- The place of two bytes among the ideographs that stand around GB 2312: above it in rows of 190, to the
left of it in rows of 96. -/
def ideographPlace? (a b : Nat) : Option Nat :=
  let column := if b < 0x7F then b - 0x40 else b - 0x41
  if b < 0x40 || b == 0x7F || b == 0xFF then none
  else if 0x81 ≤ a && a ≤ 0xA0 then some ((a - 0x81) * 190 + column)
  else if 0xAA ≤ a && a ≤ 0xFE && b ≤ 0xA0 then some (32 * 190 + (a - 0xAA) * 96 + column)
  else none

/-- The ideograph at a place around GB 2312. -/
def ideograph? (place : Nat) : Option Char :=
  otherIdeographs[place]? <|> compatibleIdeographs.toList[place - otherIdeographs.size]?

/-! ## Two bytes -/

/-- The character of two bytes in GBK. Two signs differ from those of GB 2312. -/
def gbkPair? (a b : Nat) : Option Char :=
  let code := a * 256 + b
  if code = 0xA1A4 then some '·'
  else if code = 0xA1AA then some '—'
  else highPair? gb2312 a b <|> gbkSigns.char? code <|> (ideographPlace? a b).bind ideograph?

/-- The private character of two bytes in GB 18030. -/
def privatePair? (a b : Nat) : Option Char :=
  let code := a * 256 + b
  privateRuns.findSome? fun (first, count, char) =>
    if first ≤ code && code < first + count then some (Char.ofNat (char + (code - first))) else none

/-- Reads GB 2312. -/
def readGb2312 : List Nat → Reading :=
  readPair (highPair? gb2312)

/-- Reads GBK. -/
def readGbk : List Nat → Reading :=
  readPair gbkPair?

/-! ## Four bytes -/

/-- The number of the first four-byte code beyond the first plane. -/
def beyondFirstPlane : Nat := 15 * 10 * 126 * 10

/-- The character of four bytes in GB 18030. They are the digits of a number, the second and the fourth one
decimal: the number of a character of the first plane that no shorter code has, or of one beyond it. -/
def fourBytes? (a b c d : Nat) : Option Char :=
  if a < 0x81 || 0xFE < a || c < 0x81 || 0xFE < c || d < 0x30 || 0x39 < d then none
  else
    let n := (((a - 0x81) * 10 + (b - 0x30)) * 126 + (c - 0x81)) * 10 + (d - 0x30)
    if n < 39420 then
      let run := fourByteRuns.foldl (fun best r => if r.1 ≤ n then r else best) (0, 0x80)
      some (Char.ofNat (run.2 + (n - run.1)))
    else if beyondFirstPlane ≤ n && n - beyondFirstPlane + 0x10000 ≤ 0x10FFFF then
      some (Char.ofNat (n - beyondFirstPlane + 0x10000))
    else none

/-- Reads GB 18030. A decimal digit in second place tells that there are four bytes. -/
def readGb18030 : List Nat → Reading
  | a :: b :: rest =>
    if 0x80 ≤ a && 0x30 ≤ b && b ≤ 0x39 then
      match rest with
      | c :: d :: _ => readChar 4 (fourBytes? a b c d)
      | _ => .error .incomplete
    else
      readPair (fun a b => gbkPair? a b <|> gb18030Own.char? (a * 256 + b) <|> privatePair? a b)
        (a :: b :: rest)
  | bs => readPair (fun _ _ => none) bs

/-! ## Seven bits -/

/-- A step of HZ; the state tells whether pairs of bytes are read. A tilde begins a mark: a brace that
begins or ends the pairs, a line end that is left out, or a tilde that stands for itself. -/
def stepHz : Multibyte.Step Bool := fun inPairs bs =>
  match bs with
  | [] => .error .incomplete
  | 0x7E :: rest =>
    match rest, inPairs with
    | [], _ => .error .incomplete
    | 0x7E :: _, false => .ok ⟨['~'], 2, false⟩
    | 0x7B :: _, false => .ok ⟨[], 2, true⟩
    | 0x0A :: _, false => .ok ⟨[], 2, false⟩
    | 0x7D :: _, true => .ok ⟨[], 2, false⟩
    | _, _ => .error (.illegal 1)
  | a :: rest =>
    if 0x80 ≤ a then .error (.illegal 1)
    else if !inPairs then .ok ⟨[Char.ofNat a], 1, false⟩
    else
      match rest with
      | [] => .error .incomplete
      | b :: _ => (readChar 2 (gb2312.char? (a * 256 + b))).map fun r => ⟨r.1, r.2, true⟩

end SolutionSurvey.GuoBiao
