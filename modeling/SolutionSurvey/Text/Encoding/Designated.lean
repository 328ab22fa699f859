import SolutionSurvey.Text.Encoding.GuoBiao
import SolutionSurvey.Text.Encoding.Japanese
import SolutionSurvey.Text.Encoding.Korean

/-!
# Designated character sets

Seven-bit encodings in which an escape sequence designates a character set for one of three places. Bytes
mean the set in the first place, those after a shift mark the set in the second one, and a single byte
after its own mark the set in the third one.

## Main definitions

* `Designated.CharSet` — the sets, with the escape sequences that name them.
* `Designated.Variant` — an encoding: which sets may be designated, and which marks there are.
* `Designated.step` — what bytes stand for.
-/

namespace SolutionSurvey.Designated

open Multibyte

/-! ## Character sets -/

/-- The sets that may be designated. -/
inductive CharSet where
  | ascii
  | roman
  | halfWidth
  | latin
  | greek
  | jisX0208
  | jisX0208Old
  | jisX0212
  | jisX0213First (e : Japanese.Edition)
  | jisX0213Second
  | gb2312
  | ksX1001
  deriving Repr, DecidableEq, Inhabited

/-- Whether the characters of a set have two bytes. -/
def CharSet.isWide : CharSet → Bool
  | .ascii | .roman | .halfWidth | .latin | .greek => false
  | _ => true

/-- The byte that ends the escape sequences for a set. -/
def CharSet.final : CharSet → Char
  | .ascii => 'B'
  | .roman => 'J'
  | .halfWidth => 'I'
  | .latin => 'A'
  | .greek => 'F'
  | .jisX0208 => 'B'
  | .jisX0208Old => '@'
  | .jisX0212 => 'D'
  | .jisX0213First .first => 'O'
  | .jisX0213First .second => 'Q'
  | .jisX0213Second => 'P'
  | .gb2312 => 'A'
  | .ksX1001 => 'C'

/-- The number of bytes of a character. -/
def CharSet.width (s : CharSet) : Nat :=
  if s.isWide then 2 else 1

/-- What a code means in a set in the first or the second place; the code of a wide set has a row and a
column. Sets of eight bits have their characters in the third place only. -/
def CharSet.chars? (s : CharSet) (code : Nat) : Option (List Char) :=
  let one (c : Option Char) : Option (List Char) := c.map fun c => [c]
  match s with
  | .ascii => some [Char.ofNat code]
  | .roman => one (Japanese.roman? code)
  | .halfWidth => one (Japanese.halfWidth? (code + 0x80))
  | .latin | .greek => none
  | .jisX0208 | .jisX0208Old => one (Japanese.jisX0208.char? code)
  | .jisX0212 => one (Japanese.jisX0212.char? code)
  | .jisX0213First e =>
    if e = .first ∧ code ∈ Japanese.added then none else Japanese.firstPlane? code
  | .jisX0213Second => one (Japanese.jisX0213Second.char? code)
  | .gb2312 => one (GuoBiao.gb2312.char? code)
  | .ksX1001 => one (Korean.ksX1001.char? code)

/-- The Greek characters of the upper half of a byte. -/
def greekUpper : CharTable := [
  (0x00A0, "\u00a0‘’£"), (0x00A6, "¦§¨©"), (0x00AB, "«¬\u00ad"),
  (0x00AF, "―°±²³΄΅Ά·ΈΉΊ»Ό½ΎΏΐΑΒΓΔΕΖΗΘΙΚΛΜΝΞΟΠΡ"),
  (0x00D3, "ΣΤΥΦΧΨΩΪΫάέήίΰαβγδεζηθικλμνξοπρςστυφχψωϊϋόύώ")]

/-- What a byte means in a set in the third place. -/
def CharSet.upperChar? (s : CharSet) (b : Nat) : Option Char :=
  match s with
  | .ascii => if b < 0x80 then some (Char.ofNat b) else none
  | .latin => if b < 0x80 then some (Char.ofNat (b + 0x80)) else none
  | .greek =>
    if 0x80 ≤ b then some (Char.ofNat (b - 0x80))
    else if b < 0x20 then some (Char.ofNat (b + 0x80))
    else greekUpper.char? (b + 0x80)
  | _ => none

/-! ## Encodings -/

/-- An encoding: the sets that may be designated beside ASCII, whether there are shift marks, whether there
is a third place, and whether a set of another edition may be announced. -/
structure Variant where
  sets : List CharSet
  shifts : Bool := false
  third : Bool := false
  announces : Bool := true
  deriving Repr, DecidableEq, Inhabited

/-- The set in each place, whether the second place is shifted in, and whether an unknown escape sequence is
being passed through. -/
structure Places where
  zero : CharSet := .ascii
  one : CharSet := .ascii
  two : CharSet := .ascii
  isShifted : Bool := false
  passes : Bool := false
  deriving Repr, DecidableEq, Inhabited

/-- The byte that begins escape sequences. -/
def escape : Nat := 0x1B

/-- Whether a byte ends an escape sequence. -/
def isFinal (b : Nat) : Bool :=
  0x40 ≤ b && b ≤ 0x5A

/-- The length of the escape sequence of which `done` bytes have been passed. The announcement of another
edition is followed by a sequence of its own, which belongs to it. -/
def sequenceLength (v : Variant) (done : Nat) : List Nat → Except Stop Nat
  | bs =>
    if 16 ≤ done then .error (.illegal 1)
    else
      match bs with
      | [] => .error .incomplete
      | 0x26 :: 0x40 :: rest =>
        if v.announces then
          match rest with
          | [] => .error (if 16 ≤ done + 3 then .illegal 1 else .incomplete)
          | _ :: more => sequenceLength v (done + 3) more
        else .ok (done + 2)
      | b :: rest => if isFinal b then .ok (done + 1) else sequenceLength v (done + 1) rest

/-- The set that a final byte names in an encoding. -/
def Variant.named? (v : Variant) (isWide : Bool) (final : Nat) : Option CharSet :=
  (.ascii :: v.sets).find? fun s => s.isWide == isWide && s.final.toNat == final

/-- The places after an escape sequence, given by its bytes after the first one. -/
def Variant.designate? (v : Variant) (p : Places) (bytes : List Nat) : Option Places :=
  match bytes with
  | [0x24, b] => (v.named? true b).map fun s => { p with zero := s }
  | [0x28, b] => (v.named? false b).map fun s => { p with zero := s }
  | [0x29, b] => (v.named? false b).map fun s => { p with one := s }
  | [0x2E, b] => if v.third then (v.named? false b).map fun s => { p with two := s } else none
  | [0x24, 0x28, b] => (v.named? true b).map fun s => { p with zero := s }
  | [0x24, 0x29, b] => (v.named? true b).map fun s => { p with one := s }
  | [_, _, 0x1B, 0x24, 0x42] =>
    if v.announces then (v.named? true 0x42).map fun s => { p with zero := s } else none
  | _ => none

/-- Reads what begins with an escape: a designation, a single character of the third place, or a sequence
that is passed through. -/
def stepEscape (v : Variant) (p : Places) (rest : List Nat) : Except Stop (Piece Places) :=
  match rest with
  | [] => .error .incomplete
  | b :: more =>
    if b = 0x28 ∨ b = 0x29 ∨ b = 0x24 ∨ b = 0x2E ∨ b = 0x26 then
      match sequenceLength v 1 rest with
      | .error s => .error s
      | .ok n =>
        match v.designate? p (rest.take (n - 1)) with
        | some p => .ok ⟨[], n, p⟩
        | none => .error (.illegal n)
    else if v.third ∧ b = 0x4E then
      match more with
      | [] => .error .incomplete
      | c :: _ =>
        match p.two.upperChar? c with
        | some x => .ok ⟨[x], 3, p⟩
        | none => .error (.illegal 3)
    else .ok ⟨[Char.ofNat escape], 1, { p with passes := true }⟩

/-- Reads a character of a set. -/
def stepSet (s : CharSet) (p : Places) : List Nat → Except Stop (Piece Places)
  | [] => .error .incomplete
  | a :: rest =>
    let result (code : Nat) : Except Stop (Piece Places) :=
      match s.chars? code with
      | some cs => .ok ⟨cs, s.width, p⟩
      | none => .error (.illegal s.width)
    if s.isWide then
      match rest with
      | [] => .error .incomplete
      | b :: _ => result (a * 256 + b)
    else result a

/-- A step of a reading. A line feed ends a shift. -/
def step (v : Variant) : Multibyte.Step Places := fun p bs =>
  match bs with
  | [] => .error .incomplete
  | a :: rest =>
    if p.passes then .ok ⟨[Char.ofNat a], 1, { p with passes := !isFinal a }⟩
    else if a = escape then stepEscape v p rest
    else if a = 0x0F ∧ v.shifts then .ok ⟨[], 1, { p with isShifted := false }⟩
    else if a = 0x0E ∧ v.shifts then .ok ⟨[], 1, { p with isShifted := true }⟩
    else if a = 0x0A then .ok ⟨['\n'], 1, { p with isShifted := false }⟩
    else if a < 0x20 then .ok ⟨[Char.ofNat a], 1, p⟩
    else if 0x80 ≤ a then .error (.illegal 1)
    else stepSet (if p.isShifted then p.one else p.zero) p (a :: rest)

end SolutionSurvey.Designated
