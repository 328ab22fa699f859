import SolutionSurvey.Failure

/-!
# Characters of several bytes

Encodings in which a character takes a varying number of bytes are read by a step that says what the bytes
at some place stand for and how many of them it took. A step may keep a state from one place to the next.

## Main definitions

* `CharTable` — characters by their codes.
* `Multibyte.Stop`, `Multibyte.Piece` — what a step may come to.
* `Multibyte.decodeFrom` — all characters of some bytes, step by step.
-/

namespace SolutionSurvey

/-- Characters by their codes: runs of characters with consecutive codes, each with its first code. The
codes of a run have the same upper byte. -/
abbrev CharTable := List (Nat × String)

/-- The character of a code. -/
def CharTable.char? (t : CharTable) (code : Nat) : Option Char :=
  t.findSome? fun run =>
    if run.1 ≤ code && run.1 / 256 == code / 256 then run.2.toList[code - run.1]? else none

namespace Multibyte

/-- Why bytes are no character: the first ones belong to none, or there are too few of them. -/
inductive Stop where
  | illegal (width : Nat)
  | incomplete
  deriving Repr, DecidableEq, Inhabited

/-- What the bytes at some place stand for, how many of them it took, and the state after them. -/
structure Piece (σ : Type) where
  chars : List Char
  width : Nat
  state : σ
  deriving Repr, DecidableEq, Inhabited

/-- A step of a reading that keeps a state. -/
abbrev Step (σ : Type) := σ → List Nat → Except Stop (Piece σ)

/-- What the bytes at some place stand for where there is no state. -/
abbrev Reading := Except Stop (List Char × Nat)

/-- A reading without a state as a step. -/
def stateless (read : List Nat → Reading) : Step Unit := fun _ bs =>
  (read bs).map fun r => ⟨r.1, r.2, ()⟩

/-- The characters of the bytes from position `pos` on, the first `skip` of which have been read. -/
def decodeFrom {σ : Type} (name : String) (step : Step σ) (state : σ) (pos skip : Nat) :
    List Nat → Except DecodeFault (List Char)
  | [] => .ok []
  | b :: rest =>
    match skip with
    | skip + 1 => decodeFrom name step state (pos + 1) skip rest
    | 0 =>
      match step state (b :: rest) with
      | .ok p => (decodeFrom name step p.state (pos + 1) (p.width - 1) rest).map (p.chars ++ ·)
      | .error (.illegal width) =>
        .error ⟨name, UInt8.ofNat b, pos, pos + width, "illegal multibyte sequence"⟩
      | .error .incomplete =>
        .error ⟨name, UInt8.ofNat b, pos, pos + rest.length + 1, "incomplete multibyte sequence"⟩

/-- What a character, if there is one, comes to as the reading of so many bytes. -/
def readChar (width : Nat) : Option Char → Reading
  | some c => .ok ([c], width)
  | none => .error (.illegal 1)

/-- Reads a byte of ASCII, or two bytes as `pair` says. -/
def readPair (pair : Nat → Nat → Option Char) : List Nat → Reading
  | [] => .error .incomplete
  | a :: rest =>
    if a < 0x80 then .ok ([Char.ofNat a], 1)
    else
      match rest with
      | [] => .error .incomplete
      | b :: _ => readChar 2 (pair a b)

/-- The character of a table of rows and columns whose two bytes have their highest bits set. -/
def highPair? (t : CharTable) (a b : Nat) : Option Char :=
  if 0x80 ≤ a && 0x80 ≤ b then t.char? ((a - 0x80) * 256 + (b - 0x80)) else none

end Multibyte

end SolutionSurvey
