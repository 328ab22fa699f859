import SolutionSurvey.Failure
import SolutionSurvey.Text.Base64

/-!
# UTF-7

Seven-bit text in which a plus sign opens a run of sixteen-bit units in base 64. A minus sign that closes a
run belongs to it; any other character closes it and stands for itself. A unit that is half of a pair and has
no other half stays a half.

## Main definitions

* `Utf7.Run`, `Utf7.State` — the state inside a run, and where a byte stands.
* `Encoding.decodeUtf7` — the signs of bytes.
-/

namespace SolutionSurvey

namespace Utf7

/-- The state inside a run: where it started, the bits that make no unit yet, and the first half of a
character of two units. -/
structure Run where
  start : Nat
  bits : Nat := 0
  count : Nat := 0
  half : Option Nat := none
  deriving Repr, DecidableEq, Inhabited

/-- The value of a digit of base 64. -/
def digit? (b : UInt8) : Option Nat :=
  Text.Base64.letter? (Char.ofNat b.toNat)

/-- A whole unit read after what is pending: the signs that it completes, last first, and the half that it
leaves pending. -/
def unit (half : Option Nat) (n : Nat) : List Sign × Option Nat :=
  let single : List Sign × Option Nat :=
    if 0xD800 ≤ n ∧ n < 0xDC00 then ([], some n) else ([.ofCode n], none)
  match half with
  | none => single
  | some h =>
    if 0xDC00 ≤ n ∧ n < 0xE000 then
      ([.char (Char.ofNat (0x10000 + (h - 0xD800) * 0x400 + (n - 0xDC00)))], none)
    else (single.1 ++ [.ofCode h], single.2)

/-- One more digit of a run: the signs that it completes, last first, and the run after it. -/
def Run.push (r : Run) (digit : Nat) : List Sign × Run :=
  let bits := r.bits * 64 + digit
  let count := r.count + 6
  if count < 16 then ([], { r with bits, count })
  else
    let rest := Nat.pow 2 (count - 16)
    let (cs, half) := unit r.half (bits / rest)
    (cs, { r with bits := bits % rest, count := count - 16, half })

/-- Why a run may not end here. -/
def Run.fault? (r : Run) : Option String :=
  if 6 ≤ r.count then some "partial character in shift sequence"
  else if r.bits ≠ 0 then some "non-zero padding bits in shift sequence"
  else none

/-- Whether a run may not end with the text. -/
def Run.isUnfinished (r : Run) : Bool :=
  r.half.isSome || 6 ≤ r.count || r.bits != 0

/-- Where a byte stands: outside a run, right after the plus sign at a position, or inside a run. -/
inductive State where
  | outside
  | opened (start : Nat)
  | inside (r : Run)
  deriving Repr, DecidableEq, Inhabited

/-- A byte outside a run, at a position. -/
def stepOutside (pos : Nat) (b : UInt8) : Except DecodeFault (List Sign × State) :=
  if b == 0x2B then .ok ([], .opened pos)
  else if b < 128 then .ok ([.char (Char.ofNat b.toNat)], .outside)
  else .error ⟨"utf7", b, pos, pos + 1, "unexpected special character"⟩

/-- A byte at a position: the signs that it completes, last first, and where the next byte stands. -/
def step (pos : Nat) (b : UInt8) : State → Except DecodeFault (List Sign × State)
  | .outside => stepOutside pos b
  | .opened start =>
    if b == 0x2D then .ok ([.char '+'], .outside)
    else
      match digit? b with
      | some d =>
        let (cs, r) := (⟨start, 0, 0, none⟩ : Run).push d
        .ok (cs, .inside r)
      | none => .error ⟨"utf7", 0x2B, start, pos + 1, "ill-formed sequence"⟩
  | .inside r =>
    match digit? b with
    | some d =>
      let (cs, r) := r.push d
      .ok (cs, .inside r)
    | none =>
      match r.fault? with
      | some reason => .error ⟨"utf7", 0x2B, r.start, pos + 1, reason⟩
      | none =>
        let half := if b < 128 then r.half.toList.map Sign.ofCode else []
        if b == 0x2D then .ok (half, .outside)
        else (stepOutside pos b).map fun (cs, s) => (cs ++ half, s)

/-- Decodes the bytes from position `pos` on, which the signs `done` precede, last first. -/
def decodeFrom (pos : Nat) (state : State) (done : List Sign) :
    List UInt8 → Except DecodeFault (List Sign)
  | [] =>
    match state with
    | .inside r =>
      if r.isUnfinished then .error ⟨"utf7", 0x2B, r.start, pos, "unterminated shift sequence"⟩
      else .ok done.reverse
    | _ => .ok done.reverse
  | b :: rest =>
    match step pos b state with
    | .error f => .error f
    | .ok (cs, state) => decodeFrom (pos + 1) state (cs ++ done) rest

end Utf7

/-- Decodes UTF-7. -/
def Encoding.decodeUtf7 (bs : List UInt8) : Except DecodeFault (List Sign) :=
  Utf7.decodeFrom 0 .outside [] bs

end SolutionSurvey
