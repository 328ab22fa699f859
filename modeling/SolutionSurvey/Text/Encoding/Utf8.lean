import SolutionSurvey.Failure

/-!
# UTF-8

Sequences of one to four bytes for a character. A fault covers the bytes of a sequence that are in order,
and says whether the next one is wrong or missing.

## Main definitions

* `Encoding.sequenceLength`, `Encoding.goodTail`, `Encoding.sequenceValue` — single sequences.
* `Encoding.decodeUtf8` — the characters of bytes.
* `Encoding.decodeUtf8Signed` — the same after a byte order mark.
-/

namespace SolutionSurvey

namespace Encoding

/-- Whether a byte continues a sequence. -/
def isContinuation (b : UInt8) : Bool :=
  0x80 ≤ b && b < 0xC0

/-- Whether the second byte of a sequence may follow its first one: no overlong forms, no surrogates,
nothing beyond the last plane. -/
def mayFollow (first second : UInt8) : Bool :=
  isContinuation second &&
    !(first == 0xE0 && second < 0xA0) && !(first == 0xED && 0xA0 ≤ second) &&
    !(first == 0xF0 && second < 0x90) && !(first == 0xF4 && 0x90 ≤ second)

/-- The number of bytes of a sequence that starts with this byte; zero if none does. -/
def sequenceLength (first : UInt8) : Nat :=
  if first < 0x80 then 1 else if first < 0xC2 then 0 else if first < 0xE0 then 2
  else if first < 0xF0 then 3 else if first < 0xF5 then 4 else 0

/-- How many of the bytes after the first one are in order, out of `count`. -/
def goodTail (first : UInt8) (count : Nat) (rest : List UInt8) : Nat :=
  match count, rest with
  | 0, _ => 0
  | _, [] => 0
  | n + 1, b :: more =>
    if mayFollow first b then 1 + ((more.take n).takeWhile isContinuation).length else 0

/-- The code point of a whole sequence. -/
def sequenceValue (first : UInt8) (tail : List UInt8) : Nat :=
  let lead := match tail.length with
    | 0 => first.toNat
    | 1 => first.toNat % 32
    | 2 => first.toNat % 16
    | _ => first.toNat % 8
  tail.foldl (fun n b => n * 64 + b.toNat % 64) lead

/-- Decodes the bytes from position `pos` on, which `done` characters precede, last first. -/
def decodeUtf8From (fuel pos : Nat) (done : List Char) (bs : List UInt8) :
    Except DecodeFault (List Char) :=
  match fuel, bs with
  | 0, _ => .ok done.reverse
  | _, [] => .ok done.reverse
  | fuel + 1, b :: rest =>
    let fault (count : Nat) (reason : String) : Except DecodeFault (List Char) :=
      .error ⟨"utf-8", b, pos, pos + count, reason⟩
    match sequenceLength b with
    | 0 => fault 1 "invalid start byte"
    | len + 1 =>
      let good := goodTail b len rest
      if good = len then
        decodeUtf8From fuel (pos + len + 1) (Char.ofNat (sequenceValue b (rest.take len)) :: done)
          (rest.drop len)
      else if good = rest.length then fault (good + 1) "unexpected end of data"
      else fault (good + 1) "invalid continuation byte"

/-- Decodes UTF-8. -/
def decodeUtf8 (bs : List UInt8) : Except DecodeFault (List Char) :=
  decodeUtf8From bs.length 0 [] bs

/-- Decodes UTF-8 after a byte order mark, if there is one. Positions count from after the mark, and the
beginning of a mark by itself reads as nothing. -/
def decodeUtf8Signed (bs : List UInt8) : Except DecodeFault (List Char) :=
  match bs with
  | 0xEF :: 0xBB :: 0xBF :: rest => decodeUtf8 rest
  | [0xEF] => .ok []
  | [0xEF, 0xBB] => .ok []
  | _ => decodeUtf8 bs

end Encoding

end SolutionSurvey
