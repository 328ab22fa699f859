import SolutionSurvey.Failure
import SolutionSurvey.Text.Digit

/-!
# Escaped text

Bytes that stand for the first 256 characters, with backslash escapes for the others. The plain form knows
the escapes of string literals; the raw form knows only those by code point. Names of characters are not
known. An escape may write half of a surrogate pair.

## Main definitions

* `Escaped.Step` — what stands at the head of some bytes.
* `Encoding.decodeEscaped` — the signs of bytes.
-/

namespace SolutionSurvey

namespace Escaped

/-- What stands at the head of some bytes: signs with the number of their bytes, or a fault with the number of
bytes that it covers and its reason. -/
inductive Step where
  | signs (signs : List Sign) (count : Nat)
  | fault (count : Nat) (reason : String)
  deriving Repr, DecidableEq, Inhabited

/-- The name of the encoding in messages. -/
def name (raw : Bool) : String :=
  if raw then "rawunicodeescape" else "unicodeescape"

/-- The value of a hexadecimal digit. -/
def hexDigit? (b : UInt8) : Option Nat :=
  Text.hexDigit? (Char.ofNat b.toNat)

/-- An escape by code point with `count` digits after two bytes. -/
def codePoint (count : Nat) (incomplete beyond : String) (rest : List UInt8) : Step :=
  let digits := ((rest.take count).map hexDigit?).takeWhile Option.isSome |>.filterMap id
  if digits.length < count then .fault (2 + digits.length) incomplete
  else
    let n := digits.foldl (fun n d => n * 16 + d) 0
    if n < 0x110000 then .signs [.ofCode n] (2 + count) else .fault (2 + count) beyond

/-- The letters that stand for control characters. -/
def letters : List (Char × Nat) :=
  [('\\', 0x5C), ('\'', 0x27), ('"', 0x22), ('b', 8), ('f', 12), ('t', 9), ('n', 10), ('r', 13), ('v', 11),
    ('a', 7)]

/-- An escape by the name of a character, after two bytes. -/
def named (rest : List UInt8) : Step :=
  match rest with
  | 0x7B :: more =>
    let inside := more.takeWhile (· != 0x7D)
    if inside.length = more.length then .fault (3 + inside.length) "malformed \\N character escape"
    else if inside.isEmpty then .fault 3 "malformed \\N character escape"
    else .fault (4 + inside.length) "unknown Unicode character name"
  | _ => .fault 2 "malformed \\N character escape"

/-- An escape of the plain form, whose byte after the backslash is `b`. -/
def plainEscape (b : UInt8) (rest : List UInt8) : Step :=
  let c := Char.ofNat b.toNat
  let beyond := "illegal Unicode character"
  if c = '\n' then .signs [] 2
  else if c = 'x' then codePoint 2 "truncated \\xXX escape" beyond rest
  else if c = 'u' then codePoint 4 "truncated \\uXXXX escape" beyond rest
  else if c = 'U' then codePoint 8 "truncated \\UXXXXXXXX escape" beyond rest
  else if c = 'N' then named rest
  else
    match letters.lookup c with
    | some n => .signs [.char (Char.ofNat n)] 2
    | none =>
      let digits := ((b :: rest).take 3).takeWhile fun d => 0x30 ≤ d && d < 0x38
      if digits.isEmpty then .signs [.char '\\', .char c] 2
      else
        let n := digits.foldl (fun n d => n * 8 + (d.toNat - 0x30)) 0
        .signs [.char (Char.ofNat n)] (1 + digits.length)

/-- An escape of the raw form, whose byte after the backslash is `b`. -/
def rawEscape (b : UInt8) (rest : List UInt8) : Step :=
  let c := Char.ofNat b.toNat
  let beyond := "\\Uxxxxxxxx out of range"
  if c = 'u' then codePoint 4 "truncated \\uXXXX escape" beyond rest
  else if c = 'U' then codePoint 8 "truncated \\UXXXXXXXX escape" beyond rest
  else .signs [.char '\\', .char c] 2

/-- What stands at the head of some bytes, the first of which is `b`. -/
def first (raw : Bool) (b : UInt8) (rest : List UInt8) : Step :=
  if b != 0x5C then .signs [.char (Char.ofNat b.toNat)] 1
  else
    match rest with
    | [] => if raw then .signs [.char '\\'] 1 else .fault 1 "\\ at end of string"
    | c :: more => if raw then rawEscape c more else plainEscape c more

/-- Decodes the bytes from position `pos` on, which the signs `done` precede, last first. -/
def decodeFrom (raw : Bool) (fuel pos : Nat) (done : List Sign) (bs : List UInt8) :
    Except DecodeFault (List Sign) :=
  match fuel, bs with
  | 0, _ => .ok done.reverse
  | _, [] => .ok done.reverse
  | fuel + 1, b :: rest =>
    match first raw b rest with
    | .signs signs count => decodeFrom raw fuel (pos + count) (signs.reverse ++ done) (rest.drop (count - 1))
    | .fault count reason => .error ⟨name raw, b, pos, pos + count, reason⟩

end Escaped

/-- Decodes escaped text. -/
def Encoding.decodeEscaped (raw : Bool) (bs : List UInt8) : Except DecodeFault (List Sign) :=
  Escaped.decodeFrom raw bs.length 0 [] bs

end SolutionSurvey
