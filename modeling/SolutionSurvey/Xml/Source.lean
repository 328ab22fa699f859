import SolutionSurvey.Text.Encoding
import SolutionSurvey.Xml.NameChar

/-!
# The characters of a document

The bytes of a document as characters, up to the first place where they stop making sense. The encoding
is found from the first bytes; a declaration may replace it for what follows.

## Main definitions

* `Xml.Ending` — how the readable part of a document ends.
* `Xml.Charset` — the encodings of documents.
* `Xml.Source` — a readable part and its ending.
* `Xml.detect` — the encoding that the first bytes show.
-/

namespace SolutionSurvey.Xml

/-- How the readable part of a document ends. -/
inductive Ending where
  /-- With the last byte. -/
  | clean
  /-- With bytes that no character has, though the first one may begin the bytes of some character. -/
  | malformed (beginsLong : Bool)
  /-- In the middle of a character. -/
  | truncated
  /-- With half of a sixteen-bit unit. -/
  | odd
  deriving Repr, DecidableEq, Inhabited

/-- Whether bytes that are no character follow the readable part. -/
def Ending.isBroken : Ending → Bool
  | .malformed _ | .truncated => true
  | _ => false

/-- Whether what follows the readable part looks like the beginning of a character of several bytes. -/
def Ending.beginsLong : Ending → Bool
  | .malformed b => b
  | .truncated => true
  | _ => false

/-- The encodings of documents; `single` is any encoding of one byte for one character. -/
inductive Charset where
  | utf8
  | utf16 (big : Bool)
  | single (letters : Letters) (chars : UInt8 → Option Char)

/-- What counts as a letter in an encoding. -/
def Charset.letters : Charset → Letters
  | .utf8 => .listed
  | .utf16 _ => .withSigns
  | .single letters _ => letters

/-- The least number of bytes of a character. -/
def Charset.unit : Charset → Nat
  | .utf16 _ => 2
  | _ => 1

/-- The readable part of some bytes, its ending, and the number of bytes after it. -/
structure Source where
  chars : List Char
  ending : Ending
  left : Nat
  deriving Repr, Inhabited

/-! ## Decoding -/

/-- Whether a byte begins a character of several bytes in UTF-8, as far as it can tell. -/
def beginsLong (b : UInt8) : Bool :=
  0xC0 ≤ b && b ≤ 0xF4

/-- The readable part of UTF-8. -/
def readUtf8 : Nat → List Char → List UInt8 → Source
  | 0, done, bs => ⟨done.reverse, .clean, bs.length⟩
  | _, done, [] => ⟨done.reverse, .clean, 0⟩
  | fuel + 1, done, b :: rest =>
    let stop (e : Ending) : Source := ⟨done.reverse, e, rest.length + 1⟩
    match Encoding.sequenceLength b with
    | 0 => stop (.malformed (beginsLong b))
    | len + 1 =>
      if rest.length < len then stop .truncated
      else if Encoding.goodTail b len rest = len then
        let c := Char.ofNat (Encoding.sequenceValue b (rest.take len))
        if isLegal c then readUtf8 fuel (c :: done) (rest.drop len)
        else stop (.malformed (beginsLong b))
      else stop (.malformed (beginsLong b))

/-- The readable part of sixteen-bit units. -/
def readUtf16 (big : Bool) : Nat → List Char → List UInt8 → Source
  | 0, done, bs => ⟨done.reverse, .clean, bs.length⟩
  | _, done, [] => ⟨done.reverse, .clean, 0⟩
  | _, done, [_] => ⟨done.reverse, .odd, 1⟩
  | fuel + 1, done, a :: b :: rest =>
    let stop (e : Ending) : Source := ⟨done.reverse, e, rest.length + 2⟩
    let unit (a b : UInt8) : Nat :=
      if big then a.toNat * 256 + b.toNat else b.toNat * 256 + a.toNat
    let n := unit a b
    if n < 0xD800 ∨ 0xE000 ≤ n then
      if isLegal (Char.ofNat n) then readUtf16 big fuel (Char.ofNat n :: done) rest
      else stop (.malformed false)
    else if 0xDC00 ≤ n then stop (.malformed false)
    else
      match rest with
      | c :: d :: more =>
        let m := unit c d
        readUtf16 big fuel (Char.ofNat (0x10000 + (n - 0xD800) * 0x400 + (m - 0xDC00)) :: done) more
      | _ => stop .truncated

/-- The readable part of an encoding of one byte for one character. -/
def readSingle (chars : UInt8 → Option Char) : List Char → List UInt8 → Source
  | done, [] => ⟨done.reverse, .clean, 0⟩
  | done, b :: rest =>
    match (chars b).filter isLegal with
    | some c => readSingle chars (c :: done) rest
    | none => ⟨done.reverse, .malformed false, rest.length + 1⟩

/-- The readable part of some bytes. -/
def Charset.read (c : Charset) (bs : List UInt8) : Source :=
  match c with
  | .utf8 => readUtf8 bs.length [] bs
  | .utf16 big => readUtf16 big (bs.length + 1) [] bs
  | .single _ chars => readSingle chars [] bs

/-- The number of bytes of a character. -/
def Charset.width (c : Charset) (x : Char) : Nat :=
  match c with
  | .utf8 => x.utf8Size
  | .utf16 _ => if x.toNat ≤ 0xFFFF then 2 else 4
  | .single _ _ => 1

/-- Whether a character is one of those that are told by more than their first unit. -/
def Charset.isLong (c : Charset) (x : Char) : Bool :=
  match c with
  | .utf8 => 0x80 ≤ x.toNat
  | .utf16 _ => 0x100 ≤ x.toNat
  | .single _ _ => false

/-! ## Layout

A token is told by units and not by characters, so it matters where a character of several units could
stand and how many units are left. -/

/-- How a text lies in units: what counts as a letter in it, the units of a character, whether a
character is told by more than its first unit, how the text ends, and the number of units after it. -/
structure Layout where
  letters : Letters
  units : Char → Nat
  isLong : Char → Bool
  ending : Ending
  left : Nat

/-- The layout of a document. -/
def Charset.layout (c : Charset) (ending : Ending) (left : Nat) : Layout :=
  ⟨c.letters, fun x => c.width x / c.unit, c.isLong, ending, left / c.unit⟩

/-- The layout of the content of an entity. -/
def Layout.inner : Layout :=
  Charset.utf8.layout .clean 0

/-! ## Detection -/

/-- The encoding that the first bytes show: by a byte order mark, or by a zero next to the first
character. -/
def detect : List UInt8 → Charset
  | 0xFE :: 0xFF :: _ => .utf16 true
  | 0xFF :: 0xFE :: _ => .utf16 false
  | 0x00 :: _ :: _ => .utf16 true
  | _ :: 0x00 :: _ => .utf16 false
  | _ => .utf8

/-- What the name of an encoding in a declaration stands for. -/
inductive Declared where
  /-- An encoding that documents have by themselves. -/
  | known (c : Charset)
  /-- An encoding of one byte for one character that is brought in from outside. -/
  | foreign (chars : UInt8 → Option Char)
  /-- Sixteen-bit units in whichever order the document has. -/
  | sameOrder
  /-- An encoding in which markup cannot be found. -/
  | unusable

/-- The seven-bit characters only. -/
def asciiChar? (b : UInt8) : Option Char :=
  if b < 128 then some (Char.ofNat b.toNat) else none

/-- Whether a byte stands for a blank, a letter, a digit or a sign of markup in ASCII. -/
def isMark (n : Nat) : Bool :=
  n == 9 || n == 10 || n == 13 ||
    (0x20 ≤ n && n < 0x7F && "$@\\^`\x7b\x7d~".toList.all fun c => c.toNat != n)

/-- Whether markup can be found in an encoding: what markup is made of stands where ASCII has it and
nowhere else, and no character lies beyond the first plane. -/
def isUsable (chars : UInt8 → Option Char) : Bool :=
  (List.range 256).all fun n =>
    match chars (UInt8.ofNat n) with
    | none => !isMark n
    | some c => c.toNat ≤ 0xFFFF && (c.toNat == n || !(isMark n || isMark c.toNat))

/-- The encoding that a declaration names. -/
def declared (name : String) : Except Failure Declared :=
  let n := String.ofList (name.toList.map Char.toUpper)
  if n = "UTF-8" then .ok (.known .utf8)
  else if n = "UTF-16" then .ok .sameOrder
  else if n = "UTF-16BE" then .ok (.known (.utf16 true))
  else if n = "UTF-16LE" then .ok (.known (.utf16 false))
  else if n = "ISO-8859-1" then .ok (.known (.single .withSigns fun b => some (Char.ofNat b.toNat)))
  else if n = "US-ASCII" then .ok (.known (.single .listed asciiChar?))
  else
    match Encoding.find "codecs.decode()" name with
    | .error f => .error f
    | .ok e =>
      match e.refusal? name with
      | some f => .error f
      | none =>
        match e.single? with
        | none => .error (.value .multiByte)
        | some chars => .ok (if isUsable chars then .foreign chars else .unusable)

end SolutionSurvey.Xml
