import SolutionSurvey.Failure

/-!
# Wide units

Encodings in units of sixteen or thirty-two bits, with the first byte of a unit at either end. Without a
known order a byte order mark has to tell it.

## Main definitions

* `ByteOrder`, `UnitWidth` — the forms of units.
* `Encoding.decodeUnits` — the characters of bytes in units of a known order.
* `Encoding.decodeMarked` — the same with the order told by a mark.
-/

namespace SolutionSurvey

/-- The end at which the first byte of a unit stands. -/
inductive ByteOrder where
  | little
  | big
  deriving Repr, DecidableEq, Inhabited

/-- The width of a unit in bits. -/
inductive UnitWidth where
  | sixteen
  | thirtyTwo
  deriving Repr, DecidableEq, Inhabited

namespace ByteOrder

/-- The number that the bytes of a unit stand for. -/
def number (o : ByteOrder) (bs : List UInt8) : Nat :=
  let ordered := match o with
    | .big => bs
    | .little => bs.reverse
  ordered.foldl (fun n b => n * 256 + b.toNat) 0

/-- The end of the names of encodings with this order. -/
def tag : ByteOrder → String
  | .little => "le"
  | .big => "be"

end ByteOrder

namespace UnitWidth

/-- The number of bytes of a unit. -/
def bytes : UnitWidth → Nat
  | .sixteen => 2
  | .thirtyTwo => 4

/-- The name of the encoding without its order. -/
def label : UnitWidth → String
  | .sixteen => "utf-16"
  | .thirtyTwo => "utf-32"

/-- The name of the encoding with an order. -/
def nameIn (w : UnitWidth) (o : ByteOrder) : String :=
  w.label ++ "-" ++ o.tag

end UnitWidth

namespace Encoding

/-- The character that sixteen-bit units start with and the number of its bytes, or the fault there: the
number of bytes that it covers and its reason. -/
def firstOf16 (o : ByteOrder) (bs : List UInt8) : Except (Nat × String) (Char × Nat) :=
  if bs.length < 2 then .error (bs.length, "truncated data")
  else
    let n := o.number (bs.take 2)
    if n < 0xD800 ∨ 0xE000 ≤ n then .ok (Char.ofNat n, 2)
    else if 0xDC00 ≤ n then .error (2, "illegal encoding")
    else if bs.length < 4 then .error (bs.length, "unexpected end of data")
    else
      let m := o.number ((bs.drop 2).take 2)
      if 0xDC00 ≤ m ∧ m < 0xE000 then
        .ok (Char.ofNat (0x10000 + (n - 0xD800) * 0x400 + (m - 0xDC00)), 4)
      else .error (2, "illegal UTF-16 surrogate")

/-- The same for thirty-two-bit units. -/
def firstOf32 (o : ByteOrder) (bs : List UInt8) : Except (Nat × String) (Char × Nat) :=
  if bs.length < 4 then .error (bs.length, "truncated data")
  else
    let n := o.number (bs.take 4)
    if 0xD800 ≤ n ∧ n < 0xE000 then .error (4, "code point in surrogate code point range(0xd800, 0xe000)")
    else if 0x110000 ≤ n then .error (4, "code point not in range(0x110000)")
    else .ok (Char.ofNat n, 4)

/-- The first character of units and the number of its bytes. -/
def firstUnit (w : UnitWidth) (o : ByteOrder) (bs : List UInt8) :
    Except (Nat × String) (Char × Nat) :=
  match w with
  | .sixteen => firstOf16 o bs
  | .thirtyTwo => firstOf32 o bs

/-- Decodes units from position `pos` on, which `done` characters precede, last first. -/
def decodeUnitsFrom (w : UnitWidth) (o : ByteOrder) (fuel pos : Nat) (done : List Char)
    (bs : List UInt8) : Except DecodeFault (List Char) :=
  match fuel, bs with
  | 0, _ => .ok done.reverse
  | _, [] => .ok done.reverse
  | fuel + 1, b :: rest =>
    match firstUnit w o (b :: rest) with
    | .ok (c, count) =>
      decodeUnitsFrom w o fuel (pos + count) (c :: done) (rest.drop (count - 1))
    | .error (count, reason) => .error ⟨w.nameIn o, b, pos, pos + count, reason⟩

/-- Decodes units of a known order, from position `start` on. -/
def decodeUnits (w : UnitWidth) (o : ByteOrder) (start : Nat) (bs : List UInt8) :
    Except DecodeFault (List Char) :=
  decodeUnitsFrom w o bs.length start [] bs

/-- The order that a byte order mark tells. -/
def markedOrder? (w : UnitWidth) (bs : List UInt8) : Option ByteOrder :=
  let mark := bs.take w.bytes
  [ByteOrder.little, .big].find? fun o => mark.length == w.bytes && o.number mark == 0xFEFF

/-- Decodes units whose order a mark tells. Without a mark the bytes are still looked at, little end
first, so that a fault among them is found before the missing mark. -/
def decodeMarked (w : UnitWidth) (bs : List UInt8) : Except Failure (List Char) :=
  match markedOrder? w bs with
  | some o => (decodeUnits w o w.bytes (bs.drop w.bytes)).mapError .undecodable
  | none =>
    match decodeUnits w .little 0 bs with
    | .error d => .error (.undecodable d)
    | .ok [] => .ok []
    | .ok _ => .error (.malformedText (w.label.map Char.toUpper ++ " stream does not start with BOM"))

end Encoding

end SolutionSurvey
