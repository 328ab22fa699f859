import SolutionSurvey.Text.Stream
import SolutionSurvey.Yaml.Token

/-!
# Characters of YAML

The characters of a file come in portions, and the next portion is only read when it is needed. A portion
that cannot be decoded, or that holds a character which may not occur, bars the way to all that follows;
a problem that shows before reading comes there is told instead.

## Main definitions

* `Yaml.isAllowed`, `Yaml.firstRefused` — which characters may occur.
* `Yaml.Source` — the characters that can be read, and what bars the way after them.
* `Yaml.Source.ofBytes` — those of a file.
-/

namespace SolutionSurvey.Yaml

/-- Whether a character may occur in a text. -/
def isAllowed (c : Char) : Bool :=
  let n := c.toNat
  n == 0x09 || n == 0x0A || n == 0x0D || (0x20 ≤ n && n ≤ 0x7E) || n == 0x85 ||
    (0xA0 ≤ n && n ≤ 0xD7FF) || (0xE000 ≤ n && n ≤ 0xFFFD) || 0x10000 ≤ n

/-- The first character that may not occur, with its position. -/
def firstRefused (position : Nat) : List Char → Option (Char × Nat)
  | [] => none
  | c :: rest => if isAllowed c then firstRefused (position + 1) rest else some (c, position)

/-- The characters that can be read, and what bars the way after them, if that is not the end. -/
structure Source where
  chars : List Char
  barrier : Option Fault := none
  deriving Repr, Inhabited

namespace Source

/-- The number of characters in a portion. -/
def portionSize : Nat := 4096

/-- A portion at a position, and what follows it. -/
def withPortion (position : Nat) (portion : List Char) (rest : Source) : Source :=
  match firstRefused position portion with
  | some (c, place) => ⟨[], some (.problem (.unprintable c.toNat place))⟩
  | none => ⟨portion ++ rest.chars, rest.barrier⟩

/-- What a portion that cannot be decoded leaves. -/
def undecodable (d : DecodeFault) : Source :=
  ⟨[], some (.failure (.undecodable d))⟩

/-- The portions of a file from a position on; `fuel` bounds their number. -/
def ofStream : Nat → Nat → TextStream → Source
  | 0, _, _ => ⟨[], none⟩
  | fuel + 1, position, s =>
    match s.read portionSize with
    | .error d => undecodable d
    | .ok (portion, s) =>
      if portion.isEmpty then ⟨[], none⟩
      else withPortion position portion (ofStream fuel (position + portion.length) s)

/-- The characters of a file. The first two portions are read as one. -/
def ofBytes (bs : List UInt8) : Source :=
  let first : Except DecodeFault (List Char × TextStream) := do
    let (a, s) ← TextStream.read portionSize ⟨bs, [], false, [], 0, 0⟩
    let (b, s) ← s.read portionSize
    pure (a ++ b, s)
  match first with
  | .error d => undecodable d
  | .ok (portion, s) => withPortion 0 portion (ofStream (bs.length + 1) portion.length s)

end Source

end SolutionSurvey.Yaml
