import SolutionSurvey.Text.Blank
import SolutionSurvey.Text.Quoted

/-!
# Paths

Paths as a root and the names below it. Reading a path drops empty segments and single points; a
segment of two points stays until the path is normalized.

## Main definitions

* `FilePath` — the paths, with `FilePath.ofText` and `FilePath.toText`.
* `FilePath.join` — a path read from another one.
* `FilePath.normalize` — without segments of two points.
* `FilePath.name`, `FilePath.stem`, `suffixOf` — the last name and its parts.
* `FilePath.uri` — the address of an absolute path.
-/

namespace SolutionSurvey

/-- A text cut at each occurrence of a character. -/
def splitChars (separator : Char) (cs : List Char) : List (List Char) :=
  cs.splitOn separator

/-- A text cut at each occurrence of a character. -/
def splitText (separator : Char) (s : String) : List String :=
  (splitChars separator s.toList).map String.ofList

/-- A path: a relative one has no leading slash, an absolute one has one, and two lead a path of their
own kind. -/
structure FilePath where
  slashes : Nat
  segments : List String
  deriving Repr, DecidableEq, Inhabited

namespace FilePath

/-- Whether a text holds the null character, which no file name does. -/
def holdsNull (s : String) : Bool :=
  s.toList.contains (Char.ofNat 0)

/-- The segments that a text holds: what stands between slashes, less empty parts and single points. -/
def segmentsOf (s : String) : List String :=
  (splitText '/' s).filter fun p => p != "" && p != "."

/-- The path that a text writes. -/
def ofText (s : String) : FilePath :=
  let lead := (s.toList.takeWhile (· == '/')).length
  ⟨if lead = 2 then 2 else min lead 1, segmentsOf s⟩

/-- The text of a path; a single point for the empty one. -/
def toText (p : FilePath) : String :=
  if p.slashes = 0 ∧ p.segments = [] then "."
  else "".pushn '/' p.slashes ++ "/".intercalate p.segments

/-- The root of the file tree. -/
def root : FilePath := ⟨1, []⟩

/-- Whether a path starts at the root. -/
def isAbsolute (p : FilePath) : Bool :=
  p.slashes != 0

/-- The path `q` read from `p`: an absolute `q` stands by itself. -/
def join (p q : FilePath) : FilePath :=
  if q.isAbsolute then q else { p with segments := p.segments ++ q.segments }

/-- The path with one more name. -/
def child (p : FilePath) (name : String) : FilePath :=
  { p with segments := p.segments ++ [name] }

/-- The path without its last name. -/
def parent (p : FilePath) : FilePath :=
  { p with segments := p.segments.dropLast }

/-- The last name of a path. -/
def name (p : FilePath) : String :=
  p.segments.getLast?.getD ""

/-! ## Normal form -/

/-- One step of normalization on the segments so far, last first: two points take back one name. -/
def dotStep (done : List String) (segment : String) : List String :=
  if segment = "" ∨ segment = "." then done
  else if segment = ".." then done.tail
  else segment :: done

/-- Segments from the root without empty ones, single points and double points. -/
def resolveDots (segments : List String) : List String :=
  (segments.foldl dotStep []).reverse

/-- The normal form of a path that is read from the directory `here`. -/
def normalize (here p : FilePath) : FilePath :=
  let whole := here.join p
  { whole with segments := resolveDots whole.segments }

/-- The way from one path to another one below it. -/
def relativeTo? (p base : FilePath) : Option FilePath :=
  if p.slashes = base.slashes ∧ base.segments.isPrefixOf p.segments then
    some ⟨0, p.segments.drop base.segments.length⟩
  else none

/-! ## Parts of a name -/

/-- The part of a name before its last point and the rest from that point on; the rest is empty when
there is no point or only points come before it. -/
def splitSuffix (name : String) : String × String :=
  let cs := name.toList
  let tail := (cs.reverse.takeWhile (· != '.')).reverse
  let head := (cs.take (cs.length - tail.length)).dropLast
  if tail.length < cs.length && head.any (· != '.') then
    (String.ofList head, String.ofList ('.' :: tail))
  else (name, "")

/-- The last suffix of a name, with its point. -/
def suffixOf (name : String) : String :=
  (splitSuffix name).2

/-- The last name of a path without its last suffix. A point that starts or ends the name starts no
suffix. -/
def stem (p : FilePath) : String :=
  let cs := p.name.toList
  let tail := (cs.reverse.takeWhile (· != '.')).reverse
  let head := (cs.take (cs.length - tail.length)).dropLast
  if tail.length < cs.length && !tail.isEmpty && !head.isEmpty then String.ofList head else p.name

/-! ## Addresses -/

/-- Whether a byte stands for itself in an address. -/
def isPlainByte (b : UInt8) : Bool :=
  let c := Char.ofNat b.toNat
  b < 128 && (c.isAlphanum || c == '_' || c == '.' || c == '-' || c == '~' || c == '/')

/-- The address of an absolute path; other bytes are written as a percent sign and two digits. -/
def uri (p : FilePath) : String :=
  let code (b : UInt8) : String :=
    if isPlainByte b then String.singleton (Char.ofNat b.toNat)
    else "%" ++ String.ofList ((Text.hex 2 b.toNat).toList.map Char.toUpper)
  "file://" ++ String.join (p.toText.toUTF8.toList.map code)

end FilePath

end SolutionSurvey
