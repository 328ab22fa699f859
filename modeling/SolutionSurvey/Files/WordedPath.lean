import SolutionSurvey.Failure
import SolutionSurvey.Files.Path

/-!
# Paths that settings write

The names of a path in the settings may have halves. Such a path is read and written as any other one. In a
file tree a half stands for a byte of a name that is not written in UTF-8.

## Main definitions

* `WordedPath` — the paths, with `WordedPath.ofWording` and `WordedPath.toWording`.
* `Wording.fileName`, `WordedPath.inTree` — names and paths in a file tree.
* `WordedPath.nameFault?` — why nothing can be opened by a path.
-/

namespace SolutionSurvey

/-- The name in a file tree that a text stands for. No name has a slash, so one can tell that the character
after it, which is for private use, stands for a half. -/
def Wording.fileName (w : Wording) : String :=
  w.spelled fun h => String.ofList ['/', Char.ofNat (0xE000 + h.place)]

/-- A path whose names may have halves. Its slashes are those of a path without halves. -/
structure WordedPath where
  slashes : Nat
  segments : List Wording
  deriving Repr, DecidableEq, Inhabited

namespace WordedPath

instance : Coe FilePath WordedPath := ⟨fun p => ⟨p.slashes, p.segments.map .plain⟩⟩

/-- The path in a file tree. -/
def inTree (p : WordedPath) : FilePath :=
  ⟨p.slashes, p.segments.map Wording.fileName⟩

/-- The segments that some signs hold: what stands between slashes, less empty parts and single points. -/
def segmentsOf (signs : List Sign) : List Wording :=
  ((signs.splitOn (.char '/')).map Wording.ofSigns).filter fun p => p != .plain "" && p != .plain "."

/-- The path that a text writes. -/
def ofWording (w : Wording) : WordedPath :=
  let lead := (w.signs.takeWhile (· == .char '/')).length
  ⟨if lead = 2 then 2 else min lead 1, segmentsOf w.signs⟩

/-- The text of a path; a single point for the empty one. -/
def toWording (p : WordedPath) : Wording :=
  if p.slashes = 0 ∧ p.segments = [] then .plain "."
  else .ofSigns (List.replicate p.slashes (.char '/') ++
    [.char '/'].intercalate (p.segments.map Wording.signs))

/-- The same path, if its text has no halves. -/
def plain? (p : WordedPath) : Option FilePath :=
  p.toWording.plain?.map FilePath.ofText

/-- Whether a path starts at the root. -/
def isAbsolute (p : WordedPath) : Bool :=
  p.slashes != 0

/-- The path without its last name. -/
def parent (p : WordedPath) : WordedPath :=
  { p with segments := p.segments.dropLast }

/-- One step of normalization on the segments so far, last first: two points take back one name. -/
def dotStep (done : List Wording) (segment : Wording) : List Wording :=
  if segment = .plain "" ∨ segment = .plain "." then done
  else if segment = .plain ".." then done.tail
  else segment :: done

/-- The normal form of a path that is read from the directory `here`. -/
def normalize (here : FilePath) (p : WordedPath) : WordedPath :=
  let whole : WordedPath := if p.isAbsolute then p else ⟨here.slashes, here.segments.map .plain ++ p.segments⟩
  { whole with segments := (whole.segments.foldl dotStep []).reverse }

/-- Why nothing can be opened by the name of a path, whatever there is: some half stands for no byte, or the
path has a null character. -/
def nameFault? (p : WordedPath) : Option Failure :=
  let text := p.toWording
  match text.nameFault? with
  | some e => some (.unencodable e)
  | none => if text.signs.contains (.char (Char.ofNat 0)) then some (.value .nullInPath) else none

end WordedPath

end SolutionSurvey
