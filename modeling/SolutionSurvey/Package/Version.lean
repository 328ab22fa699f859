import SolutionSurvey.Failure
import SolutionSurvey.Text.Blank

/-!
# Versions

Numeric versions of two to four components, `major.minor[.build[.revision]]`. A version with fewer
components comes before any version that continues it.

## Main definitions

* `Version` — the versions; the components are within range by construction.
* `Version.components`, `Version.toText` — the components that are present, and their written form.
* `Version.make` — a version from components that may be out of range.
* `Version.tryParse` — reads a version that fills its text but for blanks around it.
* `Version.compare` — the order.
-/

namespace SolutionSurvey

/-- A numeric version. Only a build may be followed by a revision. -/
structure Version where
  major : Option Nat := some 0
  minor : Option Nat := some 0
  build : Option Nat := none
  revision : Option Nat := none
  deriving Repr, DecidableEq, Inhabited

namespace Version

/-- The greatest value of a component. -/
def componentMax : Nat := Nat.pow 2 31 - 1

/-- The version of everything that has none. -/
def zero : Version := {}

/-- The components that are present, most significant first. -/
def components (v : Version) : List Nat :=
  [v.major, v.minor, v.build, v.revision].filterMap id

/-- The components joined by points. -/
def toText (v : Version) : String :=
  ".".intercalate (v.components.map toString)

/-- A component within range, or the fault that it has. -/
def checkComponent (name : String) : Option Int → Except ValueFault (Option Nat)
  | none => .ok none
  | some n =>
    if 0 ≤ n ∧ n ≤ componentMax then .ok (some n.toNat) else .error (.componentOutOfRange name n)

/-- A version from its components. A revision without a build is refused before any range is checked. -/
def make (major minor build revision : Option Int) : Except ValueFault Version :=
  if revision.isSome && build.isNone then .error .revisionWithoutBuild
  else do
    let major ← checkComponent "major" major
    let minor ← checkComponent "minor" minor
    let build ← checkComponent "build" build
    let revision ← checkComponent "revision" revision
    pure { major, minor, build, revision }

/-- The version with the given components, if there are two to four. -/
def ofComponents? : List Nat → Option Version
  | [a, b] => some { major := some a, minor := some b }
  | [a, b, c] => some { major := some a, minor := some b, build := some c }
  | [a, b, c, d] => some { major := some a, minor := some b, build := some c, revision := some d }
  | _ => none

/-! ## Reading -/

/-- The number that a run of decimal digits writes. -/
def readDigits (cs : List Char) : Nat :=
  cs.foldl (fun n c => 10 * n + (c.toNat - 48)) 0

/-- Whether characters are one or more decimal digits. -/
def isDigits (cs : List Char) : Bool :=
  !cs.isEmpty && cs.all Char.isDigit

/-- The groups of digits between the points of a text without surrounding blanks: two to four of them. -/
def groups? (cs : List Char) : Option (List (List Char)) :=
  let gs := cs.splitOn '.'
  if gs.all isDigits && 2 ≤ gs.length && gs.length ≤ 4 then some gs else none

/-- Reads a version. What is not a version gives nothing; a group with too many digits is a fault. -/
def tryParse (text : String) : Except ValueFault (Option Version) :=
  match groups? (Text.trimChars text.toList) with
  | none => .ok none
  | some gs =>
    match gs.find? fun g => digitLimit < g.length with
    | some g => .error (.tooManyDigits g.length)
    | none =>
      let ns := gs.map readDigits
      if ns.all (· ≤ componentMax) then .ok (ofComponents? ns) else .ok none

/-! ## Order -/

/-- A component as an order key: an absent one comes before zero. -/
def componentKey : Option Nat → Nat
  | none => 0
  | some n => n + 1

/-- The order keys of all four components. -/
def key (v : Version) : List Nat :=
  [v.major, v.minor, v.build, v.revision].map componentKey

/-- The order of two lists of numbers, by the first place at which they differ; a list comes before any
list that continues it. -/
def compareKeys : List Nat → List Nat → Ordering
  | [], [] => .eq
  | [], _ :: _ => .lt
  | _ :: _, [] => .gt
  | a :: as, b :: bs => (Ord.compare a b).then (compareKeys as bs)

/-- The order of versions: component by component, absent ones first. -/
def compare (v w : Version) : Ordering :=
  compareKeys v.key w.key

/-- The fault that keeps two versions from being compared: of the first two components at which they
differ, among major and minor, one is absent. -/
def clash? (v w : Version) : Option TypeFault :=
  let differ (a b : Option Nat) : Option TypeFault :=
    match a, b with
    | none, some _ => some (.unordered "NoneType" "int")
    | some _, none => some (.unordered "int" "NoneType")
    | _, _ => none
  if v.major != w.major then differ v.major w.major
  else if v.minor != w.minor then differ v.minor w.minor
  else none

end Version

end SolutionSurvey
