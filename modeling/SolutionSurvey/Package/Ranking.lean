import SolutionSurvey.Package.Identity

/-!
# Ranking of package identities

The comparisons that callers see: a number for two identities, one of which may be missing, and the tests for
equal, less and greater. Two keys are compared at the first part at which they differ, once for less and once for
greater, and the number is the difference of the two answers.

## Main definitions

* `Version.before`, `Version.after` — the comparisons of versions; the second is made of the first.
* `PackageIdentity.atFirstDifference` — two keys compared at the first part at which they differ.
* `PackageIdentity.rank` — negative, zero or positive as the first identity is less, equal or greater.
* `PackageIdentity.equal` — whether two identities are equal.
* `PackageIdentity.below`, `PackageIdentity.above`, `PackageIdentity.atMost`, `PackageIdentity.atLeast` — the four
  comparisons; the last three are made of `below` and `equal`.
-/

namespace SolutionSurvey

namespace Version

/-- Whether a version comes before another. -/
def before (v w : Version) : Bool :=
  v.compare w == .lt

/-- Whether a version comes after another: it is not before it and not the same. -/
def after (v w : Version) : Bool :=
  !v.before w && v != w

end Version

namespace PackageIdentity

/-- Compares the first parts at which two identities differ: the folded names, the versions, the folded prefixes
or the folded suffixes. Nothing holds of identities that differ in none. -/
def atFirstDifference (texts : String → String → Bool) (versions : Version → Version → Bool)
    (p q : PackageIdentity) : Bool :=
  if Text.fold p.name ≠ Text.fold q.name then texts (Text.fold p.name) (Text.fold q.name)
  else if p.version ≠ q.version then versions p.version q.version
  else if Text.fold p.versionPrefix ≠ Text.fold q.versionPrefix then
    texts (Text.fold p.versionPrefix) (Text.fold q.versionPrefix)
  else if Text.fold p.versionSuffix ≠ Text.fold q.versionSuffix then
    texts (Text.fold p.versionSuffix) (Text.fold q.versionSuffix)
  else false

/-- Whether the key of an identity is less than that of another. -/
def keyBefore : PackageIdentity → PackageIdentity → Bool :=
  atFirstDifference (fun s t => s < t) Version.before

/-- Whether the key of an identity is greater than that of another. -/
def keyAfter : PackageIdentity → PackageIdentity → Bool :=
  atFirstDifference (fun s t => t < s) Version.after

/-- Compares two identities, a missing one before any other. -/
def rank : Option PackageIdentity → Option PackageIdentity → Int
  | none, none => 0
  | none, some _ => -1
  | some _, none => 1
  | some p, some q => (p.keyAfter q).toInt - (p.keyBefore q).toInt

/-- Whether two identities are equal. A missing one is equal to a missing one only. -/
def equal : Option PackageIdentity → Option PackageIdentity → Bool
  | none, none => true
  | some p, some q => rank (some p) (some q) == 0
  | _, _ => false

/-- Whether an identity is less than another. -/
def below (p q : PackageIdentity) : Bool :=
  rank (some p) (some q) < 0

/-- Whether an identity is greater than another. -/
def above (p q : PackageIdentity) : Bool :=
  !p.below q && !equal (some p) (some q)

/-- Whether an identity is less than another or equal to it. -/
def atMost (p q : PackageIdentity) : Bool :=
  p.below q || equal (some p) (some q)

/-- Whether an identity is greater than another or equal to it. -/
def atLeast (p q : PackageIdentity) : Bool :=
  !p.below q

end PackageIdentity

end SolutionSurvey
