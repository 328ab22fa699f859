import SolutionSurvey.Package.Span
import SolutionSurvey.Package.Version
import SolutionSurvey.Text.Casing

/-!
# Package identities

A package as a name and a version. Free-form version text keeps its numeric core as the version and the
text around the core as prefix and suffix, so that such texts still compare predictably.

## Main definitions

* `PackageIdentity` — the identities, with `PackageIdentity.make` for the ones with a usable name.
* `PackageIdentity.versionOf` — the version of a numeric core.
* `PackageIdentity.parse` — an identity from free-form version text.
* `PackageIdentity.compare` — by name, version, prefix and suffix, with texts folded.
* `PackageIdentity.hashKey` — what a set looks at before it compares.
* `PackageIdentity.distinct`, `PackageIdentity.sort` — without repetitions, and in order.
-/

namespace SolutionSurvey

/-- A package reference resolved to a name and a version. -/
structure PackageIdentity where
  name : String
  version : Version := {}
  versionPrefix : String := ""
  versionSuffix : String := ""
  deriving Repr, DecidableEq, Inhabited

namespace PackageIdentity

/-- The name and the version. -/
def toText (p : PackageIdentity) : String :=
  p.name ++ " " ++ p.version.toText

/-- An identity whose name is there and is not blank; blanks around the name are dropped. -/
def make (name : Option String) (version : Version) (versionPrefix versionSuffix : String) :
    Except Report PackageIdentity :=
  match name with
  | none => .error (.missingArgument (.text "name"))
  | some name =>
    let name := Text.trim name
    if name = "" then .error (.invalidArgument (.text "name") (.text "must not be empty"))
    else .ok { name, version, versionPrefix, versionSuffix }

/-- An identity from a version that is already structured. -/
def ofVersion (name : Option String) (version : Option Version) : Except Report PackageIdentity :=
  make name (version.getD .zero) "" ""

/-- The version that a text is written for, the zero version if it writes none. A run of digits that is
too long to be read counts as none. -/
def versionOf (text : List Char) : Version :=
  match Version.tryParse (String.ofList text) with
  | .ok (some v) => v
  | _ => .zero

/-- An identity from free-form version text. Missing text and text without a span give the zero version
with nothing around it. -/
def parse (name : Option String) (rawVersion : Option String) : Except Report PackageIdentity :=
  match name with
  | none => .error (.missingArgument (.text "name"))
  | some _ =>
    let text := Text.trimChars ((rawVersion.getD "").toList)
    match Span.best? text with
    | none => make name .zero "" ""
    | some s =>
      make name (versionOf ((text.drop s.start).take (s.stop - s.start)))
        (String.ofList (text.take s.start)) (String.ofList (text.drop s.stop))

/-! ## Order -/

/-- The order of identities: by folded name, then version, then folded prefix and suffix. -/
def compare (p q : PackageIdentity) : Ordering :=
  (Ord.compare (Text.fold p.name) (Text.fold q.name)).then <|
    (Version.compare p.version q.version).then <|
      (Ord.compare (Text.fold p.versionPrefix) (Text.fold q.versionPrefix)).then <|
        Ord.compare (Text.fold p.versionSuffix) (Text.fold q.versionSuffix)

/-- The order with a missing identity before any other. -/
def compareOption : Option PackageIdentity → Option PackageIdentity → Ordering
  | none, none => .eq
  | none, some _ => .lt
  | some _, none => .gt
  | some p, some q => p.compare q

/-- The fault that keeps two identities from being compared, if their names agree. -/
def clash? (p q : PackageIdentity) : Option TypeFault :=
  if Text.fold p.name = Text.fold q.name then p.version.clash? q.version else none

/-- Whether two identities are equal for the order. -/
def same (p q : PackageIdentity) : Bool :=
  p.compare q == .eq

/-- What the hash of an identity covers: the folded name and the version. -/
def hashKey (p : PackageIdentity) : String × Version :=
  (Text.fold p.name, p.version)

/-- Whether a set that holds `p` takes `q` for it: only identities with the same hash are compared. -/
def covers (p q : PackageIdentity) : Bool :=
  p.hashKey == q.hashKey && same p q

/-- The identities that a set holds after all of them are put into it: of those that it takes for each
other the first one, in the given order. -/
def distinct (ps : List PackageIdentity) : List PackageIdentity :=
  (ps.foldl (fun done p => if done.any (covers · p) then done else p :: done) []).reverse

/-- The identities in order; equal ones keep the order they came in. -/
def sort (ps : List PackageIdentity) : List PackageIdentity :=
  ps.mergeSort fun p q => p.compare q != .gt

end PackageIdentity

end SolutionSurvey
