import SolutionSurvey.Project.Open
import SolutionSurvey.Solution.Basic
import SolutionSurvey.Solution.Listing
import SolutionSurvey.Text.Encoding

/-!
# Opening a solution

A solution file lists projects of many kinds; those whose manifest has the known suffix are loaded.
A listed manifest that is not there is passed over with a note.

## Main definitions

* `ListedProject` — a listed project with the normal path of its manifest.
* `Solution.listed` — the listed projects that can be loaded.
* `Solution.load` — the solution of a solution file.
* `Solution.locate` — the solution file that a path leads to.
-/

namespace SolutionSurvey

/-- A listed project with the normal path of its manifest. -/
structure ListedProject where
  name : String
  path : FilePath
  id : ProjectId
  deriving Repr, DecidableEq, Inhabited

/-- The suffix of the manifests that are loaded. -/
def manifestSuffix : String := ".csproj"

/-- The project of an entry, if its manifest has the known suffix. Its path is read from the directory
of the solution. -/
def ListedProject.ofEntry? (s : Site) (directory : FilePath) (e : Listing.Entry) :
    Option ListedProject :=
  let path := Manifest.slashed e.path
  if manifestSuffix.toList.isSuffixOf (Text.lower path).toList then
    some ⟨e.name, s.normalize (directory.join (.ofText path)), .ofText e.guid⟩
  else none

namespace Solution

/-- The listed projects that can be loaded, in order. -/
def listed (s : Site) (directory : FilePath) (text : String) : List ListedProject :=
  (Listing.entries text).filterMap (ListedProject.ofEntry? s directory)

/-- The identities of the listed projects by their manifests. -/
def known (listed : List ListedProject) : KnownProjects :=
  listed.map fun l => (l.path, l.id)

/-- Loads the listed projects whose manifest is there. -/
def loadListed (s : Site) (rule : ScanRule) (solution : FilePath) (known : KnownProjects) :
    List ListedProject → Noted (List Project)
  | [] => pure []
  | l :: rest =>
    if s.isFile l.path then do
      let p ← Project.load s rule ⟨l.path, some l.id, some l.name, known⟩
      let ps ← loadListed s rule solution known rest
      pure (p :: ps)
    else do
      Noted.note (.projectMissing solution l.path)
      loadListed s rule solution known rest

/-- Loads a solution and the projects that it lists. -/
def load (s : Site) (rule : ScanRule) (p : FilePath) : Noted Solution := do
  let path := s.normalize p
  let text ← Noted.ofExcept ((s.read path).bind (decodeFile "utf-8-sig"))
  let entries := listed s path.parent text
  let projects ← loadListed s rule path (known entries) entries
  Noted.note (.solutionOpened path projects.length)
  pure ⟨some path, projects⟩

/-! ## Finding the solution file -/

/-- The names in a directory that have the form of a solution file's name, in order. -/
def candidates (s : Site) (directory : FilePath) : List String :=
  match s.find directory with
  | .ok t => ((sortedByName t.entries).filter fun e => Wild.accepts "*.sln" e.1).map Prod.fst
  | .error _ => []

/-- The solution file that a path leads to: the path itself if it is a file, else the only solution file
in its directory. -/
def locate (s : Site) (p : FilePath) : Except Failure FilePath :=
  if FilePath.holdsNull p.toText then .error (.value .nullInPath)
  else
    let path := s.normalize p
    if s.isFile path then .ok path
    else
      match candidates s path with
      | [one] => .ok (path.child one)
      | names =>
        let found := if names.isEmpty then "none" else ", ".intercalate names
        .error (.command ("Expected exactly one .sln file in " ++ path.toText ++ " (found: " ++ found ++
          "). Pass the solution file."))

end Solution

end SolutionSurvey
