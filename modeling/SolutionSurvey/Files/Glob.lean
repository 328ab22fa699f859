import SolutionSurvey.Files.Pattern
import SolutionSurvey.Files.Scan

/-!
# Expanding patterns of paths

The paths of a site that have the form of a pattern, segment by segment. A segment of two stars stands
for any number of directories. A name that starts with a point is hidden: two stars pass it over, and
another pattern finds it only if it starts with a point itself.

## Main definitions

* `FileTree.visible` — everything below a tree that is not hidden.
* `Site.expand` — the paths of a form.
* `Site.expandFiles` — the files among them, in the order of their texts.
-/

namespace SolutionSurvey

/-- Whether a name is hidden. -/
def isHidden (name : String) : Bool :=
  name.toList.head? == some '.'

/-- The segment that stands for any number of directories. -/
def anyDepth : String := "**"

mutual

/-- Everything below a tree that is not hidden, as segments. -/
def FileTree.visible : FileTree → List (List String × FileTree)
  | .file _ => []
  | .dir entries => FileTree.visibleEntries entries

/-- Everything among entries and below them that is not hidden. -/
def FileTree.visibleEntries : List (String × FileTree) → List (List String × FileTree)
  | [] => []
  | (name, t) :: rest =>
    (if isHidden name then []
      else ([name], t) :: (FileTree.visible t).map fun e => (name :: e.1, e.2)) ++
      FileTree.visibleEntries rest

end

namespace Site

/-- What a path leads to, nothing if it leads nowhere. -/
def reach (s : Site) (p : FilePath) : FileTree :=
  match s.find p with
  | .ok t => t
  | .error _ => .dir []

/-- The ways on from a directory along one segment of a pattern. Where more segments follow, only
directories are of use; where none does, two stars stand for at least one name. -/
def steps (s : Site) (more : Bool) (segment : String) (p : FilePath) : List FilePath :=
  if segment = anyDepth then
    (if more then [p] else []) ++
      ((s.reach p).visible.filter fun e => !more || e.2.isDir).map fun e =>
        { p with segments := p.segments ++ e.1 }
  else if Wild.isPattern segment then
    ((s.reach p).entries.filter fun e =>
        (!more || e.2.isDir) && (isHidden segment || !isHidden e.1) && Wild.accepts segment e.1).map
      fun e => p.child e.1
  else if s.pathExists (p.child segment) then [p.child segment]
  else []

/-- The paths that start with one of `bases` and go on along the segments of a pattern. -/
def expandFrom (s : Site) (bases : List FilePath) : List String → List FilePath
  | [] => bases
  | segment :: rest => expandFrom s (bases.flatMap (s.steps (!rest.isEmpty) segment)) rest

/-- The paths that have the form of a pattern. Its segments before the first wildcard are taken as they
are. -/
def expand (s : Site) (pattern : FilePath) : List FilePath :=
  let plain := pattern.segments.takeWhile fun p => !Wild.isPattern p
  let base : FilePath := { pattern with segments := plain }
  s.expandFrom [base] (pattern.segments.drop plain.length)

/-- The files that have the form of a pattern, in the order of their texts. -/
def expandFiles (s : Site) (pattern : FilePath) : List FilePath :=
  ((s.expand pattern).filter s.isFile).mergeSort fun a b => decide (a.toText ≤ b.toText)

end Site

end SolutionSurvey
