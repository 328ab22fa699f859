import SolutionSurvey.Files.Tree
import SolutionSurvey.Text.Casing

/-!
# Scanning for sources

All files below a directory with one of some extensions. The files of a directory come before those of
its subdirectories; both are taken in the order of their names. Directories with an excluded name are
not entered.

## Main definitions

* `ScanRule` — which directories are entered and which files are taken.
* `FileTree.scan` — the files that a scan takes, as segments below the directory.
* `Site.scan` — the same as paths.
-/

namespace SolutionSurvey

/-- Which directories a scan enters and which files it takes. -/
structure ScanRule where
  excluded : List String
  extensions : List String
  deriving Repr, DecidableEq, Inhabited

namespace ScanRule

/-- Whether a directory of this name is entered. Case is ignored. -/
def enters (r : ScanRule) (name : String) : Bool :=
  !(r.excluded.map Text.lower).contains (Text.lower name)

/-- Whether a file of this name is taken: its last suffix in lower case is one of the extensions. -/
def takes (r : ScanRule) (name : String) : Bool :=
  r.extensions.contains (Text.lower (FilePath.suffixOf name))

end ScanRule

/-- Entries in the order of their names. -/
def sortedByName {α : Type} (entries : List (String × α)) : List (String × α) :=
  entries.mergeSort fun a b => decide (a.1 ≤ b.1)

namespace FileTree

/-- The names of the files among entries that a scan takes, in order. -/
def takenFiles (r : ScanRule) (entries : List (String × FileTree)) : List String :=
  ((sortedByName entries).filter fun e => e.2.isFile && r.takes e.1).map Prod.fst

mutual

/-- The files that a scan takes below a tree, as segments. -/
def scan (r : ScanRule) : FileTree → List (List String)
  | .file _ => []
  | .dir entries =>
    (takenFiles r entries).map (fun n => [n]) ++
      ((sortedByName (scanEntries r entries)).flatMap fun e => e.2.map fun p => e.1 :: p)

/-- The files that a scan takes below each directory among entries that it enters. -/
def scanEntries (r : ScanRule) : List (String × FileTree) → List (String × List (List String))
  | [] => []
  | (name, t) :: rest =>
    if t.isDir && r.enters name then (name, scan r t) :: scanEntries r rest
    else scanEntries r rest

end

end FileTree

/-- The files that a scan takes below a directory. -/
def Site.scan (s : Site) (r : ScanRule) (directory : FilePath) : List FilePath :=
  match s.find directory with
  | .ok t => (t.scan r).map fun p => { directory with segments := directory.segments ++ p }
  | .error _ => []

end SolutionSurvey
