import SolutionSurvey.Files.Glob
import SolutionSurvey.Journal.Event
import SolutionSurvey.Project.Manifest

/-!
# Sources of a project

The source files of a project: those that a scan finds, if the manifest leaves that switched on, then
those that the manifest includes, less those that it removes. No file is listed twice.

## Main definitions

* `Manifest.Item` — what a part of an item says.
* `Manifest.expandItem` — the paths that an item stands for.
* `Manifest.defaultSources`, `Manifest.includedSources`, `Manifest.removedSources` — the three parts.
* `Manifest.Gathered` — files by their keys, with `put`, `putNew` and `remove`.
* `Manifest.sources` — the sources.
* `Manifest.skippedItems` — the parts of items that are passed over.
-/

namespace SolutionSurvey.Manifest

/-! ## Items -/

/-- Whether a text has another one in it. -/
def hasPart (part : List Char) : List Char → Bool
  | [] => part.isEmpty
  | c :: cs => part.isPrefixOf (c :: cs) || hasPart part cs

/-- What one part of an item says. -/
inductive Item where
  /-- The part needs the value of a property, which is not known here. -/
  | property (written : String)
  /-- The part stands for all files of a form. -/
  | pattern (written : String)
  /-- The part names one file. -/
  | file (written : String)
  deriving Repr, DecidableEq, Inhabited

/-- What a part of an item says, nothing if it is blank. -/
def Item.ofText? (raw : String) : Option Item :=
  let written := slashed raw
  if written = "" then none
  else if hasPart ['$', '('] written.toList then some (.property written)
  else if Wild.isPattern written then some (.pattern written)
  else some (.file written)

/-- The parts of an item, which semicolons separate. -/
def itemParts (raw : String) : List Item :=
  (splitText ';' raw).filterMap Item.ofText?

/-- The paths that a part of an item stands for, in normal form. A path is read from the directory of
the project. -/
def Item.paths (s : Site) (directory : FilePath) : Item → List FilePath
  | .property _ => []
  | .pattern written => (s.expandFiles (directory.join (.ofText written))).map s.normalize
  | .file written => [s.normalize (directory.join (.ofText written))]

/-- The part of an item that is passed over, if it is. -/
def Item.skipped? : Item → Option String
  | .property written => some written
  | _ => none

/-- The paths that an item stands for. -/
def expandItem (s : Site) (directory : FilePath) (raw : String) : List FilePath :=
  (itemParts raw).flatMap (Item.paths s directory)

/-! ## Sources -/

/-- Whether sources are found by a scan: for manifests with a kit, unless a property says otherwise. -/
def scans (root : Xml.Element) : Bool :=
  isSdkStyle root &&
    Text.lower (match property? "EnableDefaultCompileItems" root with
      | none => "true"
      | some v => if v = "" then "true" else v) != "false"

/-- The sources that a scan finds. -/
def defaultSources (s : Site) (rule : ScanRule) (directory : FilePath) (root : Xml.Element) :
    List FilePath :=
  if scans root then (s.scan rule directory).map s.normalize else []

/-- The values of an attribute of the items for sources. -/
def itemValues (attribute_ : String) (root : Xml.Element) : List String :=
  (compileItems root).map fun e => (e.attribute? attribute_).getD ""

/-- The sources that the manifest includes. -/
def includedSources (s : Site) (directory : FilePath) (root : Xml.Element) : List FilePath :=
  (itemValues "Include" root).flatMap (expandItem s directory)

/-- The sources that the manifest removes. -/
def removedSources (s : Site) (directory : FilePath) (root : Xml.Element) : List FilePath :=
  (itemValues "Remove" root).flatMap (expandItem s directory)

/-! ## Gathering

Files are gathered by their keys, in the order in which the keys first come. -/

/-- Files by their keys. -/
abbrev Gathered := List (FilePath × FilePath)

namespace Gathered

/-- A file put under a key. A key that is there keeps its place and gets the new file. -/
def put (key file : FilePath) : Gathered → Gathered
  | [] => [(key, file)]
  | e :: rest => if e.1 = key then (key, file) :: rest else e :: put key file rest

/-- A file put under a key that is not there yet. -/
def putNew (key file : FilePath) (g : Gathered) : Gathered :=
  if g.any fun e => e.1 == key then g else g ++ [(key, file)]

/-- The files without the one under a key. -/
def remove (key : FilePath) (g : Gathered) : Gathered :=
  g.eraseP fun e => e.1 == key

/-- The files, in the order of their keys. -/
def files (g : Gathered) : List FilePath :=
  g.map Prod.snd

end Gathered

/-- The sources of a project: those found, then those included and not found, less those removed. The key
of a file is the normal form of its path. -/
def sources (s : Site) (rule : ScanRule) (directory : FilePath) (root : Xml.Element) :
    List FilePath :=
  let found : Gathered :=
    (defaultSources s rule directory root).foldl (fun g p => Gathered.put (s.normalize p) p g) []
  let gathered :=
    (includedSources s directory root).foldl (fun g p => Gathered.putNew (s.normalize p) p g) found
  let left :=
    (removedSources s directory root).foldl (fun g p => Gathered.remove (s.normalize p) g) gathered
  left.files

/-- The parts of items that are passed over, in the order in which they are met. -/
def skippedItems (root : Xml.Element) : List String :=
  (itemValues "Include" root ++ itemValues "Remove" root).flatMap fun raw =>
    (itemParts raw).filterMap Item.skipped?

end SolutionSurvey.Manifest
