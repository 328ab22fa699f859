import SolutionSurvey.Files.Tree
import SolutionSurvey.Xml.Reader

/-!
# Manifests

The manifest of a project: a markup document whose elements list sources, packages and references.

## Main definitions

* `Manifest.load` — the root element of the manifest at a path.
* `Manifest.property?` — the value of a property.
* `Manifest.isSdkStyle` — whether sources are found by default.
* `Manifest.packageReferences`, `Manifest.projectReferences`, `Manifest.compileItems` — the items.
-/

namespace SolutionSurvey.Manifest

/-- The root element of the manifest at a path. A document that is not well formed is reported with the
path as it was given. -/
def load (s : Site) (p : FilePath) : Except Failure Xml.Element := do
  let bytes ← s.read p
  match Xml.parse bytes with
  | .ok e => .ok e
  | .error (.fault cause line column) =>
    .error (.report (.malformedManifest (.text p.toText) (.text (Xml.faultText cause line column))))
  | .error (.failure f) => .error f

/-- The value of a property: that of the last element of its name in a group of properties, without
surrounding blanks. -/
def property? (name : String) (root : Xml.Element) : Option String :=
  let elements := (root.childrenNamed "PropertyGroup").flatMap fun g => g.childrenNamed name
  elements.getLast?.map fun e => Text.trim (e.text.getD "")

/-- Whether the manifest names a kit, in an attribute or a child of its root. -/
def isSdkStyle (root : Xml.Element) : Bool :=
  (root.attribute? "Sdk").isSome || !(root.childrenNamed "Sdk").isEmpty

/-- The elements that refer to packages, at any depth. -/
def packageReferences (root : Xml.Element) : List Xml.Element :=
  root.descendantsNamed "PackageReference"

/-- The elements that refer to other projects, at any depth. -/
def projectReferences (root : Xml.Element) : List Xml.Element :=
  root.descendantsNamed "ProjectReference"

/-- The elements that add or remove sources, at any depth. -/
def compileItems (root : Xml.Element) : List Xml.Element :=
  root.descendantsNamed "Compile"

/-- A path as manifests write it, with slashes and without surrounding blanks. -/
def slashed (raw : String) : String :=
  String.ofList ((Text.trimChars raw.toList).map fun c => if c = '\\' then '/' else c)

end SolutionSurvey.Manifest
