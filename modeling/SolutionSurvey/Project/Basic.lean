import SolutionSurvey.Digest.Sha1
import SolutionSurvey.Files.Path
import SolutionSurvey.Text.Casing

/-!
# Projects

A project with its identity, its documents and its references to other projects, as it was when it was
loaded.

## Main definitions

* `ProjectId` — the identity of a project; `ProjectId.ofText` reads it, `ProjectId.derived` makes one
  from a path.
* `Document` — a source document.
* `Project` — a project.
-/

namespace SolutionSurvey

/-! ## Identities -/

/-- The identity of a project: a text in upper case without braces around it. -/
structure ProjectId where
  guid : String
  deriving Repr, DecidableEq, Inhabited

namespace ProjectId

/-- Whether a character is a brace. -/
def isBrace (c : Char) : Bool :=
  c == '{' || c == '}'

/-- The identity that a text writes. -/
def ofText (s : String) : ProjectId :=
  let inner := ((s.toList.dropWhile isBrace).reverse.dropWhile isBrace).reverse
  ⟨Text.upper (String.ofList inner)⟩

/-- The written form of an identity. -/
def toText (p : ProjectId) : String :=
  "\x7b" ++ p.guid ++ "\x7d"

/-- The bytes that stand for addresses as a name space. -/
def addressSpace : List UInt8 :=
  [0x6b, 0xa7, 0xb8, 0x11, 0x9d, 0xad, 0x11, 0xd1, 0x80, 0xb4, 0x00, 0xc0, 0x4f, 0xd4, 0x30, 0xc8]

/-- Sixteen bytes marked as an identifier of the fifth version. -/
def marked (bytes : List UInt8) : List UInt8 :=
  (bytes.take 16).zipIdx.map fun b =>
    if b.2 = 6 then (b.1 &&& 0x0F) ||| 0x50
    else if b.2 = 8 then (b.1 &&& 0x3F) ||| 0x80
    else b.1

/-- Hexadecimal digits in groups of eight, four, four, four and twelve. -/
def grouped (digits : List Char) : String :=
  "-".intercalate ([(0, 8), (8, 4), (12, 4), (16, 4), (20, 12)].map fun g =>
    String.ofList ((digits.drop g.1).take g.2))

/-- The identity of a project without one of its own, derived from the address of its manifest. -/
def derived (manifest : FilePath) : ProjectId :=
  let digest := Digest.sha1 (addressSpace ++ manifest.uri.toUTF8.toList)
  ofText (grouped ((marked digest).flatMap fun b => (Text.hex 2 b.toNat).toList))

end ProjectId

/-! ## Projects -/

/-- A source document. One without a path has no file behind it. -/
structure Document where
  name : String
  path : Option FilePath
  deriving Repr, DecidableEq, Inhabited

/-- The document of a file. -/
def Document.ofPath (p : FilePath) : Document :=
  ⟨p.name, some p⟩

/-- A project. One without a path has no manifest behind it. -/
structure Project where
  id : ProjectId
  name : String
  path : Option FilePath
  documents : List Document
  references : List ProjectId
  deriving Repr, DecidableEq, Inhabited

end SolutionSurvey
