import SolutionSurvey.CSharp.Source
import SolutionSurvey.Files.Tree
import SolutionSurvey.Journal.Event
import SolutionSurvey.Solution.Basic
import SolutionSurvey.Syntax.QualifiedName
import SolutionSurvey.Text.Encoding

/-!
# Nodes in the sources of projects

The syntax nodes of the sources of projects, read lazily: a source is read and parsed only when its
first node is asked for. Any grammar will do for that; the sources of projects are read by the one of
C#.

## Main definitions

* `SourceNode` — a node in a source of a project.
* `Site.readText`, `Site.readSource` — the text of a source, and the text that can be parsed.
* `Grammar` — what makes a tree of a text.
* `RootStream` — the roots of sources, with `RootStream.next`.
* `NodeStream` — the named nodes of some types, with `NodeStream.next`.
-/

namespace SolutionSurvey

/-- A node in a source of a project. -/
structure SourceNode where
  project : Project
  file : FilePath
  node : Located
  deriving Inhabited

/-- The encoding of sources unless another one is asked for. -/
def defaultEncoding : String := "utf-8-sig"

/-- The text of a source, which may have halves. The name of an encoding must be one before the file is looked
at. -/
def Site.readText (s : Site) (encoding : Wording) (p : FilePath) : Except Failure Wording :=
  match encoding.written with
  | .error e => .error (.unencodable e)
  | .ok name =>
    if FilePath.holdsNull name then .error (.value .nullInName) else (s.read p).bind (s.decode name)

/-- The text of a source that can be parsed, which is one without halves. -/
def Site.readSource (s : Site) (encoding : Wording) (p : FilePath) : Except Failure String :=
  (s.readText encoding p).bind fun text => text.written.mapError .unencodable

/-- The sources that have a file behind them, each with its project. -/
def filesOf (ps : List Project) : List (Project × FilePath) :=
  ps.flatMap fun p => p.documents.filterMap fun d => d.path.map fun f => (p, f)

/-- What makes a syntax tree of a text. -/
abbrev Grammar := String → SyntaxTree

/-- The grammar of C#. -/
def CSharp.grammar : Grammar := fun text => (parse text).tree

/-! ## Roots -/

/-- The roots of sources that are still to come. -/
structure RootStream where
  encoding : Wording
  pending : List (Project × FilePath)
  deriving Inhabited

namespace RootStream

/-- The stream of the roots of the sources of some projects. -/
def ofProjects (encoding : Wording) (ps : List Project) : RootStream :=
  ⟨encoding, filesOf ps⟩

/-- Reads a source and parses it by a grammar. The grammar is loaded for every text that was read. -/
def openWith (grammar : Grammar) (s : Site) (encoding : Wording) (p : Project) (f : FilePath) :
    List Event × Except Failure SourceNode :=
  match s.readText encoding f with
  | .error e => ([.parsing p.name f], .error e)
  | .ok text =>
    ([.parsing p.name f, .grammarLoaded],
      (text.written.mapError .unencodable).map fun text => ⟨p, f, .root text (grammar text)⟩)

/-- Reads and parses a source. -/
def openSource (s : Site) (encoding : Wording) (p : Project) (f : FilePath) :
    List Event × Except Failure SourceNode :=
  openWith CSharp.grammar s encoding p f

/-- The next root of a stream, read from the tree as it is now. -/
def next (s : Site) (t : RootStream) : List Event × Yield SourceNode × RootStream :=
  match t.pending with
  | [] => ([], .finished, t)
  | (p, f) :: rest =>
    match openSource s t.encoding p f with
    | (events, .error e) => (events, .failed e, { t with pending := [] })
    | (events, .ok n) => (events, .item n, { t with pending := rest })

end RootStream

/-! ## Nodes of some types -/

/-- The nodes that are still to come: those below a root under way, then those of other sources. -/
structure NodeStream where
  types : List String
  encoding : Wording
  current : Option (SourceNode × DescendantWalk Located)
  pending : List (Project × FilePath)
  deriving Inhabited

namespace NodeStream

/-- The stream of the nodes of some types in the sources of some projects; without any types, of all
named nodes. -/
def ofProjects (encoding : Wording) (types : List String) (ps : List Project) : NodeStream :=
  ⟨types, encoding, none, filesOf ps⟩

/-- The stream of the method-like declarations in the sources of some projects. -/
def methods (encoding : Wording) (ps : List Project) : NodeStream :=
  ofProjects encoding methodTypes ps

/-- Whether a node has one of the types that are asked for. -/
def wants (types : List String) (n : Located) : Bool :=
  types.isEmpty || types.contains n.tree.type

/-- The next wanted node of a walk, found in at most `fuel` steps. -/
def seek (types : List String) : Nat → DescendantWalk Located → Option (Located × DescendantWalk Located)
  | 0, _ => none
  | fuel + 1, w =>
    match w.step Located.view with
    | (some (.item n), w) => if wants types n then some (n, w) else seek types fuel w
    | (none, w) => seek types fuel w
    | _ => none

/-- The next wanted node below a root. -/
def seekBelow (types : List String) (root : SourceNode) (w : DescendantWalk Located) :
    Option (Located × DescendantWalk Located) :=
  seek types (2 * root.node.tree.walkFuel) w

/-- What a stream gives next, with the events noted before. -/
abbrev Answer := List Event × Yield SourceNode × NodeStream

/-- The next node of some sources. -/
def nextOf (grammar : Grammar) (s : Site) (types : List String) (encoding : Wording) :
    List (Project × FilePath) → Answer
  | [] => ([], .finished, ⟨types, encoding, none, []⟩)
  | (p, f) :: rest =>
    match RootStream.openWith grammar s encoding p f with
    | (events, .error e) => (events, .failed e, ⟨types, encoding, none, []⟩)
    | (events, .ok root) =>
      match seekBelow types root (.start root.node true) with
      | some (n, w) => (events, .item { root with node := n }, ⟨types, encoding, some (root, w), rest⟩)
      | none =>
        let others := nextOf grammar s types encoding rest
        (events ++ others.1, others.2)

/-- The next node of a stream by a grammar; sources are read from the tree as it is now. -/
def nextWith (grammar : Grammar) (s : Site) (t : NodeStream) : Answer :=
  match t.current with
  | none => nextOf grammar s t.types t.encoding t.pending
  | some (root, w) =>
    match seekBelow t.types root w with
    | some (n, w) => ([], .item { root with node := n }, { t with current := some (root, w) })
    | none => nextOf grammar s t.types t.encoding t.pending

/-- The next node of a stream. -/
def next (s : Site) (t : NodeStream) : Answer :=
  nextWith CSharp.grammar s t

end NodeStream

end SolutionSurvey
