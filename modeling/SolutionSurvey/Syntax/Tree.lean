import SolutionSurvey.Syntax.View

/-!
# Syntax trees

Trees over a source text. Every node has a type and the places where it starts and stops; leaves are the
tokens. A child may have a role in its parent.

## Main definitions

* `Place` — a place in a text.
* `SyntaxTree` — the trees.
* `Located` — a node together with the nodes above it; `Located.view` reads it.
* `SyntaxTree.walkFuel` — a bound on the steps of a walk through a tree.
-/

namespace SolutionSurvey

/-- A place in a text: the characters before it, the lines before it, and the bytes before it in its
line. -/
structure Place where
  offset : Nat
  line : Nat
  column : Nat
  deriving Repr, DecidableEq, Inhabited

namespace Place

/-- The beginning of a text. -/
def start : Place := ⟨0, 0, 0⟩

/-- The place after a character. -/
def after (p : Place) (c : Char) : Place :=
  if c = '\n' then ⟨p.offset + 1, p.line + 1, 0⟩ else ⟨p.offset + 1, p.line, p.column + c.utf8Size⟩

/-- The place after some characters. -/
def afterAll (p : Place) (cs : List Char) : Place :=
  cs.foldl after p

end Place

/-- A node of a syntax tree, with its children and their roles. A node is named when it stands for more
than its own spelling. -/
inductive SyntaxTree where
  | mk (type : String) (named : Bool) (start stop : Place)
    (children : List (Option String × SyntaxTree))
  deriving Repr, Inhabited

/-- A node with its role in the node above. -/
abbrev Branch := Option String × SyntaxTree

namespace SyntaxTree

/-- The type of a node. -/
def type : SyntaxTree → String
  | mk t _ _ _ _ => t

/-- Whether a node is named. -/
def isNamed : SyntaxTree → Bool
  | mk _ n _ _ _ => n

/-- Where a node starts. -/
def start : SyntaxTree → Place
  | mk _ _ s _ _ => s

/-- Where a node stops. -/
def stop : SyntaxTree → Place
  | mk _ _ _ s _ => s

/-- The children of a node with their roles. -/
def branches : SyntaxTree → List Branch
  | mk _ _ _ _ bs => bs

/-- The children of a node. -/
def children (t : SyntaxTree) : List SyntaxTree :=
  t.branches.map Prod.snd

/-- The first child in a role. -/
def child? (role : String) (t : SyntaxTree) : Option SyntaxTree :=
  (t.branches.find? fun b => b.1 == some role).map Prod.snd

/-- A token of one spelling. -/
def leaf (type : String) (named : Bool) (start stop : Place) : SyntaxTree :=
  mk type named start stop []

/-- A named node of a type over its children. -/
def spanning (type : String) (branches : List Branch) : SyntaxTree :=
  let start := (branches.head?.map fun b => b.2.start).getD .start
  let stop := (branches.getLast?.map fun b => b.2.stop).getD start
  mk type true start stop branches

mutual

/-- The number of nodes of a tree. -/
def size : SyntaxTree → Nat
  | mk _ _ _ _ bs => 1 + sizeOfBranches bs

/-- The number of nodes of some branches. -/
def sizeOfBranches : List (Option String × SyntaxTree) → Nat
  | [] => 0
  | (_, t) :: rest => size t + sizeOfBranches rest

end

/-- A bound on the steps that a walk through a tree takes before it gives a node. -/
def walkFuel (t : SyntaxTree) : Nat := 2 * t.size + 2

mutual

/-- The number of levels of a tree. -/
def depth : SyntaxTree → Nat
  | mk _ _ _ _ bs => 1 + depthOfBranches bs

/-- The greatest number of levels among branches. -/
def depthOfBranches : List (Option String × SyntaxTree) → Nat
  | [] => 0
  | (_, t) :: rest => max (depth t) (depthOfBranches rest)

end

end SyntaxTree

/-! ## Nodes in their place -/

/-- A node of a source's tree together with the nodes above it, nearest first. -/
structure Located where
  source : String
  tree : SyntaxTree
  above : List SyntaxTree
  deriving Repr, Inhabited

namespace Located

/-- The root of a source's tree. -/
def root (source : String) (tree : SyntaxTree) : Located :=
  ⟨source, tree, []⟩

/-- The source text of a node. -/
def text (n : Located) : String :=
  String.ofList
    ((n.source.toList.drop n.tree.start.offset).take (n.tree.stop.offset - n.tree.start.offset))

/-- The node above. -/
def parent? (n : Located) : Option Located :=
  match n.above with
  | [] => none
  | p :: rest => some ⟨n.source, p, rest⟩

/-- A child of this node. -/
def below (n : Located) (child : SyntaxTree) : Located :=
  ⟨n.source, child, n.tree :: n.above⟩

/-- The children of a node. -/
def children (n : Located) : List Located :=
  n.tree.children.map n.below

/-- The nodes below a node, in pre-order, at most `levels` levels deep. -/
def descendants : Nat → Located → List Located
  | 0, _ => []
  | levels + 1, n => n.children.flatMap fun c => c :: descendants levels c

/-- All nodes below a node, in pre-order. -/
def allDescendants (n : Located) : List Located :=
  descendants n.tree.depth n

/-- The readings of located nodes. A node gives no identifier of its own; its children are looked up by
their roles. -/
def view : NodeView Located where
  type n := .ok (.text n.tree.type)
  text n := .ok (.text n.text)
  parent n := .ok n.parent?
  children n := .ok n.children
  isNamed n := n.tree.isNamed
  isLeaf n := n.tree.branches.isEmpty
  identifier _ := .error .attributeMissing
  role n := some fun name => (n.tree.child? name).map n.below

end Located

end SolutionSurvey
