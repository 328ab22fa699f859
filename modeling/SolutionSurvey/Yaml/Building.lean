import SolutionSurvey.Value.Cells
import SolutionSurvey.Yaml.Merging

/-!
# What documents of YAML stand for

The value of a document by the tags of its nodes. A collection first stands for an empty cell, which is
filled after the collections that were met before it; so of several faults the one that is nearest to the
root is told, and among those of one level the first one. A node that is met again stands for the same
value, also inside itself.

## Main definitions

* `Yaml.Builder` — the values so far, and the collections that wait to be filled.
* `Yaml.visit`, `Yaml.fillCell` — what a node stands for, and the parts of a collection.
* `Yaml.Document.toValue` — the value of a document.
-/

namespace SolutionSurvey.Yaml

/-- The values so far: the nodes, the cells of collections, what the nodes that were met stand for, the
nodes and cells that wait to be filled, how many of these are done, and how many entries there are. -/
structure Builder where
  graph : Graph
  cells : Cells := #[]
  known : Array (Option Ref)
  waiting : Array (Nat × Nat) := #[]
  done : Nat := 0
  room : Nat
  deriving Inhabited

/-- Computations that find out what nodes stand for. -/
abbrev Build := StateT Builder (Except Fault)

/-- Whether a tag is that of a collection. -/
def isCollection : Tag → Bool
  | .seq | .map | .set | .omap | .pairs => true
  | _ => false

/-- Whether a tag stands for nothing. -/
def isUnknown : Tag → Bool
  | .merge | .value | .other _ => true
  | _ => false

/-- The node with a number. -/
def nodeAt (number : Nat) : Build Node := do
  pure ((← get).graph.node number)

/-- Adds a cell and gives its number. -/
def addCell (c : Cell) : Build Nat := do
  let number := (← get).cells.size
  modify fun b => { b with cells := b.cells.push c }
  pure number

/-- What a node stands for. The cell of a collection has to wait. -/
def visit (number : Nat) : Build Ref := do
  match ((← get).known[number]?).join with
  | some r => pure r
  | none =>
    let n ← nodeAt number
    if isUnknown n.tag then
      throw (.plain ("could not determine a constructor for the tag " ++ Text.quoted n.tag.toText) n.start)
    let r ← if isCollection n.tag then do
        let cell ← addCell (.list [])
        modify fun b => { b with waiting := b.waiting.push (number, cell) }
        pure (Ref.cell cell)
      else do pure (Ref.plain (← (← get).graph.scalarValue number))
    modify fun b => { b with known := b.known.setIfInBounds number (some r) }
    pure r

/-! ## Parts of collections -/

/-- The items of a sequence. -/
def sequenceItems (n : Node) : Meaning (List Nat) :=
  match n.content with
  | .sequence items => .ok items
  | other => refuse ("expected a sequence node, but found " ++ other.form) n.start

/-- The entries of a mapping, with those of merged mappings. -/
def mappingEntries (number : Nat) : Build (List (Nat × Nat)) := do
  let n ← nodeAt number
  match n.content with
  | .mapping _ =>
    let (_, graph) ← (mergeInto ((← get).room + 1) number []).run (← get).graph
    modify fun b => { b with graph }
    pure ((← get).graph.entriesOf number)
  | other => throw (.plain ("expected a mapping node, but found " ++ other.form) n.start)

/-- What the entries of a mapping stand for, key before value. A collection is no key. -/
def visitEntries (start : Mark) : List (Nat × Nat) → Build (List (Value × Ref))
  | [] => pure []
  | (k, v) :: rest => do
    match ← visit k with
    | .cell _ => throw (.during mappingActivity start "found unhashable key" (← nodeAt k).start)
    | .plain key =>
      let value ← visit v
      pure ((key, value) :: (← visitEntries start rest))

/-- What the entries of a sequence of single entries stand for. -/
def visitPairs (activity : String) (start : Mark) : List Nat → Build (List Ref)
  | [] => pure []
  | i :: rest => do
    let item ← nodeAt i
    match item.content with
    | .mapping [(k, v)] =>
      let key ← visit k
      let value ← visit v
      let pair ← addCell (.pair key value)
      pure (.cell pair :: (← visitPairs activity start rest))
    | .mapping es =>
      throw (.during activity start
        ("expected a single mapping item, but found " ++ toString es.length ++ " items") item.start)
    | other =>
      throw (.during activity start ("expected a mapping of length 1, but found " ++ other.form) item.start)

/-- The pairs of a sequence of single entries. -/
def pairItems (activity : String) (n : Node) : Build (List Ref) :=
  match n.content with
  | .sequence items => visitPairs activity n.start items
  | other => throw (.during activity n.start ("expected a sequence, but found " ++ other.form) n.start)

/-- The cell for a collection. -/
def cellOf (number : Nat) : Build Cell := do
  let n ← nodeAt number
  match n.tag with
  | .seq => pure (.list (← (← sequenceItems n).mapM visit))
  | .map => pure (.map (← visitEntries n.start (← mappingEntries number)))
  | .set => do
    let writes ← visitEntries n.start (← mappingEntries number)
    pure (.set ((Value.ofWrites (writes.map fun w => (w.1, .null))).map Prod.fst))
  | .omap => pure (.list (← pairItems "while constructing an ordered map" n))
  | _ => pure (.list (← pairItems "while constructing pairs" n))

/-- Fills the cells that wait, and those that come to wait meanwhile; `fuel` bounds their number. -/
def fillCells : Nat → Build Unit
  | 0 => pure ()
  | fuel + 1 => do
    let b ← get
    match b.waiting[b.done]? with
    | none => pure ()
    | some (number, cell) =>
      modify fun b => { b with done := b.done + 1 }
      let filled ← cellOf number
      modify fun b => { b with cells := b.cells.setIfInBounds cell filled }
      fillCells fuel

/-- The value of a document. -/
def Document.toValue (d : Document) : Meaning Value := do
  let build : Build Ref := do
    let r ← visit d.root
    fillCells (d.graph.size + 1)
    pure r
  let start : Builder :=
    { graph := d.graph, known := Array.replicate d.graph.size none, room := d.graph.entryCount }
  let (r, b) ← build.run start
  pure (b.cells.valueOf r)

end SolutionSurvey.Yaml
