import SolutionSurvey.Yaml.Lexer
import SolutionSurvey.Yaml.Tag

/-!
# Nodes of YAML

The nodes that a document writes: scalars, sequences and mappings, each with its tag and the place where
it starts. Nodes have numbers, by which collections refer to the nodes inside them. An alias stands for the
number of the node with its anchor, so that a collection may be inside itself.

## Main definitions

* `Yaml.Node`, `Yaml.Graph` — a node, and the nodes of a document.
* `Yaml.Reader` — the handles and anchors that are known while a document is read.
* `Yaml.Document.read?` — the only document of a text, if there is one.
-/

namespace SolutionSurvey.Yaml

/-- What a node holds. -/
inductive Content where
  | scalar (text : Wording)
  | sequence (items : List Nat)
  | mapping (entries : List (Nat × Nat))
  deriving Repr, DecidableEq, Inhabited

/-- How messages name the form of a node. -/
def Content.form : Content → String
  | .scalar _ => "scalar"
  | .sequence _ => "sequence"
  | .mapping _ => "mapping"

/-- A node of a document. -/
structure Node where
  tag : Tag
  content : Content
  start : Mark
  deriving Repr, DecidableEq, Inhabited

/-- The nodes of a document, by their numbers. -/
abbrev Graph := Array Node

/-- The node with a number. -/
def Graph.node (g : Graph) (number : Nat) : Node :=
  g.getD number default

/-- A document: its nodes, and the number of the one that holds the others. -/
structure Document where
  graph : Graph
  root : Nat
  deriving Repr, Inhabited

/-! ## Reading nodes -/

/-- What is known while a document is read: the lexer, the meaning of the handles of tags, the nodes so
far, and the numbers of those with anchors. -/
structure Reader where
  lexer : Lexer
  handles : List (String × String) := []
  graph : Graph := #[]
  anchors : List (String × Nat) := []
  deriving Repr, Inhabited

/-- Computations that read nodes and may meet a problem. -/
abbrev Read := StateT Reader (Except Fault)

namespace Reader

/-- Runs a reader of tokens. -/
def lex {α : Type} (l : Lex α) : Read α := do
  let r ← get
  let (a, lexer) ← l.run r.lexer
  set { r with lexer }
  pure a

/-- The next token. -/
def peek : Read Token := lex peekToken

/-- Takes the next token. -/
def take : Read Token := lex takeToken

/-- Whether the next token is one of some kinds without content. -/
def nextIn (kinds : List TokenKind) : Read Bool := do
  pure (kinds.contains (← peek).kind)

/-- Stops at the next token, of which the message tells the kind. -/
def failAtNext {α : Type} (problem : String → Mark → Fault) (fault : String) : Read α := do
  let t ← peek
  throw (problem (fault ++ Text.quoted t.kind.id) t.start)

/-- The meaning of the handles that need no directive. -/
def defaultHandles : List (String × String) :=
  [("!", "!"), ("!!", Tag.home)]

/-- Adds a node and gives its number. -/
def add (n : Node) : Read Nat := do
  let number := (← get).graph.size
  modify fun r => { r with graph := r.graph.push n }
  pure number

/-- The node of an alias. -/
def aliased (name : String) (place : Mark) : Read Nat := do
  match (← get).anchors.lookup name with
  | none => throw (.plain ("found undefined alias " ++ Text.quoted name) place)
  | some number => pure number

/-- Checks that an anchor at a place is the first one of its name. -/
def checkAnchor (anchor : Option String) (place : Mark) : Read Unit := do
  match anchor with
  | none => pure ()
  | some name =>
    match (← get).anchors.lookup name with
    | some first =>
      throw (.during ("found duplicate anchor " ++ Text.quoted name ++ "; first occurrence")
        ((← get).graph.node first).start "second occurrence" place)
    | none => pure ()

/-- Adds a node under its anchor. -/
def addNamed (anchor : Option String) (n : Node) : Read Nat := do
  checkAnchor anchor n.start
  let number ← add n
  match anchor with
  | none => pure ()
  | some name => modify fun r => { r with anchors := (name, number) :: r.anchors }
  pure number

/-- Adds a collection, in which its own anchor is known already. -/
def addCollection (anchor : Option String) (tag : Tag) (start : Mark) (read : Read Content) :
    Read Nat := do
  let number ← addNamed anchor ⟨tag, .sequence [], start⟩
  let content ← read
  modify fun r => { r with graph := r.graph.modify number fun n => { n with content } }
  pure number

/-- What stands before a node: its anchor and its tag as it is written, the place of the first of them,
and that of the tag. -/
structure Properties where
  anchor : Option String := none
  tag : Option (Option String × String) := none
  start : Option Mark := none
  tagPlace : Mark := {}
  deriving Repr, Inhabited

/-- Reads up to two properties, one of each kind. -/
def properties : Nat → Properties → Read Properties
  | 0, p => pure p
  | fuel + 1, p => do
    let t ← peek
    match t.kind, p.anchor, p.tag with
    | .anchor name, none, _ => do
      let _ ← take
      properties fuel { p with anchor := some name, start := some (p.start.getD t.start) }
    | .tag handle suffix, _, none => do
      let _ ← take
      properties fuel { p with tag := some (handle, suffix), start := some (p.start.getD t.start),
                               tagPlace := t.start }
    | _, _, _ => pure p

/-- The tag that properties write, with its handle replaced by what it means. A mark of exclamation by
itself says nothing about a collection, and has a scalar read as if it were plain. -/
def tagText (p : Properties) (start : Mark) : Read (Option String) := do
  match p.tag with
  | none => pure none
  | some (none, suffix) => pure (some suffix)
  | some (some handle, suffix) =>
    match (← get).handles.lookup handle with
    | some meaning => pure (some (meaning ++ suffix))
    | none =>
      throw (.during "while parsing a node" start
        ("found undefined tag handle " ++ Text.quoted handle) p.tagPlace)

/-- The tag of a collection. -/
def collectionTag (written : Option String) (default : Tag) : Tag :=
  match written with
  | none => default
  | some s => if s == "!" then default else .ofText s

/-- The tag of a scalar. -/
def scalarTag (written : Option String) (plain : Bool) (text : Wording) : Tag :=
  match written with
  | none => if plain then .ofWording text else .str
  | some s => if s == "!" then .ofWording text else .ofText s

/-- Adds the empty scalar. -/
def emptyScalar (m : Mark) : Read Nat :=
  add ⟨.ofPlain "", .scalar "", m⟩

/-- Where a node stands: inside brackets, inside a block, or after a key of a block, where a sequence
needs no deeper column. -/
inductive Setting where
  | flow
  | block
  | entry
  deriving Repr, DecidableEq, Inhabited

/-- How messages name a setting. -/
def Setting.name : Setting → String
  | .flow => "flow"
  | _ => "block"

/-- Reads a node, or the empty scalar at the given place before one of some tokens. -/
def nodeUnless (node : Setting → Read Nat) (setting : Setting) (stops : List TokenKind) (m : Mark) :
    Read Nat := do
  if ← nextIn stops then emptyScalar m else node setting

/-- Reads the value after a key, or the empty scalar where there is none. -/
def valueOf (node : Setting → Read Nat) (setting : Setting) (stops : List TokenKind) : Read Nat := do
  if ← nextIn [.value] then
    let t ← take
    nodeUnless node setting stops t.stop
  else emptyScalar (← peek).start

/-- The items of a block sequence. -/
def blockItems (node : Setting → Read Nat) (first : Mark) : Nat → Read (List Nat)
  | 0 => pure []
  | fuel + 1 => do
    if ← nextIn [.blockEntry] then
      let t ← take
      let n ← nodeUnless node .block [.blockEntry, .blockEnd] t.stop
      pure (n :: (← blockItems node first fuel))
    else if ← nextIn [.blockEnd] then
      let _ ← take
      pure []
    else failAtNext (.during "while parsing a block collection" first) "expected <block end>, but found "

/-- The items of a sequence that stands in the column of its key. -/
def entryItems (node : Setting → Read Nat) : Nat → Read (List Nat)
  | 0 => pure []
  | fuel + 1 => do
    if ← nextIn [.blockEntry] then
      let t ← take
      let n ← nodeUnless node .block [.blockEntry, .key, .value, .blockEnd] t.stop
      pure (n :: (← entryItems node fuel))
    else pure []

/-- The entries of a block mapping. -/
def blockEntries (node : Setting → Read Nat) (first : Mark) : Nat → Read (List (Nat × Nat))
  | 0 => pure []
  | fuel + 1 => do
    if ← nextIn [.key] then
      let t ← take
      let key ← nodeUnless node .entry [.key, .value, .blockEnd] t.stop
      let value ← valueOf node .entry [.key, .value, .blockEnd]
      pure ((key, value) :: (← blockEntries node first fuel))
    else if ← nextIn [.blockEnd] then
      let _ ← take
      pure []
    else failAtNext (.during "while parsing a block mapping" first) "expected <block end>, but found "

/-- Moves past the comma between two items in brackets. -/
def comma (problem : String → Mark → Fault) (closing : String) (isFirst : Bool) : Read Unit := do
  if !isFirst then
    if ← nextIn [.flowEntry] then
      let _ ← take
    else failAtNext problem ("expected ',' or '" ++ closing ++ "', but got ")

/-- The items of a sequence in brackets. A key among them makes a mapping of one entry. -/
def flowItems (node : Setting → Read Nat) (first : Mark) (isFirst : Bool) : Nat → Read (List Nat)
  | 0 => pure []
  | fuel + 1 => do
    if ← nextIn [.flowSequenceEnd] then
      let _ ← take
      pure []
    else
      comma (.during "while parsing a flow sequence" first) "]" isFirst
      if ← nextIn [.key] then
        let t ← take
        let pair ← addCollection none .map t.start do
          let key ← nodeUnless node .flow [.value, .flowEntry, .flowSequenceEnd] t.stop
          let value ← valueOf node .flow [.flowEntry, .flowSequenceEnd]
          pure (.mapping [(key, value)])
        pure (pair :: (← flowItems node first false fuel))
      else if ← nextIn [.flowSequenceEnd] then
        let _ ← take
        pure []
      else
        let n ← node .flow
        pure (n :: (← flowItems node first false fuel))

/-- The entries of a mapping in braces. An item without a colon is a key without a value. -/
def flowEntries (node : Setting → Read Nat) (first : Mark) (isFirst : Bool) :
    Nat → Read (List (Nat × Nat))
  | 0 => pure []
  | fuel + 1 => do
    if ← nextIn [.flowMappingEnd] then
      let _ ← take
      pure []
    else
      comma (.during "while parsing a flow mapping" first) "\x7d" isFirst
      if ← nextIn [.key] then
        let t ← take
        let key ← nodeUnless node .flow [.value, .flowEntry, .flowMappingEnd] t.stop
        let value ← valueOf node .flow [.flowEntry, .flowMappingEnd]
        pure ((key, value) :: (← flowEntries node first false fuel))
      else if ← nextIn [.flowMappingEnd] then
        let _ ← take
        pure []
      else
        let key ← node .flow
        let value ← emptyScalar (← peek).start
        pure ((key, value) :: (← flowEntries node first false fuel))

/-- Reads the parts of a node after its properties. -/
def content (node : Setting → Read Nat) (fuel : Nat) (setting : Setting) (p : Properties) :
    Read Nat := do
  let start ← match p.start with
    | some m => pure m
    | none => do pure (← peek).start
  let written ← tagText p start
  let items (read : Read (List Nat)) : Read Nat :=
    addCollection p.anchor (collectionTag written .seq) start do pure (.sequence (← read))
  let entries (read : Mark → Read (List (Nat × Nat))) : Read Nat :=
    addCollection p.anchor (collectionTag written .map) start do
      let first ← take
      pure (.mapping (← read first.start))
  let scalar (plain : Bool) (text : Wording) : Read Nat :=
    addNamed p.anchor ⟨scalarTag written plain text, .scalar text, start⟩
  let t ← peek
  match t.kind, setting with
  | .blockEntry, .entry => items (entryItems node fuel)
  | .scalar text plain, _ => do
    let _ ← take
    scalar plain text
  | .flowSequenceStart, _ => items do
      let first ← take
      flowItems node first.start true fuel
  | .flowMappingStart, _ => entries fun m => flowEntries node m true fuel
  | kind, setting =>
    if kind == .blockSequenceStart && setting != .flow then items do
      let first ← take
      blockItems node first.start fuel
    else if kind == .blockMappingStart && setting != .flow then
      entries fun m => blockEntries node m fuel
    else if p.start.isSome then scalar true ""
    else
      failAtNext (.during ("while parsing a " ++ setting.name ++ " node") start)
        "expected the node content, but found "

/-- Reads a node; `fuel` bounds the number of levels and of items in each. -/
def node : Nat → Setting → Read Nat
  | 0, _ => do emptyScalar (← peek).start
  | fuel + 1, setting => do
    let t ← peek
    match t.kind with
    | .alias name => do
      let _ ← take
      aliased name t.start
    | _ => do
      let p ← properties 2 {}
      content (node fuel) fuel setting p

/-! ## Reading documents -/

/-- Reads directives. A directive of the version comes once, and each handle is given a meaning once. -/
def directives (versionSeen : Bool) : Nat → Read Unit
  | 0 => pure ()
  | fuel + 1 => do
    let t ← peek
    match t.kind with
    | .version major _ => do
      let _ ← take
      if versionSeen then throw (.plain "found duplicate YAML directive" t.start)
      if major != 1 then
        throw (.plain "found incompatible YAML document (version 1.* is required)" t.start)
      directives true fuel
    | .handle h meaning => do
      let _ ← take
      if ((← get).handles.lookup h).isSome then
        throw (.plain ("duplicate tag handle " ++ Text.quoted h) t.start)
      modify fun r => { r with handles := r.handles ++ [(h, meaning)] }
      directives versionSeen fuel
    | .directive => do
      let _ ← take
      directives versionSeen fuel
    | _ => pure ()

/-- Whether a token is a directive. -/
def isDirective : TokenKind → Bool
  | .version .. => true
  | .handle .. => true
  | .directive => true
  | _ => false

/-- Moves past marks for the ends of documents. -/
def skipEnds : Nat → Read Unit
  | 0 => pure ()
  | fuel + 1 => do
    if ← nextIn [.documentEnd] then
      let _ ← take
      skipEnds fuel

/-- Moves to the content of the next document and gives the place where the document starts, or nothing
at the end of the text. The first document needs no mark. -/
def nextDocument (fuel : Nat) (isFirst : Bool) : Read (Option Mark) := do
  let t ← peek
  if isFirst && !isDirective t.kind && t.kind != .documentStart && t.kind != .streamEnd then
    modify fun r => { r with handles := defaultHandles }
    pure (some t.start)
  else
    skipEnds fuel
    let t ← peek
    if t.kind == .streamEnd then pure none
    else
      modify fun r => { r with handles := [] }
      directives false fuel
      modify fun r => { r with handles := r.handles ++ defaultHandles }
      if ← nextIn [.documentStart] then
        let _ ← take
        pure (some t.start)
      else failAtNext .plain "expected '<document start>', but found "

/-- Reads the content of a document, which may be empty after its mark. -/
def documentContent (fuel : Nat) (marked : Bool) : Read Nat := do
  let t ← peek
  let stops := isDirective t.kind || t.kind == .documentStart || t.kind == .documentEnd ||
    t.kind == .streamEnd
  if marked && stops then emptyScalar t.start else node fuel .block

/-- Reads the only document of a text, if there is one. -/
def onlyDocument (fuel : Nat) : Read (Option Document) := do
  let _ ← take
  let before ← peek
  match ← nextDocument fuel true with
  | none => pure none
  | some _ =>
    let marked := isDirective before.kind || before.kind == .documentStart
    let root ← documentContent fuel marked
    if ← nextIn [.documentEnd] then
      let _ ← take
    let graph := (← get).graph
    match ← nextDocument fuel false with
    | none => pure (some ⟨graph, root⟩)
    | some second =>
      throw (.during "expected a single document in the stream" (graph.node root).start
        "but found another document" second)

end Reader

/-- The only document of a text, if there is one. -/
def Document.read? (s : Source) : Except Fault (Option Document) :=
  ((Reader.onlyDocument (4 * s.chars.length + 8)).run { lexer := .ofSource s }).map Prod.fst

end SolutionSurvey.Yaml
