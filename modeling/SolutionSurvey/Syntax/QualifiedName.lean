import SolutionSurvey.Syntax.Identifier
import SolutionSurvey.Syntax.Walk

/-!
# Qualified names

The name of a declaration below the types that enclose it, outermost first. Namespaces and other nodes
in between leave no trace.

## Main definitions

* `methodTypes`, `typeDeclarationTypes` — the two groups of node types.
* `enclosingNames` — the names of the enclosing types, innermost first.
* `qualifiedName` — all names joined by points.
-/

namespace SolutionSurvey

variable {ν : Type}

/-- Declarations with a parameter list and a body. -/
def methodTypes : List String :=
  ["method_declaration", "constructor_declaration", "destructor_declaration", "operator_declaration",
    "conversion_operator_declaration"]

/-- Declarations of types. -/
def typeDeclarationTypes : List String :=
  ["class_declaration", "struct_declaration", "interface_declaration", "record_declaration",
    "enum_declaration"]

/-- Whether a node type is one of a group. A type that cannot be looked up is a fault. -/
def isOneOf (group : List String) : Value → Except Failure Bool
  | .text s => .ok (group.contains s)
  | .list _ => .error (.type (.unhashable "list"))
  | .map _ => .error (.type (.unhashable "dict"))
  | .set _ => .error (.type (.unhashable "set"))
  | _ => .ok false

/-- A value, or a replacement for one that is empty or missing. -/
def orElseValue (v : Value) (other : Except Failure Value) : Except Failure Value :=
  if v.truthy then .ok v else other

/-- The text of a node's identifier. -/
def identifierText (view : NodeView ν) (roles : List String) (n : ν) : Except Failure Value :=
  (identifier? view roles (some n)).bind (tokenText view)

/-- The part of a qualified name that a node gives: a type its name, any other node nothing. -/
def enclosingPart (view : NodeView ν) (roles : List String) (n : ν) : Except Failure (List Value) := do
  let type ← view.type n
  if ← isOneOf typeDeclarationTypes type then
    let name ← identifierText view roles n
    let name ← orElseValue name (.ok (.text "?"))
    pure [name]
  else pure []

/-- The names of the types that enclose a node, innermost first, up to `fuel` nodes above it. -/
def enclosingNames (view : NodeView ν) (roles : List String) : Nat → ν → Except Failure (List Value)
  | 0, _ => .ok []
  | fuel + 1, n => do
    match ← view.parent n with
    | none => pure []
    | some p =>
      let here ← enclosingPart view roles p
      let above ← enclosingNames view roles fuel p
      pure (here ++ above)

/-- The last part of a qualified name: the node's own name, or its type in angle brackets. -/
def ownName (view : NodeView ν) (roles : List String) (n : ν) : Except Failure Value := do
  let name ← identifierText view roles n
  orElseValue name ((view.type n).map fun t => .text ("<" ++ t.toText ++ ">"))

/-- The texts among values, or the first value that is none. -/
def textsOf (place : Nat) : List Value → Except Failure (List String)
  | [] => .ok []
  | .text s :: rest => (textsOf (place + 1) rest).map (s :: ·)
  | v :: _ => .error (.type (.notText place v.typeName))

/-- The qualified name of a node. -/
def qualifiedName (view : NodeView ν) (roles : List String) (fuel : Nat) (n : ν) :
    Except Failure String := do
  let above ← enclosingNames view roles fuel n
  let own ← ownName view roles n
  let parts ← textsOf 0 (above.reverse ++ [own])
  pure (".".intercalate parts)

end SolutionSurvey
