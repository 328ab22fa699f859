import SolutionSurvey.Xml.Fault
import SolutionSurvey.Xml.Token

/-!
# Document type declarations

The declarations in front of the root element. Of their contents, internal entities and default
attributes matter to what follows; everything else is only checked for its form, token by token.

## Main definitions

* `Xml.Entity`, `Xml.DefaultAttribute`, `Xml.Doctype` — what is remembered.
* `Xml.DeclState` — how far the tokens of the declarations have been read.
* `Xml.DeclState.next` — the state after one token and what the token does.
-/

namespace SolutionSurvey.Xml

/-- What an entity stands for. -/
inductive Entity where
  | internal (content : List Char)
  | external
  | binary
  deriving Repr, Inhabited

/-- A default attribute of the elements of one name. -/
structure DefaultAttribute where
  element : String
  name : String
  /-- Whether blanks in the value stand for themselves. -/
  isPlain : Bool
  value : Option (List Char)
  deriving Repr, Inhabited

/-- What the declarations of a document say. -/
structure Doctype where
  entities : List (String × Entity) := []
  defaults : List DefaultAttribute := []
  /-- Whether there are declarations elsewhere, which are not read. -/
  isPartial : Bool := false
  /-- Whether a reference stands for declarations, so that what follows it may not count. -/
  isInterrupted : Bool := false
  /-- Whether the document says that it stands by itself. -/
  isStandalone : Bool := false
  deriving Repr, Inhabited

/-- Whether further declarations still count. -/
def Doctype.reads (d : Doctype) : Bool :=
  !d.isInterrupted || d.isStandalone

/-- Whether an entity that is not declared here is declared nowhere. -/
def Doctype.isComplete (d : Doctype) : Bool :=
  !d.isPartial || d.isStandalone

/-- The two signs between the parts of a group in a content model. A group has only one of them. -/
inductive Connector where
  | choice
  | sequence
  deriving Repr, DecidableEq, Inhabited

/-- How far the tokens of the declarations have been read. In a content model the signs of the open groups
are kept, innermost first, as far as they are known. -/
inductive DeclState where
  | prologStart
  | prologMisc
  | prologAfter
  | doctypeName
  | doctypeId
  | doctypePublic
  | doctypeSystem
  | doctypeSubset
  | doctypeEnd
  | subset
  | entityStart
  | entityParameter
  | entityValue (name : String)
  | entityPublic (name : String)
  | entitySystem (name : String)
  | entityData (name : String)
  | entityNotation (name : String)
  | parameterValue
  | parameterPublic
  | parameterSystem
  | parameterEnd
  | notationName
  | notationId
  | notationPublic
  | notationSystem
  | notationEnd
  | attlistElement
  | attlistName (element : String)
  | attlistType (element name : String)
  | attlistChoice (element name : String)
  | attlistChoiceNext (element name : String)
  | attlistNotation (element name : String)
  | attlistNotationName (element name : String)
  | attlistNotationNext (element name : String)
  | attlistDefault (element name : String) (isPlain : Bool)
  | attlistFixed (element name : String) (isPlain : Bool)
  | elementName
  | elementModel
  | elementGroup
  | elementMixed
  | elementMixedName
  | elementMixedNext
  | elementItem (groups : List (Option Connector))
  | elementNext (groups : List (Option Connector))
  | declEnd
  deriving Repr, DecidableEq, Inhabited

/-- Whether a character may stand in a public identifier. -/
def isPublicIdChar (c : Char) : Bool :=
  (c.toNat < 128 && c.isAlphanum) || " \r\n-'()+,./:=?;!*#@$_%".toList.contains c

/-- What a token of the prolog does, besides moving on. -/
inductive DeclEffect where
  | nothing
  | declaration
  | instance_
  | external
  | publicId (value : List Char)
  /-- The public identifier of the declarations that stand elsewhere. -/
  | externalPublicId (value : List Char)
  | parameterReference
  | entity (name : String) (value : List Char)
  | parameterEntity (value : List Char)
  | externalEntity (name : String)
  | binaryEntity (name : String)
  | attribute_ (element name : String) (isPlain : Bool) (value : Option (List Char))
  deriving Repr, Inhabited

namespace DeclState

/-- The types of attributes whose names may stand in a declaration. -/
def attributeTypes : List String :=
  ["CDATA", "ID", "IDREF", "IDREFS", "ENTITY", "ENTITIES", "NMTOKEN", "NMTOKENS"]

/-- The name that a token gives where a prefix is allowed. -/
def nameOf? : PrologToken → Option String
  | .name s => some s
  | .prefixedName s => some s
  | _ => none

/-- The states in front of and after the document type declaration. -/
def nextMisc (s : DeclState) (t : PrologToken) : Option (DeclState × DeclEffect) :=
  let after : DeclState := match s with
    | .prologStart => .prologMisc
    | other => other
  match t with
  | .space | .comment | .instruction => some (after, .nothing)
  | .declaration => if s = .prologStart then some (after, .declaration) else none
  | .declOpen word =>
    if word = "DOCTYPE" ∧ s ≠ .prologAfter then some (.doctypeName, .nothing) else none
  | .instanceStart => some (s, .instance_)
  | _ => none

/-- The states inside an entity declaration. -/
def nextEntity (s : DeclState) (t : PrologToken) : Option (DeclState × DeclEffect) :=
  match s, t with
  | .entityStart, .percent => some (.entityParameter, .nothing)
  | .entityStart, .name n => some (.entityValue n, .nothing)
  | .entityParameter, .name _ => some (.parameterValue, .nothing)
  | .entityValue n, .name "SYSTEM" => some (.entitySystem n, .nothing)
  | .entityValue n, .name "PUBLIC" => some (.entityPublic n, .nothing)
  | .entityValue n, .literal v => some (.declEnd, .entity n v)
  | .entityPublic n, .literal v => some (.entitySystem n, .publicId v)
  | .entitySystem n, .literal _ => some (.entityData n, .nothing)
  | .entityData n, .declClose => some (.subset, .externalEntity n)
  | .entityData n, .name "NDATA" => some (.entityNotation n, .nothing)
  | .entityNotation n, .name _ => some (.declEnd, .binaryEntity n)
  | .parameterValue, .name "SYSTEM" => some (.parameterSystem, .nothing)
  | .parameterValue, .name "PUBLIC" => some (.parameterPublic, .nothing)
  | .parameterValue, .literal v => some (.declEnd, .parameterEntity v)
  | .parameterPublic, .literal v => some (.parameterSystem, .publicId v)
  | .parameterSystem, .literal _ => some (.parameterEnd, .nothing)
  | .parameterEnd, .declClose => some (.subset, .nothing)
  | .notationName, .name _ => some (.notationId, .nothing)
  | .notationId, .name "SYSTEM" => some (.notationSystem, .nothing)
  | .notationId, .name "PUBLIC" => some (.notationPublic, .nothing)
  | .notationPublic, .literal v => some (.notationEnd, .publicId v)
  | .notationSystem, .literal _ => some (.declEnd, .nothing)
  | .notationEnd, .literal _ => some (.declEnd, .nothing)
  | .notationEnd, .declClose => some (.subset, .nothing)
  | _, _ => none

/-- The states inside a declaration of attributes. -/
def nextAttlist (s : DeclState) (t : PrologToken) : Option (DeclState × DeclEffect) :=
  match s, t with
  | .attlistElement, t => (nameOf? t).map fun e => (.attlistName e, .nothing)
  | .attlistName _, .declClose => some (.subset, .nothing)
  | .attlistName e, t => (nameOf? t).map fun n => (.attlistType e n, .nothing)
  | .attlistType e n, .name "NOTATION" => some (.attlistNotation e n, .nothing)
  | .attlistType e n, .name type =>
    if attributeTypes.contains type then some (.attlistDefault e n (type == "CDATA"), .nothing) else none
  | .attlistType e n, .openParen => some (.attlistChoice e n, .nothing)
  | .attlistChoice e n, .nameToken _ => some (.attlistChoiceNext e n, .nothing)
  | .attlistChoice e n, t => (nameOf? t).map fun _ => (.attlistChoiceNext e n, .nothing)
  | .attlistChoiceNext e n, .closeParen => some (.attlistDefault e n false, .nothing)
  | .attlistChoiceNext e n, .bar => some (.attlistChoice e n, .nothing)
  | .attlistNotation e n, .openParen => some (.attlistNotationName e n, .nothing)
  | .attlistNotationName e n, .name _ => some (.attlistNotationNext e n, .nothing)
  | .attlistNotationNext e n, .closeParen => some (.attlistDefault e n false, .nothing)
  | .attlistNotationNext e n, .bar => some (.attlistNotationName e n, .nothing)
  | .attlistDefault e n p, .poundName "IMPLIED" => some (.attlistName e, .attribute_ e n p none)
  | .attlistDefault e n p, .poundName "REQUIRED" => some (.attlistName e, .attribute_ e n p none)
  | .attlistDefault e n p, .poundName "FIXED" => some (.attlistFixed e n p, .nothing)
  | .attlistDefault e n p, .literal v => some (.attlistName e, .attribute_ e n p (some v))
  | .attlistFixed e n p, .literal v => some (.attlistName e, .attribute_ e n p (some v))
  | _, _ => none

/-- The state after the innermost group of a content model has closed. -/
def closeGroup : List (Option Connector) → DeclState
  | _ :: above@(_ :: _) => .elementNext above
  | _ => .declEnd

/-- The state after a sign in the innermost group, which may not have had the other one. -/
def connect (c : Connector) : List (Option Connector) → Option (DeclState × DeclEffect)
  | [] => none
  | used :: above =>
    if used.all (· == c) then some (.elementItem (some c :: above), .nothing) else none

/-- Whether a token is a name in a content model. -/
def isModelName : PrologToken → Bool
  | .name _ | .prefixedName _ | .quantifiedName => true
  | _ => false

/-- The states inside an element declaration. -/
def nextElement (s : DeclState) (t : PrologToken) : Option (DeclState × DeclEffect) :=
  let go (s : DeclState) : Option (DeclState × DeclEffect) := some (s, .nothing)
  match s, t with
  | .elementName, t => (nameOf? t).map fun _ => (.elementModel, .nothing)
  | .elementModel, .name "EMPTY" => go .declEnd
  | .elementModel, .name "ANY" => go .declEnd
  | .elementModel, .openParen => go .elementGroup
  | .elementGroup, .poundName "PCDATA" => go .elementMixed
  | .elementGroup, .openParen => go (.elementItem [none, none])
  | .elementGroup, t => if isModelName t then go (.elementNext [none]) else none
  | .elementMixed, .closeParen => go .declEnd
  | .elementMixed, .closeParenStar => go .declEnd
  | .elementMixed, .bar => go .elementMixedName
  | .elementMixedName, t => (nameOf? t).map fun _ => (.elementMixedNext, .nothing)
  | .elementMixedNext, .closeParenStar => go .declEnd
  | .elementMixedNext, .bar => go .elementMixedName
  | .elementItem gs, .openParen => go (.elementItem (none :: gs))
  | .elementItem gs, t => if isModelName t then go (.elementNext gs) else none
  | .elementNext gs, .closeParen => go (closeGroup gs)
  | .elementNext gs, .closeParenStar => go (closeGroup gs)
  | .elementNext gs, .closeParenOther => go (closeGroup gs)
  | .elementNext gs, .comma => connect .sequence gs
  | .elementNext gs, .bar => connect .choice gs
  | _, _ => none

/-- The states of the document type declaration itself. -/
def nextDoctype (s : DeclState) (t : PrologToken) : Option (DeclState × DeclEffect) :=
  match s, t with
  | .doctypeName, t => (nameOf? t).map fun _ => (.doctypeId, .nothing)
  | .doctypeId, .openBracket => some (.subset, .nothing)
  | .doctypeId, .declClose => some (.prologAfter, .nothing)
  | .doctypeId, .name "SYSTEM" => some (.doctypeSystem, .nothing)
  | .doctypeId, .name "PUBLIC" => some (.doctypePublic, .nothing)
  | .doctypePublic, .literal v => some (.doctypeSystem, .externalPublicId v)
  | .doctypeSystem, .literal _ => some (.doctypeSubset, .external)
  | .doctypeSubset, .openBracket => some (.subset, .nothing)
  | .doctypeSubset, .declClose => some (.prologAfter, .nothing)
  | .doctypeEnd, .declClose => some (.prologAfter, .nothing)
  | .subset, .declOpen "ENTITY" => some (.entityStart, .nothing)
  | .subset, .declOpen "ATTLIST" => some (.attlistElement, .nothing)
  | .subset, .declOpen "ELEMENT" => some (.elementName, .nothing)
  | .subset, .declOpen "NOTATION" => some (.notationName, .nothing)
  | .subset, .instruction => some (.subset, .nothing)
  | .subset, .comment => some (.subset, .nothing)
  | .subset, .parameterReference => some (.subset, .parameterReference)
  | .subset, .closeBracket => some (.doctypeEnd, .nothing)
  | .declEnd, .declClose => some (.subset, .nothing)
  | _, _ => none

/-- Whether a state lies outside the document type declaration. -/
def isMisc : DeclState → Bool
  | .prologStart | .prologMisc | .prologAfter => true
  | _ => false

/-- The state after one token and what the token does, if the token may stand there. -/
def next (s : DeclState) (t : PrologToken) : Option (DeclState × DeclEffect) :=
  if s.isMisc then nextMisc s t
  else if t = .space then some (s, .nothing)
  else nextDoctype s t <|> nextEntity s t <|> nextAttlist s t <|> nextElement s t

end DeclState

end SolutionSurvey.Xml
