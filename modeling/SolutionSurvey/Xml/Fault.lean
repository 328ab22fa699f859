/-!
# Faults of documents

What can be wrong with a document, and where: by line, from one, and by column, from zero, both counted
in characters.

## Main definitions

* `Xml.FaultCause` — the causes, with their texts.
* `Xml.Fault` — a cause and the rest of the document from the place it points to.
* `Xml.lineAndColumn` — the place of a character.
-/

namespace SolutionSurvey.Xml

/-- What can be wrong with a document. -/
inductive FaultCause where
  | syntaxError
  | noElement
  | invalidToken
  | unclosedToken
  | partialCharacter
  | mismatchedTag
  | duplicateAttribute
  | junkAfterRoot
  | undefinedEntity
  /-- An entity that is declared elsewhere, if at all. -/
  | unknownEntity (reference : String)
  | recursiveEntity
  | asynchronousEntity
  | binaryEntity
  | externalInAttribute
  | badCharReference
  | misplacedDeclaration
  | badDeclaration
  | wrongEncoding
  /-- An encoding in which markup cannot be found. -/
  | unknownEncoding
  | unclosedSection
  | parameterReference
  | publicId
  | unboundPrefix
  | undeclaringPrefix
  | reservedXml
  | reservedXmlns
  | reservedNamespace
  deriving Repr, DecidableEq, Inhabited

/-- The text of a cause. -/
def FaultCause.text : FaultCause → String
  | .syntaxError => "syntax error"
  | .noElement => "no element found"
  | .invalidToken => "not well-formed (invalid token)"
  | .unclosedToken => "unclosed token"
  | .partialCharacter => "partial character"
  | .mismatchedTag => "mismatched tag"
  | .duplicateAttribute => "duplicate attribute"
  | .junkAfterRoot => "junk after document element"
  | .undefinedEntity => "undefined entity"
  | .unknownEntity reference => "undefined entity " ++ reference
  | .recursiveEntity => "recursive entity reference"
  | .asynchronousEntity => "asynchronous entity"
  | .binaryEntity => "reference to binary entity"
  | .externalInAttribute => "reference to external entity in attribute"
  | .badCharReference => "reference to invalid character number"
  | .misplacedDeclaration => "XML or text declaration not at start of entity"
  | .badDeclaration => "XML declaration not well-formed"
  | .wrongEncoding => "encoding specified in XML declaration is incorrect"
  | .unknownEncoding => "unknown encoding"
  | .unclosedSection => "unclosed CDATA section"
  | .parameterReference => "illegal parameter entity reference"
  | .publicId => "illegal character(s) in public id"
  | .unboundPrefix => "unbound prefix"
  | .undeclaringPrefix => "must not undeclare prefix"
  | .reservedXml =>
    "reserved prefix (xml) must not be undeclared or bound to another namespace name"
  | .reservedXmlns => "reserved prefix (xmlns) must not be declared or undeclared"
  | .reservedNamespace => "prefix must not be bound to one of the reserved namespace names"

/-- A cause and the rest of the document from the place it points to. -/
structure Fault where
  cause : FaultCause
  at_ : List Char
  deriving Repr, Inhabited

/-- Line and column after some characters. -/
def advance (line column : Nat) : List Char → Nat × Nat
  | [] => (line, column)
  | '\r' :: '\n' :: rest => advance (line + 1) 0 rest
  | c :: rest =>
    if c = '\n' ∨ c = '\r' then advance (line + 1) 0 rest else advance line (column + 1) rest

/-- The place of a character that `before` precedes. -/
def lineAndColumn (before : List Char) : Nat × Nat :=
  advance 1 0 before

end SolutionSurvey.Xml
