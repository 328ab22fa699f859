import SolutionSurvey.Failure

/-!
# Tokens of YAML

The tokens of a YAML document, the places where they stand, and the problems that a document may have.

## Main definitions

* `Yaml.Mark` — a place.
* `Yaml.Problem` — a problem with its place, and perhaps what was under way and from where on;
  `Yaml.Problem.toText` words it.
* `Yaml.Fault` — a problem, or another failure.
* `Yaml.TokenKind`, `Yaml.Token` — the tokens.
-/

namespace SolutionSurvey.Yaml

/-! ## Places and problems -/

/-- A place in a document: characters, lines and columns before it. A byte order mark takes no column. -/
structure Mark where
  index : Nat := 0
  line : Nat := 0
  column : Nat := 0
  deriving Repr, DecidableEq, Inhabited

/-- The text of a place in a named document. -/
def Mark.toText (name : String) (m : Mark) : String :=
  "  in \"" ++ name ++ "\", line " ++ toString (m.line + 1) ++ ", column " ++ toString (m.column + 1)

/-- What is wrong with a document. -/
inductive Problem where
  /-- A problem at a place, and perhaps what was under way and from where on. -/
  | at_ (activity : Option String) (since : Option Mark) (fault : String) (place : Mark)
  /-- A character that may not occur at all. -/
  | unprintable (code position : Nat)
  deriving Repr, Inhabited

namespace Problem

/-- The words for a problem in a named document. The place where the activity began is left out when it
is the place of the fault. -/
def toText (name : String) : Problem → String
  | .at_ activity since fault place =>
    let began := match since with
      | some m => if m.line = place.line ∧ m.column = place.column then [] else [m.toText name]
      | none => []
    "\n".intercalate (activity.toList ++ began ++ [fault, place.toText name])
  | .unprintable code position =>
    "unacceptable character #x" ++ Text.hex 4 code ++ ": special characters are not allowed\n  in \"" ++
      name ++ "\", position " ++ toString position

/-- A problem without an activity. -/
def plain (fault : String) (place : Mark) : Problem :=
  .at_ none none fault place

/-- A problem of an activity that began at a place. -/
def during (activity : String) (since : Mark) (fault : String) (place : Mark) : Problem :=
  .at_ (some activity) (some since) fault place

end Problem

/-- What keeps a document from being read: a problem, which has a place, or another failure. -/
inductive Fault where
  | problem (p : Problem)
  | failure (f : Failure)
  deriving Repr, Inhabited

namespace Fault

/-- A problem without an activity. -/
def plain (fault : String) (place : Mark) : Fault :=
  .problem (.plain fault place)

/-- A problem of an activity that began at a place. -/
def during (activity : String) (since : Mark) (fault : String) (place : Mark) : Fault :=
  .problem (.during activity since fault place)

end Fault

/-! ## Tokens -/

/-- The tokens. -/
inductive TokenKind where
  | streamStart
  | streamEnd
  /-- A directive of the given version of the format. -/
  | version (major minor : Nat)
  /-- A directive that gives a meaning to a handle. -/
  | handle (handle meaning : String)
  /-- Any other directive. -/
  | directive
  | documentStart
  | documentEnd
  | blockSequenceStart
  | blockMappingStart
  | blockEnd
  | flowSequenceStart
  | flowMappingStart
  | flowSequenceEnd
  | flowMappingEnd
  | key
  | value
  | blockEntry
  | flowEntry
  | alias (name : String)
  | anchor (name : String)
  | tag (handle : Option String) (suffix : String)
  | scalar (text : Wording) (plain : Bool)
  deriving Repr, DecidableEq, Inhabited

/-- How messages name a token. -/
def TokenKind.id : TokenKind → String
  | .streamStart => "<stream start>"
  | .streamEnd => "<stream end>"
  | .version .. | .handle .. | .directive => "<directive>"
  | .documentStart => "<document start>"
  | .documentEnd => "<document end>"
  | .blockSequenceStart => "<block sequence start>"
  | .blockMappingStart => "<block mapping start>"
  | .blockEnd => "<block end>"
  | .flowSequenceStart => "["
  | .flowMappingStart => "\x7b"
  | .flowSequenceEnd => "]"
  | .flowMappingEnd => "\x7d"
  | .key => "?"
  | .value => ":"
  | .blockEntry => "-"
  | .flowEntry => ","
  | .alias _ => "<alias>"
  | .anchor _ => "<anchor>"
  | .tag .. => "<tag>"
  | .scalar .. => "<scalar>"

/-- A token with the places where it starts and stops. -/
structure Token where
  kind : TokenKind
  start : Mark
  stop : Mark
  deriving Repr, DecidableEq, Inhabited

end SolutionSurvey.Yaml
