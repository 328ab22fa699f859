import SolutionSurvey.Xml.Doctype

/-!
# Attributes and namespaces

From the attributes as they are written to the attributes of an element: references are replaced, blanks
normalized, defaults added, prefixes replaced by the namespaces that they are bound to.

## Main definitions

* `Xml.expandValue` — the value that a written value stands for.
* `Xml.Scope` — the prefixes in force, with `Xml.bind` for a new one.
* `Xml.resolveTag` — the name and attributes of an element, and the scope inside it.
-/

namespace SolutionSurvey.Xml

/-- The namespace that the prefix of the standard is bound to. -/
def xmlNamespace : String := "http://www.w3.org/XML/1998/namespace"

/-- The namespace of namespace declarations. -/
def xmlnsNamespace : String := "http://www.w3.org/2000/xmlns/"

/-- The character of a predefined entity. -/
def predefined? (name : String) : Option Char :=
  match name with
  | "lt" => some '<'
  | "gt" => some '>'
  | "amp" => some '&'
  | "quot" => some '"'
  | "apos" => some '\''
  | _ => none

/-- Whether a reference may stand for a code point. -/
def isCodePoint (n : Nat) : Bool :=
  n < 0x110000 && !(0xD800 ≤ n && n < 0xE000) && isLegal (Char.ofNat n)

/-! ## Values -/

/-- What is wrong with a value, and where, if the place is known. -/
abbrev ValueProblem := FaultCause × Option (List Char)

/-- Adds a blank to a value, last first; in a value of tokens blanks do not repeat or lead. -/
def addBlank (isPlain : Bool) (done : List Char) : List Char :=
  if isPlain then ' ' :: done
  else
    match done with
    | [] => []
    | ' ' :: _ => done
    | _ => ' ' :: done

/-- Where a value is written. -/
inductive ValuePlace where
  /-- In a tag. -/
  | tag
  /-- In the declaration of an attribute. -/
  | declaration
  deriving Repr, DecidableEq, Inhabited

/-- Whether a reference to an entity that is not declared is a fault. In a declaration of a document that
stands by itself only the value as it is written is held to that. -/
def isBound (d : Doctype) (p : ValuePlace) (open_ : List String) : Bool :=
  if p == .declaration && d.isStandalone then open_.isEmpty else d.isComplete

/-- The characters that a written value stands for, added to `done`, last first. The entities in `open_`
are being replaced; `inside` reads the content of one more of them, if there may be one. -/
def expandWith (d : Doctype) (p : ValuePlace) (isPlain : Bool) (k : Letters) (open_ : List String)
    (inside : Option (String → List Char → List Char → Except ValueProblem (List Char))) (fuel : Nat)
    (done cs : List Char) : Except ValueProblem (List Char) :=
  match fuel, cs with
  | 0, _ => .ok done
  | _, [] => .ok done
  | fuel + 1, '\r' :: '\n' :: rest =>
    expandWith d p isPlain k open_ inside fuel (addBlank isPlain done) rest
  | fuel + 1, c :: rest =>
    if isSpace c then expandWith d p isPlain k open_ inside fuel (addBlank isPlain done) rest
    else if c = '&' then
      match scanReference k rest with
      | .token (.char n) after =>
        if isCodePoint n then
          let done := if n = 0x20 then addBlank isPlain done else Char.ofNat n :: done
          expandWith d p isPlain k open_ inside fuel done after
        else .error (.badCharReference, some cs)
      | .token (.entity name) after =>
        match predefined? name with
        | some x => expandWith d p isPlain k open_ inside fuel (x :: done) after
        | none =>
          match d.entities.lookup name with
          | none =>
            if isBound d p open_ then .error (.undefinedEntity, none)
            else expandWith d p isPlain k open_ inside fuel done after
          | some (.internal content) =>
            if open_.contains name then .error (.recursiveEntity, some cs)
            else
              match inside with
              | none => .error (.recursiveEntity, some cs)
              | some read =>
                match read name done content with
                | .ok done => expandWith d p isPlain k open_ inside fuel done after
                | .error e => .error (e.1, none)
          | some .external => .error (.externalInAttribute, some cs)
          | some .binary => .error (.binaryEntity, some cs)
      | .short _ => .error (.invalidToken, some cs)
      | .misfit r => .error (.invalidToken, some r)
    else if c = '<' then .error (.invalidToken, some cs)
    else expandWith d p isPlain k open_ inside fuel (c :: done) rest

/-- The characters that a written value stands for, added to `done`, last first. The entities in `open_`
are being replaced; `depth` bounds how many more of them can be. -/
def expandFrom (d : Doctype) (p : ValuePlace) (isPlain : Bool) (k : Letters) (open_ : List String)
    (done cs : List Char) : Nat → Except ValueProblem (List Char)
  | 0 => expandWith d p isPlain k open_ none (cs.length + 1) done cs
  | depth + 1 =>
    let inside (name : String) (done content : List Char) :=
      expandFrom d p isPlain .listed (name :: open_) done content depth
    expandWith d p isPlain k open_ (some inside) (cs.length + 1) done cs

/-- The value that a written value stands for. -/
def expandValue (d : Doctype) (p : ValuePlace) (isPlain : Bool) (k : Letters) (cs : List Char) :
    Except ValueProblem String :=
  (expandFrom d p isPlain k [] [] cs (d.entities.length + 1)).map fun done =>
    let done := if isPlain then done else done.dropWhile (· == ' ')
    String.ofList done.reverse

/-! ## Namespaces -/

/-- The prefixes in force with their namespaces, innermost first; the empty prefix is the default one,
and an empty namespace is none. -/
abbrev Scope := List (String × String)

/-- The scope of a document. -/
def outerScope : Scope := [("xml", xmlNamespace)]

/-- The namespace of a prefix. -/
def namespace? (scope : Scope) (p : String) : Option String :=
  match scope.lookup p with
  | some "" => none
  | r => r

/-- The scope with one more prefix. -/
def bind (scope : Scope) (p uri : String) : Except FaultCause Scope :=
  if uri = "" ∧ p ≠ "" then .error .undeclaringPrefix
  else if p = "xmlns" then .error .reservedXmlns
  else if uri.toList.contains '\x7d' then .error .syntaxError
  else if p = "xml" ∧ uri ≠ xmlNamespace then .error .reservedXml
  else if p ≠ "xml" ∧ uri = xmlNamespace then .error .reservedNamespace
  else if uri = xmlnsNamespace then .error .reservedNamespace
  else .ok ((p, uri) :: scope)

/-- The prefix and the local part of a name. -/
def splitName (name : String) : Option (String × String) :=
  match name.toList.splitOn ':' with
  | [a, b] => some (String.ofList a, String.ofList b)
  | _ => none

/-- The prefix that an attribute declares, if it declares one. -/
def declaredPrefix? (name : String) : Option String :=
  if name = "xmlns" then some ""
  else
    match splitName name with
    | some ("xmlns", p) => some p
    | _ => none

/-- A name in a namespace. -/
def expandedName (uri part : String) : String :=
  "\x7b" ++ uri ++ "\x7d" ++ part

/-! ## Tags -/

/-- What is wrong with a tag, and where, if not at its start. -/
abbrev TagProblem := FaultCause × Option (List Char)

/-- The values of the written attributes, in order, and the scope with the prefixes they declare. -/
def storeAttributes (d : Doctype) (k : Letters) (element : String) (seen : List String) (scope : Scope)
    (done : List (String × String)) :
    List RawAttribute → Except TagProblem (List (String × String) × List String × Scope)
  | [] => .ok (done.reverse, seen, scope)
  | a :: rest =>
    if seen.contains a.name then .error (.duplicateAttribute, some a.place)
    else
      let isPlain := match d.defaults.find? fun x => x.element == element && x.name == a.name with
        | some x => x.isPlain
        | none => true
      match expandValue d .tag isPlain k a.value with
      | .error (cause, none) => .error (cause, none)
      | .error (cause, some inValue) =>
        -- the value stands after the name in the document, so its rest ends before the rest of the tag
        let skipped := a.value.length - inValue.length
        let opening := a.place.dropWhile fun c => c != '"' && c != '\''
        .error (cause, some ((opening.drop 1).drop skipped))
      | .ok value =>
        match declaredPrefix? a.name with
        | some p =>
          match bind scope p value with
          | .error cause => .error (cause, none)
          | .ok scope => storeAttributes d k element (a.name :: seen) scope done rest
        | none => storeAttributes d k element (a.name :: seen) scope ((a.name, value) :: done) rest

/-- Adds the default attributes of an element that are not written. -/
def addDefaults (seen : List String) (scope : Scope) (done : List (String × String)) :
    List DefaultAttribute → Except TagProblem (List (String × String) × Scope)
  | [] => .ok (done, scope)
  | x :: rest =>
    match x.value with
    | none => addDefaults seen scope done rest
    | some v =>
      if seen.contains x.name then addDefaults seen scope done rest
      else
        match declaredPrefix? x.name with
        | some p =>
          match bind scope p (String.ofList v) with
          | .error cause => .error (cause, none)
          | .ok scope => addDefaults seen scope done rest
        | none => addDefaults seen scope (done ++ [(x.name, String.ofList v)]) rest

/-- The attributes with prefixes replaced by namespaces. -/
def expandNames (scope : Scope) (done : List (String × String)) :
    List (String × String) → Except TagProblem (List (String × String))
  | [] => .ok done.reverse
  | (name, value) :: rest =>
    match splitName name with
    | none => expandNames scope ((name, value) :: done) rest
    | some (p, part) =>
      match namespace? scope p with
      | none => .error (.unboundPrefix, none)
      | some uri =>
        let full := expandedName uri part
        if done.any (·.1 == full) then .error (.duplicateAttribute, none)
        else expandNames scope ((full, value) :: done) rest

/-- The name and the attributes of an element, and the scope inside it. -/
def resolveTag (d : Doctype) (k : Letters) (scope : Scope) (t : StartTag) :
    Except TagProblem (String × List (String × String) × Scope) := do
  let (written, seen, scope) ← storeAttributes d k t.name [] scope [] t.attributes
  let (all, scope) ← addDefaults seen scope written (d.defaults.filter fun x => x.element == t.name)
  let attributes ← expandNames scope [] all
  match splitName t.name with
  | some (p, part) =>
    match namespace? scope p with
    | none => .error (.unboundPrefix, none)
    | some uri => .ok (expandedName uri part, attributes, scope)
  | none =>
    match namespace? scope "" with
    | none => .ok (t.name, attributes, scope)
    | some uri => .ok (expandedName uri t.name, attributes, scope)

end SolutionSurvey.Xml
