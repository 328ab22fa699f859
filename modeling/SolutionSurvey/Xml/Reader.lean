import SolutionSurvey.Xml.Attribute
import SolutionSurvey.Xml.Element
import SolutionSurvey.Xml.Source

/-!
# Reading documents

From bytes to the root element. The prolog is read token by token; the content is read into a stack of
open elements, where character data joins across comments, instructions, sections and references.

## Main definitions

* `Xml.Frame` — an element that is still open.
* `Xml.readContent` — the content up to the end of the root element.
* `Xml.readProlog` — everything before the root element.
* `Xml.parse` — the root element of a document.
-/

namespace SolutionSurvey.Xml

/-! ## Open elements -/

/-- An element that is still open. `data` holds the character data since its last child, last first. -/
structure Frame where
  raw : String
  tag : String
  attributes : List (String × String)
  scope : Scope
  text : Option String := none
  data : List Char := []
  children : List Element := []
  deriving Inhabited

namespace Frame

/-- The frame with its pending data as text or as the tail of its last child. -/
def settle (f : Frame) : Frame :=
  if f.data.isEmpty then f
  else
    let s := String.ofList f.data.reverse
    match f.children with
    | [] => { f with text := some s, data := [] }
    | c :: rest => { f with children := c.withTail (some s) :: rest, data := [] }

/-- The element of a frame that has come to its end. -/
def close (f : Frame) : Element :=
  let f := f.settle
  .mk f.tag f.attributes f.text none f.children.reverse

/-- The frame with one more child. -/
def add (f : Frame) (e : Element) : Frame :=
  let f := f.settle
  { f with children := e :: f.children }

end Frame

/-- The elements that are open, innermost first, and the root element once it has been closed. -/
structure Builder where
  frames : List Frame := []
  root : Option Element := none
  deriving Inhabited

namespace Builder

/-- Adds character data. -/
def addText (b : Builder) (cs : List Char) : Builder :=
  match b.frames with
  | f :: rest => { b with frames := { f with data := cs.reverse ++ f.data } :: rest }
  | [] => b

/-- Opens an element. -/
def openElement (b : Builder) (f : Frame) : Builder :=
  match b.frames with
  | g :: rest => { b with frames := f :: g.settle :: rest }
  | [] => { b with frames := [f] }

/-- Closes the innermost element. -/
def closeElement (b : Builder) : Builder :=
  match b.frames with
  | f :: g :: rest => { b with frames := g.add f.close :: rest }
  | [f] => ⟨[], some f.close⟩
  | [] => b

/-- The prefixes in force. -/
def scope (b : Builder) : Scope :=
  match b.frames with
  | f :: _ => f.scope
  | [] => outerScope

end Builder

/-! ## Content -/

/-- The fault for a text that stops too early inside a token that starts at `start`. What follows the
text is looked at where it could belong to the token. -/
def shortFault (ending : Ending) (start : List Char) (stop : Stop) : Fault :=
  match ending, stop with
  | _, .units => ⟨.unclosedToken, start⟩
  | .malformed _, _ => ⟨.invalidToken, []⟩
  | .truncated, .any => ⟨.partialCharacter, start⟩
  | .truncated, .sign => ⟨.invalidToken, []⟩
  | _, _ => ⟨.unclosedToken, start⟩

/-- Where a token of the prolog stops too early: in front of bytes that are no character, or at a second
bracket, which may be the beginning of the end of a section. -/
def cutShort? (ending : Ending) (t : PrologToken) (rest : List Char) : Option Stop :=
  if ending.isBroken then t.stop?.filter fun _ => rest.isEmpty
  else if t == .closeBracket && rest == [']'] then some .units
  else none

/-- The fault for a text that stops too early in a section: it points behind what is data for sure. -/
def sectionFault (ending : Ending) (rest : List Char) : Fault :=
  match ending with
  | .malformed _ => ⟨.invalidToken, []⟩
  | .truncated => ⟨.partialCharacter, []⟩
  | _ =>
    let back := match rest.reverse with
      | ']' :: ']' :: _ => 2
      | ']' :: _ => 1
      | '\r' :: _ => 1
      | _ => 0
    ⟨.unclosedSection, rest.drop (rest.length - back)⟩

/-- The fault for a document that ends inside its root element. -/
def endFault (ending : Ending) : Fault :=
  match ending with
  | .clean => ⟨.noElement, []⟩
  | e => shortFault e [] .any

/-- Reads content until the elements opened since the start are closed, or until an entity ends. `base`
elements were open when an entity began; there is none when the document itself is read. The entities
in `open_` are being replaced; `inside` reads the content of one more of them, if there may be one. -/
def readContentWith (d : Doctype) (l : Layout) (base : Option Nat) (open_ : List String)
    (inside : Option (String → Builder → List Char → Except Fault (Builder × List Char))) (fuel : Nat)
    (b : Builder) (cs : List Char) : Except Fault (Builder × List Char) :=
  match fuel with
  | 0 => .ok (b, cs)
  | fuel + 1 =>
    let go (b : Builder) (rest : List Char) := readContentWith d l base open_ inside fuel b rest
    /- after an element has been closed -/
    let goOn (b : Builder) (rest : List Char) : Except Fault (Builder × List Char) :=
      if b.frames.isEmpty then .ok (b, rest)
      else readContentWith d l base open_ inside fuel b rest
    match scanContent l cs with
    | .short stop => .error (shortFault l.ending cs stop)
    | .misfit r => .error ⟨.invalidToken, r⟩
    | .token .nothing _ =>
      match base with
      | none => .error (endFault l.ending)
      | some n => if b.frames.length = n then .ok (b, []) else .error ⟨.asynchronousEntity, cs⟩
    | .token (.text t) rest =>
      if base.isNone && l.ending == .odd && rest.isEmpty && t.getLast? == some ']' then
        .error ⟨.noElement, []⟩
      else go (b.addText t) rest
    | .token .newline rest =>
      if base.isNone && cs == ['\r'] && !l.ending.isBroken then .error ⟨.noElement, cs⟩
      else go (b.addText ['\n']) rest
    | .token .comment rest => go b rest
    | .token .instruction rest => go b rest
    | .token .declaration _ => .error ⟨.misplacedDeclaration, cs⟩
    | .token .sectionOpen rest =>
      match scanSection [] rest with
      | .token t after => go (b.addText t) after
      | .short _ => .error (sectionFault l.ending rest)
      | .misfit r => .error ⟨.invalidToken, r⟩
    | .token (.startTag t) rest =>
      match resolveTag d l.letters b.scope t with
      | .error (cause, at_) => .error ⟨cause, at_.getD cs⟩
      | .ok (tag, attributes, scope) =>
        let b := b.openElement { raw := t.name, tag, attributes, scope }
        if t.isEmpty then goOn b.closeElement rest else go b rest
    | .token (.endTag name) rest =>
      if base == some b.frames.length then .error ⟨.asynchronousEntity, cs⟩
      else
        match b.frames with
        | [] => .error ⟨.mismatchedTag, cs⟩
        | f :: _ =>
          if f.raw = name then goOn b.closeElement rest else .error ⟨.mismatchedTag, cs.drop 2⟩
    | .token (.reference (.char n)) rest =>
      if isCodePoint n then go (b.addText [Char.ofNat n]) rest else .error ⟨.badCharReference, cs⟩
    | .token (.reference (.entity name)) rest =>
      match predefined? name with
      | some c => go (b.addText [c]) rest
      | none =>
        match d.entities.lookup name with
        | none =>
          if d.isComplete then .error ⟨.undefinedEntity, cs⟩
          else .error ⟨.unknownEntity ("&" ++ name ++ ";"), cs⟩
        | some .external => .error ⟨.unknownEntity ("&" ++ name ++ ";"), cs⟩
        | some .binary => .error ⟨.binaryEntity, cs⟩
        | some (.internal content) =>
          if open_.contains name then .error ⟨.recursiveEntity, cs⟩
          else
            match inside with
            | none => .error ⟨.recursiveEntity, cs⟩
            | some read =>
              match read name b content with
              | .error f => .error { f with at_ := cs }
              | .ok (b, _) => readContentWith d l base open_ inside fuel b rest

/-- Reads content until the elements opened since the start are closed, or until an entity ends. The
entities in `open_` are being replaced, and `depth` bounds how many more of them can be. -/
def readContent (d : Doctype) (l : Layout) (base : Option Nat) (open_ : List String) (b : Builder)
    (cs : List Char) : Nat → Except Fault (Builder × List Char)
  | 0 => readContentWith d l base open_ none (cs.length + 1) b cs
  | depth + 1 =>
    let inside (name : String) (b : Builder) (content : List Char) :=
      readContent d .inner (some b.frames.length) (name :: open_) b content depth
    readContentWith d l base open_ (some inside) (cs.length + 1) b cs

/-! ## What follows the root element -/

/-- Only blanks, comments and instructions may follow the root element. -/
def readEpilog (l : Layout) : Nat → List Char → Except Fault Unit
  | 0, _ => .ok ()
  | fuel + 1, cs =>
    match scanProlog l cs with
    | .short stop => .error (shortFault l.ending cs stop)
    | .misfit r => .error ⟨.invalidToken, r⟩
    | .token .nothing _ => if l.ending = .clean then .ok () else .error (shortFault l.ending cs .any)
    | .token .space rest => readEpilog l fuel rest
    | .token .comment rest => readEpilog l fuel rest
    | .token .instruction rest => readEpilog l fuel rest
    | .token t rest =>
      match cutShort? l.ending t rest with
      | some stop => .error (shortFault l.ending cs stop)
      | none => .error ⟨.junkAfterRoot, cs⟩

/-! ## The declaration of the document -/

/-- The parts of a declaration that come as name and quoted value. -/
structure PseudoAttribute where
  name : String
  place : List Char
  value : String
  valuePlace : List Char
  deriving Inhabited

/-- Whether a character may stand in a value of a declaration. -/
def isDeclChar (c : Char) : Bool :=
  (c.toNat < 128 && c.isAlphanum) || c == '.' || c == '-' || c == '_'

/-- Reads one part of a declaration; the error is the place that does not fit. -/
def readPseudo (cs : List Char) :
    Except (List Char) (Option PseudoAttribute × List Char) :=
  match cs with
  | [] => .ok (none, cs)
  | c :: more =>
    if !isSpace c then .error cs
    else
      let start := more.dropWhile isSpace
      match start with
      | [] => .ok (none, cs)
      | _ =>
        let name := start.takeWhile fun c => c != '=' && !isSpace c && c.toNat < 128
        let rest := (start.drop name.length).dropWhile isSpace
        match rest with
        | '=' :: after =>
          if name.isEmpty then .error start
          else
            let after := after.dropWhile isSpace
            match after with
            | q :: inner =>
              if q = '"' ∨ q = '\'' then
                let value := inner.takeWhile fun c => c != q && isDeclChar c
                match inner.drop value.length with
                | d :: tail =>
                  if d = q then
                    .ok (some ⟨String.ofList name, start, String.ofList value, inner⟩, tail)
                  else .error (d :: tail)
                | [] => .error []
              else .error after
            | [] => .error []
        | other => .error other

/-- What a declaration says: the encoding with the place of its name, and whether the document stands by
itself. -/
structure Declaration where
  encoding : Option (String × List Char) := none
  isStandalone : Bool := false
  deriving Inhabited

/-- Reads the part of a declaration that says whether the document stands by itself. -/
def readStandalone (d : Declaration) (p : PseudoAttribute) (rest : List Char) :
    Except (List Char) Declaration :=
  if p.name ≠ "standalone" then .error p.place
  else if p.value ≠ "yes" ∧ p.value ≠ "no" then .error p.valuePlace
  else
    let rest := rest.dropWhile isSpace
    if rest.isEmpty then .ok { d with isStandalone := p.value == "yes" } else .error rest

/-- Reads the parts of a declaration after its version. -/
def readAfterVersion (p : PseudoAttribute) (rest : List Char) : Except (List Char) Declaration :=
  if p.name = "encoding" then
    if !(p.value.toList.head?.any fun c => c.toNat < 128 && c.isAlpha) then .error p.valuePlace
    else
      let d : Declaration := { encoding := some (p.value, p.valuePlace) }
      match readPseudo rest with
      | .error r => .error r
      | .ok (none, _) => .ok d
      | .ok (some q, rest) => readStandalone d q rest
  else readStandalone {} p rest

/-- Reads the text between the marks of a declaration. -/
def readDeclaration (cs : List Char) : Except (List Char) Declaration :=
  match readPseudo cs with
  | .error r => .error r
  | .ok (none, rest) => .error rest
  | .ok (some p, rest) =>
    if p.name ≠ "version" then .error p.place
    else
      match readPseudo rest with
      | .error r => .error r
      | .ok (none, _) => .ok {}
      | .ok (some q, rest) => readAfterVersion q rest

/-! ## The prolog -/

/-- How far a document has been read: all its characters as they are known so far, the ones that are
left, and what its bytes are read as. -/
structure Progress where
  all : List Char
  rest : List Char
  ending : Ending
  left : Nat
  charset : Charset
  doctype : Doctype := {}
  state : DeclState := .prologStart

/-- How the characters that are left lie in units. -/
def Progress.layout (p : Progress) : Layout :=
  p.charset.layout p.ending p.left

/-- Why reading stops before the content is reached. -/
inductive PrologStop where
  /-- A fault, with all characters of the document as they are known at that point. -/
  | fault (all : List Char) (f : Fault)
  | failure (f : Failure)

/-- The place in the document of a place in an instruction's text. -/
def placeIn (cs inner place : List Char) : List Char :=
  cs.drop (5 + (inner.length - place.length))

/-- Reads what is left in another encoding. What was read already counts in that encoding too: byte by
byte if it has one byte for one character. -/
def Progress.switch (bytes : List UInt8) (p : Progress) (c : Charset) : Progress :=
  let before := p.all.take (p.all.length - p.rest.length)
  let used := before.foldl (fun n x => n + p.charset.width x) 0
  let counted := match c with
    | .single _ _ => (bytes.take used).map fun b => Char.ofNat b.toNat
    | _ => before
  let source := c.read (bytes.drop used)
  { p with
    all := counted ++ source.chars
    rest := source.chars
    ending := source.ending
    left := source.left
    charset := c }

/-- Takes over what a declaration says; `cs` is the text from the declaration on, `rest` what follows
it. -/
def applyDeclaration (bytes : List UInt8) (p : Progress) (cs rest : List Char) :
    Except PrologStop Progress :=
  let inner := (cs.take (cs.length - rest.length - 2)).drop 5
  match readDeclaration inner with
  | .error place => .error (.fault p.all ⟨.badDeclaration, placeIn cs inner place⟩)
  | .ok d =>
    let doctype := { p.doctype with isStandalone := d.isStandalone }
    let p := { p with rest, state := .prologMisc, doctype }
    match d.encoding with
    | none => .ok p
    | some (name, place) =>
      let wrong : Except PrologStop Progress :=
        .error (.fault p.all ⟨.wrongEncoding, placeIn cs inner place⟩)
      match declared name with
      | .error f => .error (.failure f)
      | .ok .unusable => .error (.fault p.all ⟨.unknownEncoding, placeIn cs inner place⟩)
      | .ok .sameOrder => if p.charset.unit = 2 then .ok p else wrong
      | .ok (.known c) =>
        match c, p.charset with
        | .utf16 a, .utf16 b => if a = b then .ok p else wrong
        | c, current => if c.unit ≠ current.unit then wrong else .ok (p.switch bytes c)
      | .ok (.foreign chars) => .ok (p.switch bytes (.single .listed chars))

/-- The content of an entity as it is declared, with character references replaced; the entities that it
refers to stay. -/
def entityContent (k : Letters) : Nat → List Char → List Char → Except Fault (List Char)
  | 0, done, _ => .ok done.reverse
  | _, done, [] => .ok done.reverse
  | fuel + 1, done, '\r' :: '\n' :: rest => entityContent k fuel ('\n' :: done) rest
  | fuel + 1, done, c :: rest =>
    if c = '\r' then entityContent k fuel ('\n' :: done) rest
    else if c = '&' then
      match scanReference k rest with
      | .token (.char n) after =>
        if isCodePoint n then entityContent k fuel (Char.ofNat n :: done) after
        else .error ⟨.badCharReference, c :: rest⟩
      | .token (.entity _) after =>
        let width := rest.length - after.length
        entityContent k fuel ((rest.take width).reverse ++ c :: done) after
      | .short _ => .error ⟨.invalidToken, c :: rest⟩
      | .misfit r => .error ⟨.invalidToken, r⟩
    else if c = '%' then
      match scanPercent k rest with
      | .token .parameterReference _ => .error ⟨.parameterReference, c :: rest⟩
      | .token _ r | .misfit r => .error ⟨.invalidToken, r⟩
      | .short _ => .error ⟨.invalidToken, c :: rest⟩
    else entityContent k fuel (c :: done) rest

/-- A fault in a literal as a fault in the document; `cs` is the text from the literal's quote on. -/
def inLiteral (cs value : List Char) (f : Fault) : Fault :=
  { f with at_ := cs.drop (1 + (value.length - f.at_.length)) }

/-- Refuses a public identifier with a character that may not stand in one. -/
def checkPublicId (cs value : List Char) : Except Fault Unit :=
  match value.dropWhile isPublicIdChar with
  | [] => .ok ()
  | rest => .error (inLiteral cs value ⟨.publicId, rest⟩)

/-- Whether something is the text of a literal that counts. -/
def DeclEffect.isValue : DeclEffect → Bool
  | .entity _ _ | .parameterEntity _ | .attribute_ _ _ _ (some _) => true
  | _ => false

/-- What a declaration adds to what is known. -/
def applyEffect (k : Letters) (d : Doctype) (cs : List Char) : DeclEffect → Except Fault Doctype
  | .external => .ok { d with isPartial := true }
  | .parameterReference => .ok { d with isPartial := true, isInterrupted := true }
  | .publicId value => (checkPublicId cs value).map fun _ => d
  | .externalPublicId value => (checkPublicId cs value).map fun _ => { d with isPartial := true }
  | .entity name value =>
    if !d.reads then .ok d
    else
      match entityContent k (value.length + 1) [] value with
      | .error f => .error (inLiteral cs value f)
      | .ok content =>
        if (d.entities.lookup name).isSome then .ok d
        else .ok { d with entities := d.entities ++ [(name, .internal content)] }
  | .parameterEntity value =>
    if !d.reads then .ok d
    else
      match entityContent k (value.length + 1) [] value with
      | .error f => .error (inLiteral cs value f)
      | .ok _ => .ok d
  | .externalEntity name =>
    if d.reads && (d.entities.lookup name).isNone then
      .ok { d with entities := d.entities ++ [(name, .external)] }
    else .ok d
  | .binaryEntity name =>
    if d.reads && (d.entities.lookup name).isNone then
      .ok { d with entities := d.entities ++ [(name, .binary)] }
    else .ok d
  | .attribute_ element name isPlain value =>
    if !d.reads then .ok d
    else
      let known := d.defaults.any fun x => x.element == element && x.name == name
      let add (v : Option (List Char)) : Doctype :=
        if known then d else { d with defaults := d.defaults ++ [⟨element, name, isPlain, v⟩] }
      match value with
      | none => .ok (add none)
      | some v =>
        match expandValue d .declaration isPlain k v with
        | .error (cause, none) => .error ⟨cause, cs⟩
        | .error (cause, some at_) => .error (inLiteral cs v ⟨cause, at_⟩)
        | .ok text => .ok (add (some text.toList))
  | _ => .ok d

/-- What is wrong with a token of the prolog that may not stand where it does. -/
def misplaced : PrologToken → FaultCause
  | .declaration => .misplacedDeclaration
  | .parameterReference => .parameterReference
  | _ => .syntaxError

/-- Reads everything before the root element. A token that only the end of the document ends takes half of
a unit with it: a word is then no known word, and a value has a character too few behind it. -/
def readProlog (bytes : List UInt8) : Nat → Progress → Except PrologStop Progress
  | 0, p => .ok p
  | fuel + 1, p =>
    match scanProlog p.layout p.rest with
    | .short stop => .error (.fault p.all (shortFault p.ending p.rest stop))
    | .misfit r => .error (.fault p.all ⟨.invalidToken, r⟩)
    | .token .nothing _ => .error (.fault p.all (endFault p.ending))
    | .token t rest =>
      match cutShort? p.ending t rest with
      | some stop => .error (.fault p.all (shortFault p.ending p.rest stop))
      | none =>
        let isLast := rest.isEmpty && t.isOpenEnded && !p.ending.isBroken
        match p.state.next (if isLast && p.ending == .odd then t.withoutWord else t) with
        | none => .error (.fault p.all ⟨misplaced t, p.rest⟩)
        | some (_, .instance_) => .ok p
        | some (_, .declaration) =>
          match applyDeclaration bytes p p.rest rest with
          | .error e => .error e
          | .ok p => readProlog bytes fuel p
        | some (state, effect) =>
          match applyEffect p.charset.letters p.doctype p.rest effect with
          | .error f => .error (.fault p.all f)
          | .ok doctype =>
            if isLast && p.ending == .odd && doctype.reads && effect.isValue then
              .error (.fault p.all ⟨.invalidToken, p.rest.drop (p.rest.length - 1)⟩)
            else
              let ending := if isLast then .clean else p.ending
              readProlog bytes fuel { p with rest, state, doctype, ending }

/-! ## Documents -/

/-- Why a document has no root element: a fault with its place, or a failure of another kind. -/
inductive Problem where
  | fault (cause : FaultCause) (line column : Nat)
  | failure (f : Failure)
  deriving Inhabited

/-- The text of a fault with its place. -/
def faultText (cause : FaultCause) (line column : Nat) : String :=
  cause.text ++ ": line " ++ toString line ++ ", column " ++ toString column

/-- A fault with its place in a document. -/
def placed (all : List Char) (f : Fault) : Problem :=
  let (line, column) := lineAndColumn (all.take (all.length - f.at_.length))
  .fault f.cause line column

/-- Whether bytes are too few to show their encoding. -/
def isCut : List UInt8 → Bool
  | [b] => b == 0xFE || b == 0xFF || b == 0xEF || b == 0 || b == 0x3C
  | [a, b] => a == 0xEF && b == 0xBB
  | _ => false

/-- The root element of a document. -/
def parse (bytes : List UInt8) : Except Problem Element :=
  if isCut bytes then .error (.fault .unclosedToken 1 0)
  else
    let charset := detect bytes
    let source := charset.read bytes
    let rest := match source.chars with
      | c :: more => if c.toNat = 0xFEFF then more else c :: more
      | [] => []
    let start : Progress :=
      { all := source.chars, rest, ending := source.ending, left := source.left, charset }
    match readProlog bytes (2 * bytes.length + 2) start with
    | .error (.failure f) => .error (.failure f)
    | .error (.fault all f) => .error (placed all f)
    | .ok p =>
      match readContent p.doctype p.layout none [] {} p.rest (p.doctype.entities.length + 1) with
      | .error f => .error (placed p.all f)
      | .ok (b, rest) =>
        match readEpilog p.layout (rest.length + 1) rest with
        | .error f => .error (placed p.all f)
        | .ok () =>
          match b.root with
          | some e => .ok e
          | none => .error (placed p.all ⟨.noElement, rest⟩)

end SolutionSurvey.Xml
