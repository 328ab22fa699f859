import SolutionSurvey.Text.Digit
import SolutionSurvey.Xml.Source

/-!
# Tokens of markup

The scanners that cut a document into tokens: tags, references, comments, instructions and character
data in the content; names, literals and brackets in the prolog. A scanner gives the rest of the text
after its token, or says that the text stops too early, or points to the character that does not fit.

## Main definitions

* `Xml.Scan` — what a scanner gives.
* `Xml.ContentToken`, `Xml.scanContent` — the tokens of the content.
* `Xml.PrologToken`, `Xml.scanProlog` — the tokens of the prolog and of what follows the root element.
-/

namespace SolutionSurvey.Xml

/-- What could stand where a text stops inside a token. -/
inductive Stop where
  /-- A character of any length. -/
  | any
  /-- One of some signs, each of a single unit. -/
  | sign
  /-- More units than are left. -/
  | units
  deriving Repr, DecidableEq, Inhabited

/-- What a scanner gives: a token with the rest of the text, too short a text, or the rest of the text
from the first character that does not fit. -/
inductive Scan (α : Type) where
  | token (t : α) (rest : List Char)
  | short (s : Stop)
  | misfit (at_ : List Char)
  deriving Inhabited

namespace Scan

/-- The same token in another form. -/
def map {α β : Type} (f : α → β) : Scan α → Scan β
  | .token t rest => .token (f t) rest
  | .short s => .short s
  | .misfit r => .misfit r

/-- What follows a token. -/
def andThen {α β : Type} (s : Scan α) (f : α → List Char → Scan β) : Scan β :=
  match s with
  | .token t rest => f t rest
  | .short s => .short s
  | .misfit r => .misfit r

end Scan

/-! ## Names and references -/

variable (k : Letters)

/-- A name without a colon. -/
def scanName : List Char → Scan String
  | [] => .short .any
  | c :: rest =>
    if isNameStart k c then
      .token (String.ofList (c :: rest.takeWhile (isNameChar k))) (rest.dropWhile (isNameChar k))
    else .misfit (c :: rest)

/-- A name with at most one colon, which has a name on either side. -/
def scanQualified (cs : List Char) : Scan String :=
  (scanName k cs).andThen fun a rest =>
    match rest with
    | ':' :: more => (scanName k more).andThen fun b after =>
      match after with
      | ':' :: _ => .misfit after
      | _ => .token (a ++ ":" ++ b) after
    | _ => .token a rest

/-- A reference in content or in a value. -/
inductive Reference where
  | entity (name : String)
  | char (code : Nat)
  deriving Repr, DecidableEq, Inhabited

/-- The digits of a character reference up to its semicolon. -/
def scanDigits (base : Nat) (digit : Char → Option Nat) (value : Nat) : List Char → Scan Reference
  | [] => .short .sign
  | ';' :: rest => .token (.char value) rest
  | c :: rest =>
    match digit c with
    | some d => scanDigits base digit (min (value * base + d) 0x110000) rest
    | none => .misfit (c :: rest)

/-- The value of a decimal digit. -/
def decimalDigit? (c : Char) : Option Nat :=
  if c.isDigit then some (c.toNat - 48) else none

/-- A character reference needs a digit before its semicolon. -/
def scanCharCode (base : Nat) (digit : Char → Option Nat) : List Char → Scan Reference
  | [] => .short .sign
  | c :: rest => if (digit c).isSome then scanDigits base digit 0 (c :: rest) else .misfit (c :: rest)

/-- The rest of a reference after its ampersand. -/
def scanReference : List Char → Scan Reference
  | [] => .short .any
  | '#' :: 'x' :: rest => scanCharCode 16 Text.hexDigit? rest
  | '#' :: rest => scanCharCode 10 decimalDigit? rest
  | cs => (scanName k cs).andThen fun name rest =>
    match rest with
    | [] => .short .any
    | ';' :: after => .token (.entity name) after
    | other => .misfit other

/-! ## Comments and instructions -/

/-- The rest of a comment after its first two dashes. -/
def scanCommentBody : List Char → Scan Unit
  | [] => .short .any
  | ['-'] => .short .any
  | ['-', '-'] => .short .sign
  | '-' :: '-' :: '>' :: rest => .token () rest
  | '-' :: '-' :: c :: rest => .misfit (c :: rest)
  | c :: rest => if isLegal c then scanCommentBody rest else .misfit (c :: rest)

/-- The rest of a comment after its first dash. -/
def scanComment : List Char → Scan Unit
  | [] => .short .sign
  | '-' :: rest => scanCommentBody rest
  | other => .misfit other

/-- The rest of an instruction up to its closing mark. -/
def scanInstructionBody : List Char → Scan Unit
  | [] => .short .any
  | ['?'] => .short .any
  | '?' :: '>' :: rest => .token () rest
  | c :: rest => if isLegal c then scanInstructionBody rest else .misfit (c :: rest)

/-- An instruction after its opening mark; the result tells whether it declares the document. Its target
may not be the declaring word in another case. -/
def scanInstruction (cs : List Char) : Scan Bool :=
  (scanName k cs).andThen fun target rest =>
    let declares := target == "xml"
    let reserved := String.ofList (target.toList.map Char.toLower) == "xml" && !declares
    match rest with
    | [] => .short .any
    | c :: more =>
      if reserved && (isSpace c || c == '?') then .misfit rest
      else if isSpace c then (scanInstructionBody more).map fun _ => declares
      else if c == '?' then
        match more with
        | [] => .short .sign
        | '>' :: after => .token declares after
        | other => .misfit other
      else .misfit rest

/-! ## Tags -/

/-- An attribute as it is written: its name, where the name stands, and the text between the quotes. -/
structure RawAttribute where
  name : String
  place : List Char
  value : List Char
  deriving Repr, Inhabited

/-- The value of an attribute up to its closing quote. References must be well formed. -/
def scanValue (quote : Char) : Nat → List Char → List Char → Scan (List Char)
  | 0, _, _ => .short .any
  | _, _, [] => .short .any
  | fuel + 1, done, c :: rest =>
    if c = quote then .token done.reverse rest
    else if c = '<' then .misfit (c :: rest)
    else if c = '&' then
      match scanReference k rest with
      | .token _ after =>
        let width := rest.length - after.length
        scanValue quote fuel ((rest.take width).reverse ++ c :: done) after
      | .short s => .short s
      | .misfit r => .misfit r
    else if isLegal c then scanValue quote fuel (c :: done) rest
    else .misfit (c :: rest)

/-- An equals sign with optional blanks around it, and the quote that follows. -/
def scanEquals (cs : List Char) : Scan Char :=
  match cs.dropWhile isSpace with
  | [] => .short (if cs.isEmpty then .any else .sign)
  | '=' :: rest =>
    match rest.dropWhile isSpace with
    | [] => .short .sign
    | q :: after => if q = '"' ∨ q = '\'' then .token q after else .misfit (q :: after)
  | other => .misfit other

/-- The end of a start tag; the result tells whether the element is empty. -/
def scanTagEnd : List Char → Scan Bool
  | [] => .short .sign
  | '>' :: rest => .token false rest
  | ['/'] => .short .sign
  | '/' :: '>' :: rest => .token true rest
  | '/' :: other => .misfit other
  | other => .misfit other

/-- The attributes of a start tag and its end. -/
def scanAttributes : Nat → List RawAttribute → List Char → Scan (List RawAttribute × Bool)
  | 0, _, _ => .short .any
  | fuel + 1, done, cs =>
    match cs with
    | [] => .short .any
    | c :: _ =>
      if isNameStart k c then
        (scanQualified k cs).andThen fun name rest =>
          (scanEquals rest).andThen fun quote rest =>
            (scanValue k quote (rest.length + 1) [] rest).andThen fun value rest =>
              let done := ⟨name, cs, value⟩ :: done
              match rest with
              | [] => .short .sign
              | d :: more =>
                if isSpace d then scanAttributes fuel done (more.dropWhile isSpace)
                else (scanTagEnd rest).map fun empty => (done.reverse, empty)
      else (scanTagEnd cs).map fun empty => (done.reverse, empty)

/-- A start tag after its opening bracket: name, attributes, and whether the element is empty. -/
structure StartTag where
  name : String
  attributes : List RawAttribute
  isEmpty : Bool
  deriving Inhabited

/-- A start tag after its opening bracket. -/
def scanStartTag (cs : List Char) : Scan StartTag :=
  (scanQualified k cs).andThen fun name rest =>
    match rest with
    | [] => .short .any
    | c :: more =>
      if isSpace c then
        let inner := more.dropWhile isSpace
        (scanAttributes k (inner.length + 1) [] inner).map fun r => ⟨name, r.1, r.2⟩
      else (scanTagEnd rest).map fun empty => ⟨name, [], empty⟩

/-- Whether a character may continue the name of an end tag, where colons are not looked at. -/
def isTagChar (c : Char) : Bool :=
  isNameChar k c || c == ':'

/-- An end tag after its opening bracket and slash. -/
def scanEndTag : List Char → Scan String
  | [] => .short .any
  | c :: more =>
    if isNameStart k c then
      let name := String.ofList (c :: more.takeWhile (isTagChar k))
      let rest := more.dropWhile (isTagChar k)
      match rest.dropWhile isSpace with
      | [] => .short (if rest.isEmpty then .any else .sign)
      | '>' :: after => .token name after
      | other => .misfit other
    else .misfit (c :: more)

/-! ## Content -/

/-- The tokens of the content of an element. -/
inductive ContentToken where
  | nothing
  | text (cs : List Char)
  | newline
  | startTag (t : StartTag)
  | endTag (name : String)
  | reference (r : Reference)
  | comment
  | instruction
  | declaration
  | sectionOpen
  deriving Inhabited

/-- Whether a text begins with another one; too short a text is told apart from a different one. -/
def scanWord : List Char → List Char → Scan Unit
  | [], rest => .token () rest
  | _ :: _, [] => .short .sign
  | w :: ws, c :: rest => if w = c then scanWord ws rest else .misfit (c :: rest)

/-- What follows an opening bracket in the content. -/
def scanMarkup (l : Layout) : List Char → Scan ContentToken
  | [] => .short .any
  | ['!'] => .short .sign
  | '!' :: '-' :: rest => (scanComment rest).map fun _ => .comment
  | '!' :: '[' :: rest =>
    if rest.foldl (fun n c => n + l.units c) l.left < 6 then .short .units
    else (scanWord "CDATA[".toList rest).map fun _ => .sectionOpen
  | '!' :: other => .misfit other
  | '?' :: rest =>
    (scanInstruction l.letters rest).map fun d => if d then .declaration else .instruction
  | '/' :: rest => (scanEndTag l.letters rest).map .endTag
  | cs => (scanStartTag l.letters cs).map .startTag

/-- Character data up to the next markup, reference or line end. The end mark of a section does not
fit. -/
def scanText (done : List Char) : List Char → Scan ContentToken
  | [] => .token (.text done.reverse) []
  | ']' :: ']' :: '>' :: rest => .misfit ('>' :: rest)
  | c :: rest =>
    if c = '<' ∨ c = '&' ∨ c = '\n' ∨ c = '\r' ∨ !isLegal c then
      .token (.text done.reverse) (c :: rest)
    else scanText (c :: done) rest

/-- The next token of the content. -/
def scanContent (l : Layout) : List Char → Scan ContentToken
  | [] => .token .nothing []
  | '<' :: rest => scanMarkup l rest
  | '&' :: rest => (scanReference l.letters rest).map .reference
  | '\r' :: '\n' :: rest => .token .newline rest
  | '\r' :: rest => .token .newline rest
  | '\n' :: rest => .token .newline rest
  | c :: rest => if isLegal c then scanText [] (c :: rest) else .misfit (c :: rest)

/-- The text of a section up to its end mark, with unified line ends; the rest of the text is empty if
the section does not end. -/
def scanSection (done : List Char) : List Char → Scan (List Char)
  | [] => .short .any
  | ']' :: ']' :: '>' :: rest => .token done.reverse rest
  | '\r' :: '\n' :: rest => scanSection ('\n' :: done) rest
  | '\r' :: rest => scanSection ('\n' :: done) rest
  | c :: rest => if isLegal c then scanSection (c :: done) rest else .misfit (c :: rest)

/-! ## Prolog -/

/-- The tokens of the prolog. -/
inductive PrologToken where
  | nothing
  | space
  | declaration
  | instruction
  | comment
  | declOpen (word : String)
  | declClose
  | instanceStart
  | name (s : String)
  | prefixedName (s : String)
  | nameToken (s : String)
  | quantifiedName
  | poundName (s : String)
  | percent
  | parameterReference
  | literal (cs : List Char)
  | openBracket
  | closeBracket
  | openParen
  | closeParen
  | closeParenStar
  | closeParenOther
  | bar
  | comma
  | conditionalOpen
  | conditionalClose
  deriving Repr, DecidableEq, Inhabited

/-- What could stand after a token at the end of a text and belong to it or have to close it. -/
def PrologToken.stop? : PrologToken → Option Stop
  | .name _ | .prefixedName _ | .nameToken _ | .poundName _ => some .any
  | .literal _ | .closeParen => some .sign
  | _ => none

/-- Whether more could belong to a token if the document went on behind it. -/
def PrologToken.isOpenEnded (t : PrologToken) : Bool :=
  t.stop?.isSome || t == .closeBracket

/-- The same kind of token with a word that is not known. -/
def PrologToken.withoutWord : PrologToken → PrologToken
  | .name _ => .name ""
  | .poundName _ => .poundName ""
  | t => t

/-- A literal up to its closing quote, which a blank, a bracket or a percent sign must follow. -/
def scanLiteral (quote : Char) (done : List Char) : List Char → Scan PrologToken
  | [] => .short .any
  | c :: rest =>
    if c = quote then
      match rest with
      | [] => .token (.literal done.reverse) []
      | d :: _ =>
        if isSpace d ∨ d = '>' ∨ d = '%' ∨ d = '[' then .token (.literal done.reverse) rest
        else .misfit rest
    else if isLegal c then scanLiteral quote (c :: done) rest
    else .misfit (c :: rest)

/-- Whether a character may stand in the word that opens a declaration: a letter that is told by its
first unit. -/
def isWordChar (l : Layout) (c : Char) : Bool :=
  isNameStart l.letters c && !l.isLong c

/-- The word that opens a declaration. -/
def scanDeclWord (l : Layout) (done : List Char) : List Char → Scan PrologToken
  | [] => .short .sign
  | c :: rest =>
    if isWordChar l c then scanDeclWord l (c :: done) rest
    else if isSpace c then .token (.declOpen (String.ofList done.reverse)) (c :: rest)
    else if c = '%' then
      match rest with
      | [] =>
        if l.left = 0 then .short .units else .token (.declOpen (String.ofList done.reverse)) (c :: rest)
      | d :: _ =>
        if isSpace d ∨ d = '%' then .misfit (c :: rest)
        else .token (.declOpen (String.ofList done.reverse)) (c :: rest)
    else .misfit (c :: rest)

/-- What follows an opening bracket and an exclamation mark. -/
def scanDecl (l : Layout) : List Char → Scan PrologToken
  | [] => .short .sign
  | '-' :: rest => (scanComment rest).map fun _ => .comment
  | '[' :: rest => .token .conditionalOpen rest
  | c :: rest => if isWordChar l c then scanDeclWord l [] (c :: rest) else .misfit (c :: rest)

/-- What follows a percent sign. -/
def scanPercent : List Char → Scan PrologToken
  | [] => .short .any
  | c :: rest =>
    if isSpace c ∨ c = '%' then .token .percent (c :: rest)
    else (scanName k (c :: rest)).andThen fun _ after =>
      match after with
      | [] => .short .any
      | ';' :: more => .token .parameterReference more
      | other => .misfit other

/-- Whether a character may follow a name in the prolog. -/
def endsName (c : Char) : Bool :=
  isSpace c || c == '>' || c == ')' || c == ',' || c == '|' || c == '[' || c == '%'

/-- What follows a name in the prolog: nothing that belongs to it, or a quantifier. -/
def finishName (t : PrologToken) (isToken : Bool) : List Char → Scan PrologToken
  | [] => .token t []
  | c :: rest =>
    if endsName c then .token t (c :: rest)
    else if (c = '+' ∨ c = '*' ∨ c = '?') ∧ !isToken then .token .quantifiedName rest
    else .misfit (c :: rest)

/-- A name, a prefixed name or a name token. -/
def scanPrologName (cs : List Char) : Scan PrologToken :=
  let word := cs.takeWhile (isTagChar k)
  let rest := cs.dropWhile (isTagChar k)
  let s := String.ofList word
  let parts := word.splitOn ':'
  match parts with
  | [a] =>
    if a.head?.any (isNameStart k) then finishName (.name s) false rest
    else finishName (.nameToken s) true rest
  | [a, b] =>
    if a.head?.any (isNameStart k) then
      if b.isEmpty && rest.isEmpty then .short .any
      else if b.isEmpty then finishName (.nameToken s) true rest
      else finishName (.prefixedName s) false rest
    else finishName (.nameToken s) true rest
  | _ => finishName (.nameToken s) true rest

/-- The next token of the prolog. -/
def scanProlog (l : Layout) : List Char → Scan PrologToken
  | [] => .token .nothing []
  | '"' :: rest => scanLiteral '"' [] rest
  | '\'' :: rest => scanLiteral '\'' [] rest
  | ['<'] => if l.ending.beginsLong then .token .instanceStart ['<'] else .short .sign
  | '<' :: '!' :: rest => scanDecl l rest
  | '<' :: '?' :: rest =>
    (scanInstruction l.letters rest).map fun d => if d then .declaration else .instruction
  | '<' :: c :: rest =>
    if isNameStart l.letters c ∨ l.isLong c then .token .instanceStart ('<' :: c :: rest)
    else .misfit (c :: rest)
  | '%' :: rest => scanPercent l.letters rest
  | ',' :: rest => .token .comma rest
  | '[' :: rest => .token .openBracket rest
  | ']' :: ']' :: '>' :: rest => .token .conditionalClose rest
  | ']' :: rest => .token .closeBracket rest
  | '(' :: rest => .token .openParen rest
  | ')' :: '*' :: rest => .token .closeParenStar rest
  | ')' :: '?' :: rest => .token .closeParenOther rest
  | ')' :: '+' :: rest => .token .closeParenOther rest
  | ')' :: c :: rest =>
    if isSpace c ∨ c = '>' ∨ c = ',' ∨ c = '|' ∨ c = ')' then .token .closeParen (c :: rest)
    else .misfit (c :: rest)
  | [')'] => .token .closeParen []
  | '|' :: rest => .token .bar rest
  | '>' :: rest => .token .declClose rest
  | '#' :: rest => (scanName l.letters rest).andThen fun s after =>
    match after with
    | [] => .token (.poundName s) []
    | c :: _ =>
      if isSpace c ∨ c = ')' ∨ c = '>' ∨ c = '%' ∨ c = '|' then .token (.poundName s) after
      else .misfit after
  | c :: rest =>
    if isSpace c then .token .space (rest.dropWhile isSpace)
    else if isTagChar l.letters c then scanPrologName l.letters (c :: rest)
    else .misfit (c :: rest)

end SolutionSurvey.Xml
