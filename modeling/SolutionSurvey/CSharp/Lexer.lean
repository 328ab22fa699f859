import SolutionSurvey.Syntax.Tree
import SolutionSurvey.Text.IdentifierChar

/-!
# Tokens of C#

The text of a source as tokens. Comments and directives are kept apart, because they may stand between any
two tokens. Inside an interpolated text the lexer changes between the text and the code in its holes.

## Main definitions

* `CSharp.Token` — a token with its spelling.
* `CSharp.Lexeme` — a token, a comment, a directive, or a fault.
* `CSharp.lex` — the lexemes of a source.
-/

namespace SolutionSurvey.CSharp

/-! ## Lexemes -/

/-- A token: its spelling and its part of the syntax tree. -/
structure Token where
  text : String
  tree : SyntaxTree
  deriving Repr, Inhabited

/-- What the lexer gives. -/
inductive Lexeme where
  | token (t : Token)
  /-- A comment. -/
  | extra (t : SyntaxTree)
  /-- A directive: its head with the number sign and the tokens after it. -/
  | directive (head : Token) (line : List Token)
  /-- A character that starts no token, or a token without its end. -/
  | fault
  deriving Repr, Inhabited

/-- A rest of the source with its place. -/
structure Cursor where
  place : Place
  rest : List Char
  deriving Repr, Inhabited

namespace Cursor

/-- The cursor after some characters. -/
def drop (c : Cursor) (n : Nat) : Cursor :=
  ⟨c.place.afterAll (c.rest.take n), c.rest.drop n⟩

/-- The text of the next characters. -/
def text (c : Cursor) (n : Nat) : String :=
  String.ofList (c.rest.take n)

/-- A leaf over the next characters. -/
def leaf (c : Cursor) (type : String) (named : Bool) (n : Nat) : SyntaxTree :=
  .leaf type named c.place (c.drop n).place

/-- The next characters as a token without parts. -/
def token (c : Cursor) (type : String) (named : Bool) (n : Nat) : Token :=
  ⟨c.text n, c.leaf type named n⟩

end Cursor

/-! ## Words and symbols -/

/-- The words that can never be identifiers. -/
def reserved : List String :=
  ["abstract", "as", "base", "bool", "break", "byte", "case", "catch", "char", "checked", "class", "const",
    "continue", "decimal", "default", "delegate", "do", "double", "else", "enum", "event", "explicit",
    "extern", "false", "finally", "fixed", "float", "for", "foreach", "goto", "if", "implicit", "in",
    "int", "interface", "internal", "is", "lock", "long", "namespace", "new", "null", "object", "operator",
    "out", "override", "params", "private", "protected", "public", "readonly", "ref", "return", "sbyte",
    "sealed", "short", "sizeof", "stackalloc", "static", "string", "struct", "switch", "this", "throw",
    "true", "try", "typeof", "uint", "ulong", "unchecked", "unsafe", "ushort", "using", "virtual", "void",
    "volatile", "while"]

/-- The types that have a word of their own. -/
def predefined : List String :=
  ["bool", "byte", "char", "decimal", "double", "float", "int", "long", "object", "sbyte", "short",
    "string", "uint", "ulong", "ushort", "void"]

/-- The words that mean something in some places and are identifiers elsewhere. An identifier that is spelled
like one of them is a node over the word. -/
def soft : List String :=
  ["alias", "ascending", "by", "descending", "equals", "file", "from", "global", "group", "into", "join",
    "let", "notnull", "on", "orderby", "scoped", "select", "unmanaged", "var", "when", "where", "yield"]

/-- The symbols of several characters, longer ones first. Symbols that start with a closing angle
bracket are put together later, because the bracket may also close a list of types. -/
def longSymbols : List String :=
  ["??=", "<<=", "=>", "==", "!=", "<=", ">=", "&&", "||", "??", "++", "--", "+=", "-=", "*=", "/=", "%=",
    "&=", "|=", "^=", "->", "::", "<<", ".."]

/-- The symbols of one character. -/
def shortSymbols : List Char := "()[]\x7b\x7d;,.:?=<>+-*/%&|^!~".toList

/-- The token of a word. -/
def wordToken (c : Cursor) (n : Nat) : Token :=
  let word := c.text n
  let around (type : String) : Token :=
    ⟨word, .spanning type [(none, c.leaf word false n)]⟩
  if predefined.contains word then c.token "predefined_type" true n
  else if word = "true" ∨ word = "false" then around "boolean_literal"
  else if word = "null" then c.token "null_literal" true n
  else if reserved.contains word then c.token word false n
  else if soft.contains word then around "identifier"
  else c.token "identifier" true n

/-- Whether a character is a digit of base sixteen. -/
def isHexDigit (c : Char) : Bool :=
  c.isDigit || ['a', 'b', 'c', 'd', 'e', 'f'].contains c.toLower

/-- The number of characters of an escape with some digits of base sixteen; none if there are not that
many. -/
def codeEscapeLength (digits : Nat) (cs : List Char) : Nat :=
  if ((cs.drop 2).takeWhile isHexDigit).length < digits then 0 else digits + 2

/-- The number of characters that the next letter of an identifier takes, which may be written as an escape.
`inside` says whether it stands behind another letter. -/
def letterLength (inside : Bool) : List Char → Nat
  | '\\' :: 'u' :: rest => codeEscapeLength 4 ('\\' :: 'u' :: rest)
  | '\\' :: 'U' :: rest => codeEscapeLength 8 ('\\' :: 'U' :: rest)
  | c :: _ => if inside && Text.isIdentifierPart c || Text.isIdentifierStart c then 1 else 0
  | [] => 0

/-- The number of characters of the letters at the beginning of a text, at most `count` letters. -/
def lettersLength : Nat → Bool → List Char → Nat
  | 0, _, _ => 0
  | count + 1, inside, cs =>
    match letterLength inside cs with
    | 0 => 0
    | n => n + lettersLength count true (cs.drop n)

/-- The number of characters of the identifier or word at the beginning of a text. -/
def wordLength (cs : List Char) : Nat :=
  match cs with
  | '@' :: rest =>
    match lettersLength rest.length false rest with
    | 0 => 0
    | n => n + 1
  | _ => lettersLength cs.length false cs

/-- The number of characters of the symbol at the beginning of a text. -/
def symbolLength (cs : List Char) : Nat :=
  match longSymbols.find? fun s => s.toList.isPrefixOf cs with
  | some s => s.length
  | none =>
    match cs with
    | c :: _ => if shortSymbols.contains c then 1 else 0
    | [] => 0

/-! ## Numbers -/

/-- Whether a character may stand in a number of base ten. -/
def isDigitOrGap (c : Char) : Bool :=
  c.isDigit || c == '_'

/-- Whether a character may stand in a number of another base or in a suffix. -/
def isNumberPart (c : Char) : Bool :=
  c.isAlphanum || c == '_'

/-- The number of characters of an exponent. -/
def exponentLength : List Char → Nat
  | e :: rest =>
    if e = 'e' ∨ e = 'E' then
      match rest with
      | s :: more =>
        if (s = '+' ∨ s = '-') ∧ (more.head?.any Char.isDigit) then
          2 + (more.takeWhile isDigitOrGap).length
        else if s.isDigit then 1 + (rest.takeWhile isDigitOrGap).length
        else 0
      | [] => 0
    else 0
  | [] => 0

/-- The number of characters of the number at the beginning of a text, and whether it has a fraction, an
exponent or a suffix for one. -/
def numberLength : List Char → Nat × Bool
  | '0' :: b :: rest =>
    if ['x', 'X', 'b', 'B'].contains b then (2 + (rest.takeWhile isNumberPart).length, false)
    else decimalLength ('0' :: b :: rest)
  | cs => decimalLength cs
where
  /-- The same for a number of base ten. -/
  decimalLength (cs : List Char) : Nat × Bool :=
    let whole := (cs.takeWhile isDigitOrGap).length
    let rest := cs.drop whole
    let fraction := match rest with
      | '.' :: d :: more => if d.isDigit then 2 + (more.takeWhile isDigitOrGap).length else 0
      | _ => 0
    let rest := rest.drop fraction
    let exponent := exponentLength rest
    let suffix := ((rest.drop exponent).takeWhile Char.isAlpha)
    let isReal := fraction != 0 || exponent != 0 ||
      suffix.any fun c => ['f', 'F', 'd', 'D', 'm', 'M'].contains c
    (whole + fraction + exponent + suffix.length, isReal)

/-! ## Texts and characters -/

/-- The number of characters of an escape that starts with a backslash. -/
def escapeLength : List Char → Nat
  | '\\' :: 'u' :: rest => 2 + ((rest.take 4).takeWhile isHexDigit).length
  | '\\' :: 'U' :: rest => 2 + ((rest.take 8).takeWhile isHexDigit).length
  | '\\' :: 'x' :: rest => 2 + ((rest.take 4).takeWhile isHexDigit).length
  | '\\' :: _ :: _ => 2
  | _ => 1

/-- The parts of a text up to its closing quote, and the cursor behind it; nothing if the line ends
first. -/
def textParts (quote : Char) (content : String) : Nat → Cursor → List Branch →
    Option (List Branch × Cursor)
  | 0, _, _ => none
  | fuel + 1, c, done =>
    match c.rest with
    | [] => none
    | x :: _ =>
      if x = quote then
        some (done ++ [(none, c.leaf (String.singleton quote) false 1)], c.drop 1)
      else if x = '\n' then none
      else if x = '\\' then
        let n := escapeLength c.rest
        textParts quote content fuel (c.drop n) (done ++ [(none, c.leaf "escape_sequence" true n)])
      else
        let n := (c.rest.takeWhile fun y => y != quote && y != '\\' && y != '\n').length
        textParts quote content fuel (c.drop n) (done ++ [(none, c.leaf content true n)])

/-- The suffix that gives the encoding of a text. -/
def encodingSuffix (c : Cursor) : List Branch × Cursor :=
  match c.rest with
  | u :: '8' :: _ =>
    if u = 'u' ∨ u = 'U' then ([(none, c.leaf "string_literal_encoding" true 2)], c.drop 2) else ([], c)
  | _ => ([], c)

/-- A token over branches, with the spelling between two cursors. -/
def composite (type : String) (start stop : Cursor) (branches : List Branch) : Token :=
  ⟨start.text (stop.place.offset - start.place.offset), .spanning type branches⟩

/-- A plain text or a character between quotes. -/
def quotedToken (quote : Char) (type content : String) (c : Cursor) : Option (Token × Cursor) := do
  let opening : Branch := (none, c.leaf (String.singleton quote) false 1)
  let (parts, after) ← textParts quote content (c.rest.length + 1) (c.drop 1) [opening]
  let (suffix, after) := if quote = '"' then encodingSuffix after else ([], after)
  pure (composite type c after (parts ++ suffix), after)

/-- The number of characters of a verbatim text after its opening quote, with the closing one. -/
def verbatimLength : List Char → Option Nat
  | '"' :: '"' :: rest => (verbatimLength rest).map (· + 2)
  | '"' :: _ => some 1
  | _ :: rest => (verbatimLength rest).map (· + 1)
  | [] => none

/-- The number of quotes at the beginning of a text. -/
def quoteRun (cs : List Char) : Nat :=
  (cs.takeWhile (· == '"')).length

/-- The number of characters before the next run of at least `count` quotes that ends the text. -/
def rawContentLength (count : Nat) : List Char → Option Nat
  | [] => none
  | c :: rest =>
    let run := quoteRun (c :: rest)
    if count ≤ run then some (run - count) else (rawContentLength count rest).map (· + 1)

/-- A raw text between runs of quotes. -/
def rawToken (c : Cursor) : Option (Token × Cursor) := do
  let count := quoteRun c.rest
  let inner := c.drop count
  let n ← rawContentLength count inner.rest
  let closing := inner.drop n
  let (suffix, after) := encodingSuffix (closing.drop count)
  pure (composite "raw_string_literal" c after
    ([(none, c.leaf "raw_string_start" true count), (none, inner.leaf "raw_string_content" true n),
      (none, closing.leaf "raw_string_end" true count)] ++ suffix), after)

/-! ## Interpolated texts -/

/-- The form of an interpolated text: verbatim or not, the number of braces that open a hole, and the
number of quotes that end it. -/
structure TextForm where
  verbatim : Bool
  braces : Nat
  quotes : Nat
  deriving Repr, Inhabited

/-- Where the lexer is: in an interpolated text, or in one of its holes with some brackets open. -/
inductive Mode where
  | text (form : TextForm)
  | hole (form : TextForm) (depth : Nat)
  deriving Repr, Inhabited

/-- The form of the interpolated text at the beginning of a text, with the number of characters before its
first quote. -/
def interpolation? (cs : List Char) : Option (TextForm × Nat) :=
  match cs with
  | '$' :: '@' :: '"' :: _ => some (⟨true, 1, 1⟩, 2)
  | '@' :: '$' :: '"' :: _ => some (⟨true, 1, 1⟩, 2)
  | _ =>
    let dollars := (cs.takeWhile (· == '$')).length
    let count := quoteRun (cs.drop dollars)
    if dollars = 0 ∨ count = 0 then none
    else if count < 3 then (if dollars = 1 then some (⟨false, 1, 1⟩, 1) else none)
    else some (⟨false, dollars, count⟩, dollars)

namespace TextForm

/-- Whether a text is raw. -/
def isRaw (f : TextForm) : Bool :=
  3 ≤ f.quotes

/-- The token of the quotes around an interpolated text. -/
def quoteToken (f : TextForm) (c : Cursor) : Token :=
  if f.isRaw then c.token "interpolation_quote" true f.quotes else c.token "\"" false 1

/-- How many braces of a run stand for themselves. Outside of raw texts two of them stand for one. -/
def plainBraces (f : TextForm) (run : Nat) : Nat :=
  if f.isRaw then (if f.braces ≤ run then run - f.braces else run) else run - run % 2

/-- How many quotes of a run stand for themselves. -/
def plainQuotes (f : TextForm) (run : Nat) : Nat :=
  if f.isRaw then (if f.quotes ≤ run then run - f.quotes else run)
  else if f.verbatim then run - run % 2
  else 0

/-- The number of characters of a text before the next brace, end or escape. -/
def runLength (f : TextForm) : Nat → List Char → Nat
  | 0, _ => 0
  | _, [] => 0
  | fuel + 1, c :: rest =>
    let goOn (n : Nat) : Nat := n + runLength f fuel ((c :: rest).drop n)
    if c = '{' then 0
    else if c = '"' then
      let run := quoteRun (c :: rest)
      let n := f.plainQuotes run
      if n = run then goOn n else n
    else if !f.isRaw && !f.verbatim && (c = '\\' || c = '\n') then 0
    else goOn 1

/-- The number of characters of the next piece of a text. Quotes and then braces that stand for themselves
belong to the piece that starts with them. -/
def pieceLength (f : TextForm) (cs : List Char) : Nat :=
  let run := quoteRun cs
  let n := f.plainQuotes run
  if n < run then n
  else
    let rest := cs.drop n
    let braceRun := (rest.takeWhile (· == '{')).length
    let m := f.plainBraces braceRun
    if m < braceRun then n + m
    else n + m + f.runLength cs.length (rest.drop m)

end TextForm

/-! ## Comments and directives -/

/-- The number of characters of a block comment after its opening. -/
def blockCommentLength : List Char → Option Nat
  | '*' :: '/' :: _ => some 2
  | _ :: rest => (blockCommentLength rest).map (· + 1)
  | [] => none

/-- The number of characters up to the end of the line. -/
def lineLength (cs : List Char) : Nat :=
  (cs.takeWhile fun c => c != '\n' && c != '\r').length

/-- Whether a character separates tokens. -/
def isGap (c : Char) : Bool :=
  [' ', '\t', '\n', '\r', '\x0B', '\x0C', '\u00A0', '\u3000', '\uFEFF'].contains c

/-- The next token of code that has no parts lexed on their own. -/
def codeToken? (c : Cursor) : Option (Token × Cursor) :=
  match c.rest with
  | '"' :: _ =>
    if 3 ≤ quoteRun c.rest then rawToken c
    else quotedToken '"' "string_literal" "string_literal_content" c
  | '\'' :: _ => quotedToken '\'' "character_literal" "character_literal_content" c
  | '@' :: '"' :: rest =>
    (verbatimLength rest).map fun n =>
      let n := n + 2
      let n := n + (match c.rest.drop n with
        | u :: '8' :: _ => if u = 'u' ∨ u = 'U' then 2 else 0
        | _ => 0)
      (c.token "verbatim_string_literal" true n, c.drop n)
  | x :: rest =>
    if x.isDigit || (x == '.' && rest.head?.any Char.isDigit) then
      let (n, isReal) := numberLength c.rest
      some (c.token (if isReal then "real_literal" else "integer_literal") true n, c.drop n)
    else
      let n := wordLength c.rest
      if n != 0 then some (wordToken c n, c.drop n)
      else
        let n := symbolLength c.rest
        if n != 0 then some (c.token (c.text n) false n, c.drop n) else none
  | [] => none

/-! ## Directives -/

/-- The directives that are followed by free text. -/
def freeDirectives : List String :=
  ["#region", "#endregion", "#error", "#warning", "#define", "#undef"]

/-- The head of a directive: the number sign with the word after it. -/
def directiveHead (c : Cursor) : Token × Cursor :=
  let blanks := ((c.rest.drop 1).takeWhile fun x => x == ' ' || x == '\t').length
  let word := (c.rest.drop (blanks + 1)).takeWhile Char.isAlpha
  let n := 1 + blanks + word.length
  let spelling := "#" ++ String.ofList word
  (⟨spelling, c.leaf spelling false n⟩, c.drop n)

/-- The free text up to the end of the line. -/
def freeText (c : Cursor) : List Token × Cursor :=
  let c := c.drop (c.rest.takeWhile fun x => isGap x && x != '\n').length
  let n := (c.rest.takeWhile (· != '\n')).length
  if n = 0 then ([], c) else ([c.token "preproc_arg" true n], c.drop n)

/-- The tokens up to a comment or the end of the line. -/
def lineTokens : Nat → Cursor → List Token × Cursor
  | 0, c => ([], c)
  | fuel + 1, c =>
    match c.rest with
    | [] => ([], c)
    | '\n' :: _ => ([], c)
    | '/' :: '/' :: _ => ([], c)
    | '/' :: '*' :: _ => ([], c)
    | x :: _ =>
      if isGap x then lineTokens fuel (c.drop 1)
      else
        match codeToken? c with
        | some (t, after) =>
          let (ts, after) := lineTokens fuel after
          (t :: ts, after)
        | none => lineTokens fuel (c.drop 1)

/-- A directive with the cursor after it. -/
def directive (c : Cursor) : Lexeme × Cursor :=
  let (head, after) := directiveHead c
  let (line, after) :=
    if freeDirectives.contains head.text then freeText after else lineTokens c.rest.length after
  (.directive head line, after)

/-! ## The lexer -/

/-- The modes after a symbol of code, which may open or close brackets in a hole. -/
def modesAfter (symbol : String) : List Mode → List Mode
  | .hole form depth :: rest =>
    if ["(", "[", "\x7b"].contains symbol then .hole form (depth + 1) :: rest
    else if [")", "]", "\x7d"].contains symbol then .hole form (depth - 1) :: rest
    else .hole form depth :: rest
  | modes => modes

/-- The lexemes from a cursor on. `fresh` says that only gaps stand before it in its line. -/
def lexFrom : Nat → Bool → List Mode → Cursor → List Lexeme
  | 0, _, _, _ => []
  | fuel + 1, fresh, modes, c =>
    match modes, c.rest with
    | [], [] => []
    | _ :: _, [] => [.fault]
    | .text form :: outer, x :: _ =>
      match form.pieceLength c.rest with
      | 0 =>
        if x = '{' then
          .token (c.token "interpolation_brace" true form.braces) ::
            lexFrom fuel false (.hole form 0 :: .text form :: outer) (c.drop form.braces)
        else if x = '"' then
          .token (form.quoteToken c) :: lexFrom fuel false outer (c.drop form.quotes)
        else if x = '\\' then
          let n := escapeLength c.rest
          .token (c.token "escape_sequence" true n) :: lexFrom fuel false modes (c.drop n)
        else .fault :: lexFrom fuel false outer (c.drop 1)
      | n => .token (c.token "string_content" true n) :: lexFrom fuel false modes (c.drop n)
    | _, x :: rest =>
      if isGap x then lexFrom fuel (fresh || x = '\n') modes (c.drop 1)
      else if x = '/' ∧ rest.head? = some '/' then
        let n := lineLength c.rest
        .extra (c.leaf "comment" true n) :: lexFrom fuel fresh modes (c.drop n)
      else if x = '/' ∧ rest.head? = some '*' then
        match blockCommentLength (rest.drop 1) with
        | none => [.fault]
        | some n => .extra (c.leaf "comment" true (n + 2)) :: lexFrom fuel fresh modes (c.drop (n + 2))
      else if x = '#' ∧ rest.head? = some '!' ∧ c.place.offset = 0 then
        let n := lineLength c.rest
        .extra (c.leaf "shebang_directive" true n) :: lexFrom fuel fresh modes (c.drop n)
      else if x = '#' ∧ fresh then
        let (d, after) := directive c
        d :: lexFrom fuel false modes after
      else
        match modes, x with
        | .hole form 0 :: outer, '}' =>
          .token (c.token "interpolation_brace" true form.braces) ::
            lexFrom fuel false outer (c.drop form.braces)
        | .hole form 0 :: outer, ':' =>
          if rest.head? = some ':' then
            .token (c.token "::" false 2) :: lexFrom fuel false modes (c.drop 2)
          else
            let n := (c.rest.takeWhile fun y => y != '}' && y != '"').length
            .token ⟨c.text n, .mk "interpolation_format_clause" true c.place (c.drop n).place
                [(none, c.leaf ":" false 1)]⟩ ::
              lexFrom fuel false (.hole form 0 :: outer) (c.drop n)
        | _, _ =>
          match interpolation? c.rest with
          | some (form, n) =>
            let next := c.drop n
            .token (c.token "interpolation_start" true n) :: .token (form.quoteToken next) ::
              lexFrom fuel false (.text form :: modes) (next.drop form.quotes)
          | none =>
            match codeToken? c with
            | some (t, after) => .token t :: lexFrom fuel false (modesAfter t.text modes) after
            | none => .fault :: lexFrom fuel false modes (c.drop 1)

/-- The lexemes of a source, in order. -/
def lex (source : String) : List Lexeme :=
  lexFrom (2 * source.length + 2) true [] ⟨.start, source.toList⟩

end SolutionSurvey.CSharp
