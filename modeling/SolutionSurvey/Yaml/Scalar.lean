import SolutionSurvey.Text.Encoding
import SolutionSurvey.Yaml.Cursor

/-!
# Scalars and names of YAML

How the tokens that hold text are read: quoted, plain and block scalars, anchors, tags and directives.

## Main definitions

* `Yaml.quotedScalar`, `Yaml.plainScalar`, `Yaml.blockScalar` — scalars.
* `Yaml.anchorName`, `Yaml.tagToken`, `Yaml.directiveToken` — the others.
-/

namespace SolutionSurvey.Yaml

/-! ## Quoted scalars -/

/-- What an escape of one letter stands for. -/
def escapes : List (Char × Char) :=
  [('0', Char.ofNat 0), ('a', Char.ofNat 7), ('b', Char.ofNat 8), ('t', '\t'), ('\t', '\t'), ('n', '\n'),
    ('v', Char.ofNat 0xB), ('f', Char.ofNat 0xC), ('r', '\r'), ('e', Char.ofNat 0x1B), (' ', ' '),
    ('"', '"'), ('\\', '\\'), ('/', '/'), ('N', Char.ofNat 0x85), ('_', Char.ofNat 0xA0),
    ('L', Char.ofNat 0x2028), ('P', Char.ofNat 0x2029)]

/-- The number of digits of an escape that gives a code. -/
def codeLength : Char → Option Nat
  | 'x' => some 2
  | 'u' => some 4
  | 'U' => some 8
  | _ => none

/-- The value of digits of base sixteen. -/
def hexValue (cs : List Char) : Nat :=
  cs.foldl (fun n c =>
    n * 16 + (if c.isDigit then c.toNat - '0'.toNat else c.toLower.toNat - 'a'.toNat + 10)) 0

/-- The next `count` characters, which are digits of base sixteen, or the first of them that is none. -/
def hexDigits (count : Nat) : Scan (Except Char (List Char)) := do
  let ds := ((← get).rest.take count).takeWhile isHex
  if ds.length = count then
    need count
    pure (.ok ds)
  else pure (.error (← peekAt ds.length))

/-- Line breaks inside a quoted scalar and the blanks around them, with what the breaks stand for. -/
def quotedBreaks (start : Mark) : Nat → Scan (List Char)
  | 0 => pure []
  | fuel + 1 => do
    if ← atSeparator then
      failHere "while scanning a quoted scalar" start "found unexpected document separator"
    let _ ← takeChars fun c => c == ' ' || c == '\t'
    if isBreak (← peek) then
      let b ← lineBreak
      pure (b ++ (← quotedBreaks start fuel))
    else pure []

/-- What line breaks stand for where lines are folded: a single line feed for a blank, more of them for
the others. -/
def folded (first others : List Char) : List Char :=
  (if first != ['\n'] then first else if others.isEmpty then [' '] else []) ++ others

/-- The sign of a code, which must be one of Unicode. -/
def signOfCode (code : Nat) : Scan Sign :=
  if code < 0x110000 then pure (.ofCode code)
  else if code < 0x80000000 then throw (.failure (.value .noCodePoint))
  else throw (.failure .tooLarge)

/-- The escape after a backslash, with what it stands for. -/
def escape (start : Mark) : Scan (List Sign) := do
  let activity := "while scanning a double-quoted scalar"
  let c ← peek
  match escapes.lookup c, codeLength c with
  | some r, _ =>
    forward 1
    pure [.char r]
  | none, some count =>
    forward 1
    match ← hexDigits count with
    | .error other =>
      failHere activity start ("expected escape sequence of " ++ toString count ++
        " hexadecimal numbers, but found " ++ shown other)
    | .ok ds =>
      let sign ← signOfCode (hexValue ds)
      forward count
      pure [sign]
  | none, none =>
    if isBreak c then
      let _ ← lineBreak
      let breaks ← quotedBreaks start (← room)
      pure (breaks.map .char)
    else failHere activity start ("found unknown escape character " ++ shown c)

/-- The signs of a quoted scalar up to a blank or its end. -/
def quotedRun (double : Bool) (start : Mark) : Nat → Scan (List Sign)
  | 0 => pure []
  | fuel + 1 => do
    let chars ← takeChars fun c => !isGap c && c != '\'' && c != '"' && c != '\\'
    let run := chars.map Sign.char
    let c ← peek
    if !double && c == '\'' && (← peekAt 1) == '\'' then
      forward 2
      pure (run ++ .char '\'' :: (← quotedRun double start fuel))
    else if (double && c == '\'') || (!double && (c == '"' || c == '\\')) then
      forward 1
      pure (run ++ .char c :: (← quotedRun double start fuel))
    else if double && c == '\\' then
      forward 1
      let e ← escape start
      pure (run ++ e ++ (← quotedRun double start fuel))
    else pure run

/-- Blanks or line breaks inside a quoted scalar, with what they stand for. -/
def quotedSpaces (start : Mark) : Scan (List Char) := do
  let blanks ← takeChars fun c => c == ' ' || c == '\t'
  let c ← peek
  if c == endMark then
    failHere "while scanning a quoted scalar" start "found unexpected end of stream"
  else if isBreak c then
    let first ← lineBreak
    let others ← quotedBreaks start (← room)
    pure (folded first others)
  else pure blanks

/-- The rest of a quoted scalar up to its closing quote. -/
def quotedRest (quote : Char) (start : Mark) : Nat → Scan (List Sign)
  | 0 => pure []
  | fuel + 1 => do
    if (← peek) == quote then
      forward 1
      pure []
    else
      let spaces ← quotedSpaces start
      let run ← quotedRun (quote == '"') start (← room)
      pure (spaces.map .char ++ run ++ (← quotedRest quote start fuel))

/-- A scalar between quotes. -/
def quotedScalar : Scan TokenKind := do
  let start ← mark
  let quote ← peek
  forward 1
  let first ← quotedRun (quote == '"') start (← room)
  let others ← quotedRest quote start (← room)
  pure (.scalar (.ofSigns (first ++ others)) false)

/-! ## Plain scalars -/

/-- Whether a plain scalar stops before a character, given the one that follows it. -/
def stopsPlain (inFlow : Bool) (c next : Char) : Bool :=
  isGap c || (c == ':' && (isGap next || (inFlow && [',', '[', ']', '{', '}'].contains next))) ||
    (inFlow && [',', '?', '[', ']', '{', '}'].contains c)

/-- The number of characters before a plain scalar stops. -/
def plainLength (inFlow : Bool) : List Char → Nat
  | [] => 0
  | c :: rest =>
    if stopsPlain inFlow c (rest.head?.getD endMark) then 0 else plainLength inFlow rest + 1

/-- The number of characters before a plain scalar stops, for which it has to be known what follows
them. -/
def plainRun (inFlow : Bool) : Scan Nat := do
  let n := plainLength inFlow (← get).rest
  if (← peekAt n) == ':' then need (n + 2)
  pure n

/-- Line breaks and blanks after a line of a plain scalar; nothing at a mark between documents. -/
def plainBreaks : Nat → Scan (Option (List Char))
  | 0 => pure (some [])
  | fuel + 1 => do
    if (← peek) == ' ' then
      forward 1
      plainBreaks fuel
    else if isBreak (← peek) then
      let b ← lineBreak
      if ← atSeparator then pure none
      else
        let others ← plainBreaks fuel
        pure (others.map (b ++ ·))
    else pure (some [])

/-- Blanks or line breaks inside a plain scalar with what they stand for, and whether there was a line
break. Nothing but an empty answer goes on to a mark between documents. -/
def plainSpaces : Scan (List Char × Bool) := do
  let blanks ← takeChars (· == ' ')
  if isBreak (← peek) then
    let first ← lineBreak
    if ← atSeparator then pure ([], true)
    else
      match ← plainBreaks (← room) with
      | none => pure ([], true)
      | some others => pure (folded first others, true)
  else pure (blanks, false)

/-- The rest of a plain scalar after `spaces`, and whether it ended after a line break. -/
def plainRest (inFlow : Bool) (indent : Int) (spaces : List Char) (broken : Bool) :
    Nat → Scan (List Char × Bool)
  | 0 => pure ([], broken)
  | fuel + 1 => do
    if (← peek) == '#' then pure ([], broken)
    else
      let n ← plainRun inFlow
      if n == 0 then pure ([], broken)
      else
        let run := (← get).rest.take n
        forward n
        let (next, broken) ← plainSpaces
        if next.isEmpty || (← peek) == '#' || (!inFlow && ((← mark).column : Int) < indent) then
          pure (spaces ++ run, broken)
        else
          let (others, broken) ← plainRest inFlow indent next broken fuel
          pure (spaces ++ run ++ others, broken)

/-- A scalar without quotes, and whether a line break follows it. Its lines stand at `indent` at
least. -/
def plainScalar (inFlow : Bool) (indent : Int) : Scan (TokenKind × Bool) := do
  let (cs, broken) ← plainRest inFlow indent [] false (← room)
  pure (.scalar (String.ofList cs) true, broken)

/-! ## Block scalars -/

/-- What happens to the line breaks at the end of a block scalar. -/
inductive Chomping where
  | strip
  | clip
  | keep
  deriving Repr, DecidableEq, Inhabited

/-- The sign for the line breaks at the end, if there is one. -/
def chompingSign : Scan (Option Chomping) := do
  let c ← peek
  if c == '+' then
    forward 1
    pure (some .keep)
  else if c == '-' then
    forward 1
    pure (some .strip)
  else pure none

/-- The digit for the indentation, if there is one. -/
def indentDigit (start : Mark) : Scan (Option Nat) := do
  let c ← peek
  if c == '0' then
    failHere "while scanning a block scalar" start
      "expected indentation indicator in the range 1-9, but found 0"
  else if c.isDigit then
    forward 1
    pure (some (c.toNat - '0'.toNat))
  else pure none

/-- The signs after the mark of a block scalar, in either order. -/
def blockHeader (start : Mark) : Scan (Chomping × Option Nat) := do
  let sign ← chompingSign
  let digit ← indentDigit start
  let sign ← if sign.isNone && digit.isSome then chompingSign else pure sign
  let c ← peek
  if !isSpaceOrEnd c then
    failHere "while scanning a block scalar" start
      ("expected chomping or indentation indicators, but found " ++ shown c)
  pure (sign.getD .clip, digit)

/-- The rest of a line that may hold nothing but a comment. -/
def emptyRest (activity : String) (start : Mark) : Scan Unit := do
  skipBlanks
  skipComment
  let c ← peek
  if !isLineEnd c then
    failHere activity start ("expected a comment or a line break, but found " ++ shown c)
  let _ ← lineBreak

/-- Moves past blanks up to a column. -/
def skipToColumn (column : Nat) : Scan Unit := do
  let here := (← mark).column
  let blanks := ((← get).rest.takeWhile (· == ' ')).length
  forward (min blanks (column - here))

/-- Empty lines of a block scalar that stands at a column. -/
def blockBreaks (column : Nat) : Nat → Scan (List Char)
  | 0 => pure []
  | fuel + 1 => do
    skipToColumn column
    if isBreak (← peek) then
      let b ← lineBreak
      pure (b ++ (← blockBreaks column fuel))
    else pure []

/-- The lines before the first one with text, and the greatest column that blanks reach in them. -/
def blockLead (greatest : Nat) : Nat → Scan (List Char × Nat)
  | 0 => pure ([], greatest)
  | fuel + 1 => do
    let c ← peek
    if c == ' ' then
      forward 1
      blockLead (max greatest (← mark).column) fuel
    else if isBreak c then
      let b ← lineBreak
      let (others, greatest) ← blockLead greatest fuel
      pure (b ++ others, greatest)
    else pure ([], greatest)

/-- The lines of a block scalar from a column on: their text, the last line break, and the empty lines
at the end. -/
def blockLines (isFolded : Bool) (column : Nat) (breaks : List Char) :
    Nat → Scan (List Char × List Char × List Char)
  | 0 => pure ([], [], breaks)
  | fuel + 1 => do
    if (← mark).column == column && (← peek) != endMark then
      let isText := (← peek) != ' ' && (← peek) != '\t'
      let line ← takeChars fun c => !isLineEnd c
      let last ← lineBreak
      let next ← blockBreaks column (← room)
      if (← mark).column == column && (← peek) != endMark then
        let c ← peek
        let between := if isFolded && last == ['\n'] && isText && c != ' ' && c != '\t' then
            (if next.isEmpty then [' '] else [])
          else last
        let (others, tail) ← blockLines isFolded column next fuel
        pure (breaks ++ line ++ between ++ others, tail)
      else pure (breaks ++ line, last, next)
    else pure ([], [], breaks)

/-- A block scalar inside a block that stands at `indent`. -/
def blockScalar (isFolded : Bool) (indent : Int) : Scan TokenKind := do
  let start ← mark
  forward 1
  let (chomping, increment) ← blockHeader start
  emptyRest "while scanning a block scalar" start
  let least := max 1 (indent + 1).toNat
  let (breaks, column) ← match increment with
    | none => do
      let (breaks, greatest) ← blockLead 0 (← room)
      pure (breaks, max least greatest)
    | some n => do
      let column := least + n - 1
      pure (← blockBreaks column (← room), column)
  let (text, last, tail) ← blockLines isFolded column breaks (← room)
  let ending := match chomping with
    | .strip => []
    | .clip => last
    | .keep => last ++ tail
  pure (.scalar (String.ofList (text ++ ending)) false)

/-! ## Names -/

/-- The name of an anchor or alias, after its sign. -/
def anchorName (what : String) : Scan String := do
  let start ← mark
  let activity := "while scanning an " ++ what
  forward 1
  let name ← takeChars isNameChar
  let c ← peek
  if name.isEmpty || !(isGap c || ['?', ':', ',', ']', '}', '%', '@', '\x60'].contains c) then
    failHere activity start ("expected alphabetic or numeric character, but found " ++ shown c)
  pure (String.ofList name)

/-- The handle of a tag, between marks of exclamation. -/
def tagHandle (what : String) (start : Mark) : Scan String := do
  let activity := "while scanning a " ++ what
  let c ← peek
  if c != '!' then
    failHere activity start ("expected '!', but found " ++ shown c)
  if (← peekAt 1) == ' ' then
    forward 1
    pure "!"
  else
    forward 1
    let name ← takeChars isNameChar
    let c ← peek
    if c != '!' then
      failHere activity start ("expected '!', but found " ++ shown c)
    forward 1
    pure (String.ofList ('!' :: name ++ ['!']))

/-- Whether a character may stand in an address. -/
def isAddressChar (c : Char) : Bool :=
  c.isAlphanum || "-;/?:@&=+$,_.!~*'()[]".toList.contains c

/-- The bytes of a run of escapes in an address. -/
def addressBytes (what : String) (start : Mark) : Nat → Scan (List UInt8)
  | 0 => pure []
  | fuel + 1 => do
    if (← peek) == '%' then
      forward 1
      match ← hexDigits 2 with
      | .error other =>
        failHere ("while scanning a " ++ what) start
          ("expected URI escape sequence of 2 hexadecimal numbers, but found " ++ shown other)
      | .ok ds =>
        forward 2
        pure (UInt8.ofNat (hexValue ds) :: (← addressBytes what start fuel))
    else pure []

/-- The parts of an address. -/
def addressParts (what : String) (start : Mark) : Nat → Scan (List Char)
  | 0 => pure []
  | fuel + 1 => do
    let run ← takeChars isAddressChar
    if (← peek) == '%' then
      let here ← mark
      let bytes ← addressBytes what start (← room)
      match Encoding.decodeUtf8 bytes with
      | .error d => throw (.during ("while scanning a " ++ what) start d.message here)
      | .ok cs => pure (run ++ cs ++ (← addressParts what start fuel))
    else pure run

/-- An address of at least one part. -/
def address (what : String) (start : Mark) : Scan String := do
  let before ← mark
  let cs ← addressParts what start (← room)
  if (← mark) == before then
    failHere ("while parsing a " ++ what) start ("expected URI, but found " ++ shown (← peek))
  pure (String.ofList cs)

/-- Whether the tag that starts here has a handle of its own: a second mark of exclamation before the
next blank. -/
def hasHandle : Scan Bool := do
  let run := ((← get).rest.drop 1).takeWhile fun c => !isSpaceOrEnd c && c != '!'
  pure ((← peekAt (run.length + 1)) == '!')

/-- A tag. -/
def tagToken : Scan TokenKind := do
  let start ← mark
  let c ← peekAt 1
  let t ← if c == '<' then do
      forward 2
      let suffix ← address "tag" start
      if (← peek) != '>' then
        failHere "while parsing a tag" start ("expected '>', but found " ++ shown (← peek))
      forward 1
      pure (TokenKind.tag none suffix)
    else if isGap c then do
      forward 1
      pure (TokenKind.tag none "!")
    else do
      let handle ← if ← hasHandle then tagHandle "tag" start
        else do
          forward 1
          pure "!"
      pure (TokenKind.tag (some handle) (← address "tag" start))
  let c ← peek
  if !isSpaceOrEnd c then
    failHere "while scanning a tag" start ("expected ' ', but found " ++ shown c)
  pure t

/-! ## Directives -/

/-- What directives are scanned for in messages. -/
def inDirective : String := "while scanning a directive"

/-- A number in a directive. -/
def directiveNumber (start : Mark) : Scan Nat := do
  let c ← peek
  if !c.isDigit then
    failHere inDirective start ("expected a digit, but found " ++ shown c)
  let ds ← takeChars Char.isDigit
  if digitLimit < ds.length then throw (.failure (.value (.tooManyDigits ds.length)))
  pure (ds.foldl (fun n d => n * 10 + (d.toNat - '0'.toNat)) 0)

/-- The version in a directive. -/
def directiveVersion (start : Mark) : Scan TokenKind := do
  skipBlanks
  let major ← directiveNumber start
  let c ← peek
  if c != '.' then
    failHere inDirective start ("expected a digit or '.', but found " ++ shown c)
  forward 1
  let minor ← directiveNumber start
  let c ← peek
  if !isSpaceOrEnd c then
    failHere inDirective start ("expected a digit or ' ', but found " ++ shown c)
  pure (.version major minor)

/-- The handle in a directive with its meaning. -/
def directiveHandle (start : Mark) : Scan TokenKind := do
  skipBlanks
  let handle ← tagHandle "directive" start
  let c ← peek
  if c != ' ' then
    failHere inDirective start ("expected ' ', but found " ++ shown c)
  skipBlanks
  let meaning ← address "directive" start
  let c ← peek
  if !isSpaceOrEnd c then
    failHere inDirective start ("expected ' ', but found " ++ shown c)
  pure (.handle handle meaning)

/-- A directive, with the place where it stops. -/
def directiveToken : Scan (TokenKind × Mark) := do
  let start ← mark
  forward 1
  let name ← takeChars isNameChar
  let c ← peek
  if name.isEmpty || !isSpaceOrEnd c then
    failHere inDirective start ("expected alphabetic or numeric character, but found " ++ shown c)
  let (t, stop) ← match String.ofList name with
    | "YAML" => do
      let t ← directiveVersion start
      pure (t, ← mark)
    | "TAG" => do
      let t ← directiveHandle start
      pure (t, ← mark)
    | _ => do
      let stop ← mark
      let _ ← takeChars fun c => !isLineEnd c
      pure (TokenKind.directive, stop)
  emptyRest inDirective start
  pure (t, stop)

end SolutionSurvey.Yaml
