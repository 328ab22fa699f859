import SolutionSurvey.Yaml.Scalar

/-!
# From characters to tokens of YAML

A lexer reads tokens only as they are asked for. Whether a scalar is a key shows only at the colon after
it; until then the lexer keeps the place where a key may start, and puts the tokens for the key there
when the colon comes.

## Main definitions

* `Yaml.PendingKey` — a place where a key may start.
* `Yaml.Lexer` — what a lexer remembers.
* `Yaml.peekToken`, `Yaml.takeToken` — the next token, kept or taken.
-/

namespace SolutionSurvey.Yaml

/-- A place where a key may start: the number of its token among all, the nesting it stands in, and
whether there must be a key. -/
structure PendingKey where
  number : Nat
  level : Nat
  required : Bool
  place : Mark
  deriving Repr, DecidableEq, Inhabited

/-- What a lexer remembers: the characters that are left, the nesting in brackets, the tokens read and
not yet taken, how many were taken, the column of the open block with those around it, whether a key may
start here, the places where one may have started, and whether the end was read. -/
structure Lexer where
  cursor : Cursor
  level : Nat := 0
  queue : List Token := []
  taken : Nat := 0
  indent : Int := -1
  outer : List Int := []
  keyAllowed : Bool := true
  pending : List PendingKey := []
  ended : Bool := false
  deriving Repr, Inhabited

/-- Computations that read tokens and may meet a problem. -/
abbrev Lex := StateT Lexer (Except Fault)

/-- The lexer at the start of a text. -/
def Lexer.ofSource (s : Source) : Lexer :=
  { cursor := ⟨{}, s.chars, s.barrier⟩, queue := [⟨.streamStart, {}, {}⟩] }

namespace Lexer

/-! ## Characters and tokens -/

/-- Runs a reader of characters. -/
def scan {α : Type} (r : Scan α) : Lex α := do
  let s ← get
  let (a, cursor) ← r.run s.cursor
  set { s with cursor }
  pure a

/-- The place of the next character. -/
def here : Lex Mark := do
  pure (← get).cursor.mark

/-- Adds a token after the others. -/
def push (t : Token) : Lex Unit :=
  modify fun s => { s with queue := s.queue ++ [t] }

/-- Adds a token that takes no characters. -/
def pushHere (kind : TokenKind) : Lex Unit := do
  let m ← here
  push ⟨kind, m, m⟩

/-- Reads a token and adds it. -/
def pushScanned (r : Scan TokenKind) : Lex Unit := do
  let start ← here
  let kind ← scan r
  push ⟨kind, start, ← here⟩

/-- Adds a token that takes the given number of characters. -/
def pushSign (kind : TokenKind) (length : Nat) : Lex Unit :=
  pushScanned do
    forward length
    pure kind

/-- Says whether a key may start at the next token. -/
def allowKey (allowed : Bool) : Lex Unit :=
  modify fun s => { s with keyAllowed := allowed }

/-! ## Places where a key may start -/

/-- The problem of a key without its colon. -/
def keyLost {α : Type} (k : PendingKey) : Lex α := do
  throw (.during "while scanning a simple key" k.place "could not find expected ':'" (← here))

/-- Whether a key that started at a place may still end at another one: on the same line, and not too
far on. -/
def PendingKey.fresh (m : Mark) (k : PendingKey) : Bool :=
  k.place.line == m.line && m.index - k.place.index ≤ 1024

/-- Gives up the keys that can no longer end. -/
def dropStale : Lex Unit := do
  let m ← here
  match (← get).pending.find? fun k => !PendingKey.fresh m k && k.required with
  | some k => keyLost k
  | none => modify fun s => { s with pending := s.pending.filter (PendingKey.fresh m) }

/-- Gives up the key that may have started at this nesting. -/
def dropPending : Lex Unit := do
  let s ← get
  match s.pending.find? fun k => k.level == s.level with
  | none => pure ()
  | some k =>
    if k.required then keyLost k
    set { s with pending := s.pending.filter fun k => k.level != s.level }

/-- Notes that a key may start here. There must be one where the open block goes on. -/
def notePending : Lex Unit := do
  let s ← get
  if s.keyAllowed then
    dropPending
    let m := s.cursor.mark
    let k : PendingKey :=
      ⟨s.taken + s.queue.length, s.level, s.level == 0 && s.indent == (m.column : Int), m⟩
    modify fun s => { s with pending := s.pending ++ [k] }

/-! ## Blocks -/

/-- The columns around the blocks that end before a column, and how many these are. -/
def unwound (column : Int) : List Int → Int → Int × List Int × Nat
  | [], indent => (indent, [], 0)
  | i :: outer, indent =>
    if column < indent then
      let (indent, outer, n) := unwound column outer i
      (indent, outer, n + 1)
    else (indent, i :: outer, 0)

/-- Ends the blocks that stand right of a column. Brackets hide columns. -/
def unwindTo (column : Int) : Lex Unit := do
  let s ← get
  if s.level == 0 then
    let (indent, outer, n) := unwound column s.outer s.indent
    let m := s.cursor.mark
    set { s with indent, outer, queue := s.queue ++ List.replicate n (Token.mk .blockEnd m m) }

/-- Opens a block at a column, unless the open one stands there or right of it. -/
def openBlock (column : Nat) : Lex Bool := do
  let s ← get
  if s.indent < (column : Int) then
    set { s with indent := column, outer := s.indent :: s.outer }
    pure true
  else pure false

/-- Opens a block of the given kind at the next character, where a block may start only if a key may. -/
def startBlock (kind : TokenKind) (fault : String) : Lex Unit := do
  let s ← get
  if s.level == 0 then
    if !s.keyAllowed then throw (.plain fault s.cursor.mark)
    if ← openBlock s.cursor.mark.column then pushHere kind

/-- Puts tokens before the one with the given number among all. -/
def insertAt (number : Nat) (ts : List Token) : Lex Unit :=
  modify fun s =>
    let n := number - s.taken
    { s with queue := s.queue.take n ++ ts ++ s.queue.drop n }

/-! ## Tokens by kind -/

/-- The end of the text. -/
def fetchEnd : Lex Unit := do
  unwindTo (-1)
  dropPending
  allowKey false
  pushHere .streamEnd
  modify fun s => { s with pending := [], ended := true }

/-- Ends all blocks before a directive or a mark between documents. -/
def endBlocks : Lex Unit := do
  unwindTo (-1)
  dropPending
  allowKey false

/-- A directive. -/
def fetchDirective : Lex Unit := do
  endBlocks
  let start ← here
  let (kind, stop) ← scan directiveToken
  push ⟨kind, start, stop⟩

/-- A mark between documents. -/
def fetchSeparator (kind : TokenKind) : Lex Unit := do
  endBlocks
  pushSign kind 3

/-- An opening bracket, which may start a key. -/
def fetchOpening (kind : TokenKind) : Lex Unit := do
  notePending
  modify fun s => { s with level := s.level + 1 }
  allowKey true
  pushSign kind 1

/-- A closing bracket. -/
def fetchClosing (kind : TokenKind) : Lex Unit := do
  dropPending
  modify fun s => { s with level := s.level - 1 }
  allowKey false
  pushSign kind 1

/-- A comma between brackets. -/
def fetchComma : Lex Unit := do
  allowKey true
  dropPending
  pushSign .flowEntry 1

/-- The mark of an item of a block. -/
def fetchItem : Lex Unit := do
  startBlock .blockSequenceStart "sequence entries are not allowed here"
  allowKey true
  dropPending
  pushSign .blockEntry 1

/-- The mark of a key. -/
def fetchKey : Lex Unit := do
  startBlock .blockMappingStart "mapping keys are not allowed here"
  allowKey ((← get).level == 0)
  dropPending
  pushSign .key 1

/-- The colon between a key and its value. -/
def fetchValue : Lex Unit := do
  let s ← get
  match s.pending.find? fun k => k.level == s.level with
  | some k =>
    set { s with pending := s.pending.filter fun k => k.level != s.level }
    let starts ← if s.level == 0 then openBlock k.place.column else pure false
    let opening := if starts then [⟨.blockMappingStart, k.place, k.place⟩] else []
    insertAt k.number (opening ++ [⟨.key, k.place, k.place⟩])
    allowKey false
  | none =>
    startBlock .blockMappingStart "mapping values are not allowed here"
    allowKey (s.level == 0)
    dropPending
  pushSign .value 1

/-- A token that may start a key, after which none may start. -/
def fetchInline (r : Scan TokenKind) : Lex Unit := do
  notePending
  allowKey false
  pushScanned r

/-- A block scalar, after which a key may start. -/
def fetchBlockScalar (isFolded : Bool) : Lex Unit := do
  allowKey true
  dropPending
  pushScanned (blockScalar isFolded (← get).indent)

/-- A plain scalar. A key may start after it only on another line. -/
def fetchPlain : Lex Unit := do
  notePending
  let s ← get
  let start ← here
  let (kind, broken) ← scan (plainScalar (s.level != 0) (s.indent + 1))
  allowKey broken
  push ⟨kind, start, ← here⟩

/-! ## The next token -/

/-- Moves past blanks, comments and line breaks. A key may start on another line of a block. -/
def skipToToken : Nat → Lex Unit
  | 0 => pure ()
  | fuel + 1 => do
    scan do
      skipBlanks
      skipComment
    if isBreak (← scan peek) then
      let _ ← scan lineBreak
      if (← get).level == 0 then allowKey true
      skipToToken fuel

/-- Whether a gap follows the next character. -/
def gapFollows : Lex Bool := do
  pure (isGap (← scan (peekAt 1)))

/-- Whether a plain scalar may start with the next character. -/
def startsPlain (inFlow : Bool) (c : Char) : Lex Bool := do
  if !(isGap c || "-?:,[]\x7b\x7d#&*!|>'\"%@\x60".toList.contains c) then pure true
  else pure (!(← gapFollows) && (c == '-' || (!inFlow && (c == '?' || c == ':'))))

/-- Reads the tokens that start with a sign; tells whether there were any. -/
def fetchSign (inFlow : Bool) (c : Char) : Lex Bool := do
  match c with
  | '[' => fetchOpening .flowSequenceStart
  | '{' => fetchOpening .flowMappingStart
  | ']' => fetchClosing .flowSequenceEnd
  | '}' => fetchClosing .flowMappingEnd
  | ',' => fetchComma
  | '*' => fetchInline (return .alias (← anchorName "alias"))
  | '&' => fetchInline (return .anchor (← anchorName "anchor"))
  | '!' => fetchInline tagToken
  | '\'' => fetchInline quotedScalar
  | '"' => fetchInline quotedScalar
  | '-' => if ← gapFollows then fetchItem else return false
  | '?' => if inFlow || (← gapFollows) then fetchKey else return false
  | ':' => if inFlow || (← gapFollows) then fetchValue else return false
  | '|' => if inFlow then return false else fetchBlockScalar false
  | '>' => if inFlow then return false else fetchBlockScalar true
  | _ => return false
  pure true

/-- Whether a mark of three characters starts the line here. -/
def startsLine (c : Char) (sign : Char) : Lex Bool := do
  if c == sign && (← here).column == 0 then scan (atMark [[sign, sign, sign]]) else pure false

/-- Reads the next tokens. -/
def fetch : Lex Unit := do
  if (← here).index == 0 && (← scan peek).toNat == 0xFEFF then scan (forward 1)
  skipToToken (← scan room)
  dropStale
  unwindTo (← here).column
  let c ← scan peek
  let inFlow := (← get).level != 0
  if c == endMark then fetchEnd
  else if c == '%' && (← here).column == 0 then fetchDirective
  else if ← startsLine c '-' then fetchSeparator .documentStart
  else if ← startsLine c '.' then fetchSeparator .documentEnd
  else if ← fetchSign inFlow c then pure ()
  else if ← startsPlain inFlow c then fetchPlain
  else
    throw (.problem (.at_ (some "while scanning for the next token") none
      ("found character " ++ shown c ++ " that cannot start any token") (← here)))

/-- Reads tokens until it is known what the next one is: as long as a key may start at it, more must be
read. -/
def fill : Nat → Lex Unit
  | 0 => pure ()
  | fuel + 1 => do
    let s ← get
    if s.ended then pure ()
    else if s.queue.isEmpty then
      fetch
      fill fuel
    else
      dropStale
      let s ← get
      if s.pending.any fun k => k.number == s.taken then
        fetch
        fill fuel

/-- What a lexer gives past the end. -/
def pastEnd (s : Lexer) : Token :=
  ⟨.streamEnd, s.cursor.mark, s.cursor.mark⟩

end Lexer

/-- The next token. -/
def peekToken : Lex Token := do
  Lexer.fill ((← get).cursor.rest.length + 2)
  let s ← get
  pure (s.queue.head?.getD s.pastEnd)

/-- Takes the next token. -/
def takeToken : Lex Token := do
  let t ← peekToken
  modify fun s => { s with queue := s.queue.tail, taken := s.taken + 1 }
  pure t

/-- Whether the next token passes a test. -/
def nextIs (test : TokenKind → Bool) : Lex Bool := do
  pure (test (← peekToken).kind)

end SolutionSurvey.Yaml
