import SolutionSurvey.Yaml.Source

/-!
# Reading characters of YAML

A reader moves over the characters of a document. Past the end it sees the null character, which no
document holds. Where something bars the way, looking or moving there stops the reader.

## Main definitions

* `Yaml.Cursor` — the characters that are left, with their place.
* `Yaml.Scan` — computations that move a cursor and may meet a problem.
* `Yaml.need` — what every look and move asks for first.
* `peek`, `forward`, `takeChars`, `lineBreak` — looks and moves.
-/

namespace SolutionSurvey.Yaml

/-- The characters that are left, with the place of the first of them, and what bars the way after
them. -/
structure Cursor where
  mark : Mark
  rest : List Char
  barrier : Option Fault := none
  deriving Repr, Inhabited

/-- Computations that move a cursor and may meet a problem. -/
abbrev Scan := StateT Cursor (Except Fault)

/-! ## Classes of characters -/

/-- What a reader sees past the end. -/
def endMark : Char := Char.ofNat 0

/-- Whether a character breaks lines. -/
def isBreak (c : Char) : Bool :=
  c == '\n' || c == '\r' || c.toNat == 0x85 || c.toNat == 0x2028 || c.toNat == 0x2029

/-- Whether a character breaks lines, or is the end. -/
def isLineEnd (c : Char) : Bool :=
  c == endMark || isBreak c

/-- Whether a character is a blank, breaks lines, or is the end. -/
def isSpaceOrEnd (c : Char) : Bool :=
  c == ' ' || isLineEnd c

/-- The same with tabulators. -/
def isGap (c : Char) : Bool :=
  c == '\t' || isSpaceOrEnd c

/-- Whether a character may stand in the names of anchors, directives and handles. -/
def isNameChar (c : Char) : Bool :=
  c.isAlphanum || c == '-' || c == '_'

/-- Whether a character is a digit of base sixteen. -/
def isHex (c : Char) : Bool :=
  c.isDigit || ('a' ≤ c && c ≤ 'f') || ('A' ≤ c && c ≤ 'F')

/-! ## Moves -/

/-- The mark after a character, given the one that follows it. A carriage return with a line feed after
it breaks no line by itself. -/
def Mark.after (m : Mark) (c : Char) (next : Option Char) : Mark :=
  if (isBreak c && c != '\r') || (c == '\r' && next != some '\n') then ⟨m.index + 1, m.line + 1, 0⟩
  else if c.toNat = 0xFEFF then ⟨m.index + 1, m.line, m.column⟩
  else ⟨m.index + 1, m.line, m.column + 1⟩

/-- The place and the characters some characters on. -/
def dropChars : Nat → Mark → List Char → Mark × List Char
  | 0, m, cs => (m, cs)
  | n + 1, m, c :: rest => dropChars n (m.after c rest.head?) rest
  | _, m, [] => (m, [])

/-- The cursor some characters on. -/
def Cursor.drop (n : Nat) (c : Cursor) : Cursor :=
  let (mark, rest) := dropChars n c.mark c.rest
  { c with mark, rest }

/-- Stops where something bars the way to the next `count` characters. -/
def need (count : Nat) : Scan Unit := do
  let c ← get
  match c.barrier with
  | none => pure ()
  | some f => if (c.rest.drop (count - 1)).isEmpty then throw f

/-- The character some places on. -/
def peekAt (n : Nat) : Scan Char := do
  need (n + 1)
  pure ((← get).rest[n]?.getD endMark)

/-- The next character. -/
def peek : Scan Char := peekAt 0

/-- The place of the next character. -/
def mark : Scan Mark := do
  pure (← get).mark

/-- Moves some characters on, to where there must be another one or the end. -/
def forward (n : Nat) : Scan Unit := do
  need (n + 1)
  modify (Cursor.drop n)

/-- The next characters that pass a test; moves past them. -/
def takeChars (test : Char → Bool) : Scan (List Char) := do
  let cs := (← get).rest.takeWhile test
  forward cs.length
  pure cs

/-- Moves past blanks. -/
def skipBlanks : Scan Unit := do
  let _ ← takeChars (· == ' ')

/-- Moves to the end of the line if a comment starts here. -/
def skipComment : Scan Unit := do
  if (← peek) == '#' then
    let _ ← takeChars fun c => !isLineEnd c

/-- Moves past a line break, if there is one, and gives what it stands for: the two separators of
Unicode for themselves, any other one for a line feed. -/
def lineBreak : Scan (List Char) := do
  let c ← peek
  if c.toNat == 0x2028 || c.toNat == 0x2029 then
    forward 1
    pure [c]
  else if isBreak c then
    forward (if c == '\r' && (← peekAt 1) == '\n' then 2 else 1)
    pure ['\n']
  else pure []

/-- Whether one of some marks of three characters stands here by itself. -/
def atMark (marks : List (List Char)) : Scan Bool := do
  need 3
  if marks.contains ((← get).rest.take 3) then pure (isGap (← peekAt 3)) else pure false

/-- Whether a mark between documents stands here. -/
def atSeparator : Scan Bool := atMark [['-', '-', '-'], ['.', '.', '.']]

/-- The number of characters that are left, with one for the end. -/
def room : Scan Nat := do
  pure ((← get).rest.length + 1)

/-- Stops with a problem at the next character. -/
def failHere {α : Type} (activity : String) (since : Mark) (fault : String) : Scan α := do
  throw (.during activity since fault (← mark))

/-- The text between quotes that stands for a character in a message. -/
def shown (c : Char) : String :=
  Text.quoted (String.singleton c)

end SolutionSurvey.Yaml
