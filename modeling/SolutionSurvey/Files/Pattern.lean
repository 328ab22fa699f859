import SolutionSurvey.Files.Path

/-!
# Patterns of names

Names with wildcards: `*` stands for any text, `?` for one character, and brackets for one character of
a set, or with a mark of exclamation for one outside it. A bracket that is not closed stands for itself.

## Main definitions

* `CharSet` — a set in brackets, with `CharSet.ofBody` and `CharSet.contains`.
* `Wild` — the parts of a pattern.
* `Wild.parse` — the parts of a written pattern.
* `Wild.accepts` — whether a name has the form of a pattern.
-/

namespace SolutionSurvey

/-! ## Sets of characters -/

/-- A set of characters as ranges, or all characters outside it. -/
structure CharSet where
  negated : Bool
  ranges : List (Char × Char)
  deriving Repr, DecidableEq, Inhabited

namespace CharSet

/-- Whether a character belongs to a set. -/
def contains (s : CharSet) (c : Char) : Bool :=
  (s.ranges.any fun r => r.1 ≤ c && c ≤ r.2) != s.negated

/-- The pieces of a set's body between the hyphens that stand for ranges. A hyphen stands for a range
when at least one character of its own stands before it in its piece; `piece` holds the piece so far,
last character first, and `room` the number of characters that must still pass before a hyphen counts. -/
def pieces (piece : List Char) (room : Nat) : List Char → List (List Char)
  | [] => [piece.reverse]
  | c :: rest =>
    if c = '-' ∧ room = 0 then piece.reverse :: pieces [] 2 rest
    else pieces (c :: piece) (room - 1) rest

/-- Pieces of which an empty last one is a hyphen at the end of the one before. -/
def closePieces : List (List Char) → List (List Char)
  | [p, []] => [p ++ ['-']]
  | p :: rest => p :: closePieces rest
  | [] => []

/-- Pieces joined where the range between them would be empty, from the last pair on. -/
def dropEmptyRanges : List (List Char) → List (List Char)
  | [] => []
  | p :: rest =>
    match dropEmptyRanges rest with
    | [] => [p]
    | q :: more =>
      match p.getLast?, q.head? with
      | some a, some b => if b < a then (p.dropLast ++ q.tail) :: more else p :: q :: more
      | _, _ => p :: q :: more

/-- The ranges of pieces: each character by itself, and a range from the last character of a piece to
the first one of the next. -/
def rangesOf : List (List Char) → List (Char × Char)
  | [] => []
  | p :: rest =>
    let between := match p.getLast?, rest.head?.bind List.head? with
      | some a, some b => [(a, b)]
      | _, _ => []
    p.map (fun c => (c, c)) ++ between ++ rangesOf rest

/-- The set that the text between two brackets writes. -/
def ofBody (body : List Char) : CharSet :=
  let ps := if body.contains '-' then
      dropEmptyRanges (closePieces (pieces [] (if body.head? = some '!' then 2 else 1) body))
    else [body]
  match ps with
  | ('!' :: p) :: rest => ⟨true, rangesOf (p :: rest)⟩
  | ps => ⟨false, rangesOf ps⟩

end CharSet

/-! ## Patterns -/

/-- A part of a pattern. -/
inductive Wild where
  | any
  | one
  | set (s : CharSet)
  | char (c : Char)
  deriving Repr, DecidableEq, Inhabited

namespace Wild

/-- Whether a text has characters that make a pattern of it. -/
def isPattern (s : String) : Bool :=
  s.toList.any fun c => c == '*' || c == '?' || c == '['

/-- The body of a set after its opening bracket, with the text after the closing one. A closing bracket
that comes first is part of the body. -/
def setBody? (cs : List Char) : Option (List Char × List Char) :=
  let (lead, rest) := match cs with
    | '!' :: rest => (['!'], rest)
    | rest => ([], rest)
  let (lead, rest) := match rest with
    | ']' :: rest => (lead ++ [']'], rest)
    | rest => (lead, rest)
  if rest.contains ']' then
    some (lead ++ rest.takeWhile (· != ']'), (rest.dropWhile (· != ']')).drop 1)
  else none

/-- The parts of a written pattern of at most `fuel` characters. -/
def parseFrom : Nat → List Char → List Wild
  | 0, _ => []
  | _, [] => []
  | fuel + 1, '*' :: rest => .any :: parseFrom fuel rest
  | fuel + 1, '?' :: rest => .one :: parseFrom fuel rest
  | fuel + 1, '[' :: rest =>
    match setBody? rest with
    | some (body, rest) => .set (.ofBody body) :: parseFrom fuel rest
    | none => .char '[' :: parseFrom fuel rest
  | fuel + 1, c :: rest => .char c :: parseFrom fuel rest

/-- The parts of a written pattern. -/
def parse (s : String) : List Wild :=
  parseFrom s.length s.toList

/-- Whether some end of a text passes a test. -/
def someEnd (test : List Char → Bool) : List Char → Bool
  | [] => test []
  | c :: rest => test (c :: rest) || someEnd test rest

/-- Whether a text has the form of a pattern. -/
def matchAll : List Wild → List Char → Bool
  | [], cs => cs.isEmpty
  | .any :: ps, cs => someEnd (matchAll ps) cs
  | _ :: _, [] => false
  | .one :: ps, _ :: cs => matchAll ps cs
  | .set s :: ps, c :: cs => s.contains c && matchAll ps cs
  | .char p :: ps, c :: cs => p == c && matchAll ps cs

/-- Whether a name has the form of a written pattern. -/
def accepts (pattern name : String) : Bool :=
  matchAll (parse pattern) name.toList

end Wild

end SolutionSurvey
