/-!
# Numeric runs

A span of a text is two to four groups of one to nine digits, joined by points, with no digit next to
it. At each place the readings are tried one after another, those with more digits and more groups
first, until no digit follows one of them.

## Main definitions

* `Span` — where a span starts and the groups it has.
* `Span.readings` — the readings of two to four groups, in the order in which they are tried.
* `Span.groupsAt?` — the groups of the span at the start of a text.
* `Span.all` — the spans of a text, at most one from each place.
* `Span.best?` — the one that ends furthest right, and of those the one that starts furthest left.
-/

namespace SolutionSurvey

/-- A span of a text: where it starts and the groups it has. -/
structure Span where
  start : Nat
  groups : List (List Char)
  deriving Repr, DecidableEq

namespace Span

/-- Where a span ends: after its groups and the points between them. -/
def stop (s : Span) : Nat :=
  s.start + s.groups.flatten.length + (s.groups.length - 1)

/-! ## Readings

A reader gives the ways to read the start of a text, in the order in which they are tried. -/

/-- Groups of digits with the text that follows them. -/
abbrev Reading := List (List Char) × List Char

/-- Whether a digit follows at once. -/
def digitFollows (rest : List Char) : Bool :=
  rest.head?.any Char.isDigit

/-- Two readers one after the other: each reading of the second is tried before the next of the first. -/
def andThen (first second : List Char → List Reading) (cs : List Char) : List Reading :=
  (first cs).flatMap fun r => (second r.2).map fun q => (r.1 ++ q.1, q.2)

/-- Reads one to nine digits, more of them first. -/
def oneGroup (cs : List Char) : List Reading :=
  let most := min 9 (cs.takeWhile Char.isDigit).length
  (List.range most).reverse.map fun n => ([cs.take (n + 1)], cs.drop (n + 1))

/-- Reads a point and a group. -/
def nextGroup : List Char → List Reading
  | '.' :: rest => oneGroup rest
  | _ => []

/-- Reads at most `limit` further groups, more of them first. -/
def further : Nat → List Char → List Reading
  | 0, cs => [([], cs)]
  | limit + 1, cs => andThen nextGroup (further limit) cs ++ [([], cs)]

/-- Reads two to four groups. -/
def readings (cs : List Char) : List Reading :=
  andThen oneGroup (andThen nextGroup (further 2)) cs

/-- The groups of the span at the start of a text, if one starts there. -/
def groupsAt? (cs : List Char) : Option (List (List Char)) :=
  ((readings cs).find? fun r => !digitFollows r.2).map Prod.fst

/-! ## All spans of a text -/

/-- The spans of the rest of a text from position `pos` on, given the character before it. -/
def allFrom (pos : Nat) (before : Option Char) : List Char → List Span
  | [] => []
  | c :: rest =>
    let here := if before.any Char.isDigit then none else groupsAt? (c :: rest)
    let others := allFrom (pos + 1) (some c) rest
    match here with
    | some gs => ⟨pos, gs⟩ :: others
    | none => others

/-- The spans of a text, by their starts. -/
def all (cs : List Char) : List Span :=
  allFrom 0 none cs

/-- Of two spans the one that ends further right, and the one that starts further left if they end
together. -/
def better (a b : Span) : Span :=
  if a.stop < b.stop ∨ a.stop = b.stop ∧ b.start < a.start then b else a

/-- The span that ends furthest right, and of those the one that starts furthest left. -/
def best? (cs : List Char) : Option Span :=
  match all cs with
  | [] => none
  | s :: rest => some (rest.foldl better s)

end Span

end SolutionSurvey
