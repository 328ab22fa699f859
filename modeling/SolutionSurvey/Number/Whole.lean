import SolutionSurvey.Failure
import SolutionSurvey.Number.Double
import SolutionSurvey.Text.Digit

/-!
# Reading whole numbers

Whole numbers written in a base up to sixteen: perhaps with a sign, with the mark of the base if it is
not ten, with single underscores between digits, and with blanks around them. The digits of every script
count.

## Main definitions

* `Whole.read` — the number that a text writes.
-/

namespace SolutionSurvey.Whole

/-- The value of a digit, whatever the base. -/
def digitValue (c : Char) : Nat :=
  if c.isDigit then c.toNat - '0'.toNat
  else if 'a' ≤ c ∧ c ≤ 'z' then c.toNat - 'a'.toNat + 10
  else if 'A' ≤ c ∧ c ≤ 'Z' then c.toNat - 'A'.toNat + 10
  else 36

/-- The value of digits. -/
def ofDigits (base : Nat) (cs : List Char) : Nat :=
  cs.foldl (fun n c => n * base + digitValue c) 0

/-- The letter of a base after a zero. -/
def baseLetter : Nat → Option Char
  | 2 => some 'b'
  | 8 => some 'o'
  | 16 => some 'x'
  | _ => none

/-- What follows the mark of a base, if it is there. -/
def pastMark (base : Nat) : List Char → List Char
  | '0' :: c :: rest => if baseLetter base == some c.toLower then rest else '0' :: c :: rest
  | cs => cs

/-- Whether a number is below zero, and its digits. -/
def parts (base : Nat) (cs : List Char) : Bool × List Char :=
  match Text.trimChars (Text.plainDigits cs) with
  | '-' :: rest => (true, pastMark base rest)
  | '+' :: rest => (false, pastMark base rest)
  | rest => (false, pastMark base rest)

/-- The number that a text writes in a base. In base ten there is a greatest number of digits. -/
def read (base : Nat) (cs : List Char) : Except Failure Int :=
  let (negative, written) := parts base cs
  let ds := (Double.dropSeparators written).getD []
  if ds.isEmpty || ds.any fun c => base ≤ digitValue c then
    .error (.value (.notWhole (String.ofList cs) base))
  else if base == 10 && digitLimit < ds.length then .error (.value (.tooManyDigits ds.length))
  else
    let n : Int := ofDigits base ds
    .ok (if negative then -n else n)

end SolutionSurvey.Whole
