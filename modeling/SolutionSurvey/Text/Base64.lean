/-!
# Bytes as letters

Bytes written six bits a letter. Characters that are no letters are passed over, and a whole group of
letters and signs for what is left ends the text.

## Main definitions

* `Text.Base64.decode` — the bytes that a text writes.
-/

namespace SolutionSurvey.Text.Base64

/-- Why a text writes no bytes. -/
inductive Fault where
  /-- One letter too many, with the number of letters. -/
  | single (letters : Nat)
  | padding
  deriving Repr, DecidableEq, Inhabited

/-- The sentence for a fault. -/
def Fault.message : Fault → String
  | .single n => "Invalid base64-encoded string: number of data characters (" ++ toString n ++
      ") cannot be 1 more than a multiple of 4"
  | .padding => "Incorrect padding"

/-- The value of a letter. -/
def letter? (c : Char) : Option Nat :=
  if 'A' ≤ c ∧ c ≤ 'Z' then some (c.toNat - 'A'.toNat)
  else if 'a' ≤ c ∧ c ≤ 'z' then some (c.toNat - 'a'.toNat + 26)
  else if c.isDigit then some (c.toNat - '0'.toNat + 52)
  else if c = '+' then some 62
  else if c = '/' then some 63
  else none

/-- The bytes of a group of letters; a short group leaves out the last ones. -/
def groupBytes : List Nat → List UInt8
  | [a, b] => [.ofNat (a * 4 + b / 16)]
  | [a, b, c] => [.ofNat (a * 4 + b / 16), .ofNat (b % 16 * 16 + c / 4)]
  | [a, b, c, d] => [.ofNat (a * 4 + b / 16), .ofNat (b % 16 * 16 + c / 4), .ofNat (c % 4 * 64 + d)]
  | _ => []

/-- Decodes after `groups` whole groups, with the letters of the open one and the signs after them. -/
def decodeFrom (groups : Nat) (open_ : List Nat) (signs : Nat) : List Char → Except Fault (List UInt8)
  | [] =>
    if open_.isEmpty then .ok []
    else if open_.length = 1 then .error (.single (groups * 4 + 1))
    else .error .padding
  | c :: rest =>
    if c = '=' then
      if open_.length < 2 then decodeFrom groups open_ signs rest
      else if 4 ≤ open_.length + (signs + 1) then .ok (groupBytes open_)
      else decodeFrom groups open_ (signs + 1) rest
    else
      match letter? c with
      | none => decodeFrom groups open_ signs rest
      | some v =>
        if open_.length = 3 then
          (decodeFrom (groups + 1) [] 0 rest).map (groupBytes (open_ ++ [v]) ++ ·)
        else decodeFrom groups (open_ ++ [v]) 0 rest

/-- The bytes that a text writes. -/
def decode (cs : List Char) : Except Fault (List UInt8) :=
  decodeFrom 0 [] 0 cs

end SolutionSurvey.Text.Base64
