import SolutionSurvey.Text.Quoted
import SolutionSurvey.Value.Basic

/-!
# Written values

The text of a value in messages: brackets and braces around lists and mappings, texts between quotes
inside them, and a text by itself as it is. Where a value comes again inside itself stand three points.

## Main definitions

* `digitLimit`, `Value.isUnwritable` — how long a number may be, and values with one that is too long.
* `Value.literal` — the form that stands inside another value, with texts quoted.
* `Value.toText`, `Value.asText` — the form that stands by itself.
-/

namespace SolutionSurvey

/-- The greatest number of digits in base ten of a whole number that is read or written. -/
def digitLimit : Nat := 4300

/-- A number with at least `width` decimal digits. -/
def paddedNat (width n : Nat) : String :=
  let ds := Nat.toDigits 10 n
  String.ofList (List.replicate (width - ds.length) '0' ++ ds)

namespace Moment

/-- An offset from universal time, as sign, hours and minutes. -/
def offsetText (minutes : Int) : String :=
  let n := minutes.natAbs
  (if minutes < 0 then "-" else "+") ++ paddedNat 2 (n / 60) ++ ":" ++ paddedNat 2 (n % 60)

/-- Date and time of day with the given separator, and the offset if there is one. -/
def toText (separator : String) (m : Moment) : String :=
  paddedNat 4 m.year ++ "-" ++ paddedNat 2 m.month ++ "-" ++ paddedNat 2 m.day ++ separator ++
    paddedNat 2 m.hour ++ ":" ++ paddedNat 2 m.minute ++ ":" ++ paddedNat 2 m.second ++
    (if m.microsecond = 0 then "" else "." ++ paddedNat 6 m.microsecond) ++
    (match m.offset with
      | none => ""
      | some o => offsetText o)

/-- The constructor form of a moment. -/
def literal (m : Moment) : String :=
  let parts := [m.year, m.month, m.day, m.hour, m.minute] ++
    (if m.second = 0 ∧ m.microsecond = 0 then [] else [m.second]) ++
    (if m.microsecond = 0 then [] else [m.microsecond])
  let zone := match m.offset with
    | none => ""
    | some o =>
      if o = 0 then ", tzinfo=datetime.timezone.utc"
      else
        let days := o.fdiv 1440
        let seconds := o.fmod 1440 * 60
        let delta := if days = 0 then "seconds=" ++ toString seconds
          else if seconds = 0 then "days=" ++ toString days
          else "days=" ++ toString days ++ ", seconds=" ++ toString seconds
        ", tzinfo=datetime.timezone(datetime.timedelta(" ++ delta ++ "))"
  "datetime.datetime(" ++ ", ".intercalate (parts.map toString) ++ zone ++ ")"

end Moment

namespace Text

/-- The written form of one byte between the given quotes. -/
def escapeByte (quote : Char) (b : UInt8) : String :=
  let c := Char.ofNat b.toNat
  if c = quote ∨ c = '\\' then String.ofList ['\\', c]
  else if c = '\n' then "\\n"
  else if c = '\r' then "\\r"
  else if c = '\t' then "\\t"
  else if 0x20 ≤ b.toNat ∧ b.toNat < 0x7F then String.singleton c
  else "\\x" ++ hex 2 b.toNat

/-- The written form of a byte string. -/
def quotedBytes (bs : List UInt8) : String :=
  let quote := if bs.contains 0x27 && !bs.contains 0x22 then '"' else '\''
  "b" ++ String.singleton quote ++ String.join (bs.map (escapeByte quote)) ++ String.singleton quote

end Text

namespace Value

/-- What stands for a value inside itself. -/
def elided : Value → String
  | .list _ => "[...]"
  | .pair .. => "(...)"
  | _ => "\x7b...\x7d"

mutual

/-- Whether a whole number in a value has too many digits to be written. -/
def isUnwritable : Value → Bool
  | .int n => 10 ^ digitLimit ≤ n.natAbs
  | .list items => holdsUnwritable items
  | .pair a b => isUnwritable a || isUnwritable b
  | .set items => holdsUnwritable items
  | .map entries => listsUnwritable entries
  | .cyclic _ body => isUnwritable body
  | _ => false

/-- Whether an item of a list cannot be written. -/
def holdsUnwritable : List Value → Bool
  | [] => false
  | v :: rest => isUnwritable v || holdsUnwritable rest

/-- Whether a key or a value of a mapping cannot be written. -/
def listsUnwritable : List (Value × Value) → Bool
  | [] => false
  | (k, v) :: rest => isUnwritable k || isUnwritable v || listsUnwritable rest

end

mutual

/-- The written form of a value that stands inside another one; `around` has the labels of the values
around it with what stands for them. -/
def literalWithin (around : List (Nat × String)) : Value → String
  | .null => "None"
  | .bool true => "True"
  | .bool false => "False"
  | .int n => toString n
  | .float x => x.toText
  | .text s => Text.quoted s
  | .broken head half rest => (Wording.broken head half rest).quoted
  | .bytes bs => Text.quotedBytes bs
  | .date y m d =>
    "datetime.date(" ++ toString y ++ ", " ++ toString m ++ ", " ++ toString d ++ ")"
  | .moment m => m.literal
  | .list items => "[" ++ ", ".intercalate (literalsWithin around items) ++ "]"
  | .pair a b => "(" ++ literalWithin around a ++ ", " ++ literalWithin around b ++ ")"
  | .set [] => "set()"
  | .set items => "\x7b" ++ ", ".intercalate (literalsWithin around items) ++ "\x7d"
  | .map entries => "\x7b" ++ ", ".intercalate (entriesWithin around entries) ++ "\x7d"
  | .cyclic label body =>
    match around.lookup label with
    | some points => points
    | none => literalWithin ((label, body.elided) :: around) body
  | .again label => (around.lookup label).getD "..."

/-- The written forms of the items of a list. -/
def literalsWithin (around : List (Nat × String)) : List Value → List String
  | [] => []
  | v :: rest => literalWithin around v :: literalsWithin around rest

/-- The written forms of the entries of a mapping. -/
def entriesWithin (around : List (Nat × String)) : List (Value × Value) → List String
  | [] => []
  | (k, v) :: rest =>
    (literalWithin around k ++ ": " ++ literalWithin around v) :: entriesWithin around rest

end

/-- The written form of a value that stands inside another one. -/
def literal (v : Value) : String :=
  literalWithin [] v

/-- The written form of a value that stands by itself. Halves in a text are shown as escapes. -/
def toText : Value → String
  | .text s => s
  | .broken head half rest => (Wording.broken head half rest).shown
  | .date y m d => paddedNat 4 y ++ "-" ++ paddedNat 2 m ++ "-" ++ paddedNat 2 d
  | .moment m => m.toText " "
  | v => v.literal

/-- A value that stands by itself as a text. -/
def asText : Value → Value
  | .broken head half rest => .broken head half rest
  | v => .text v.toText

end Value

end SolutionSurvey
