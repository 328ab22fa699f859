import SolutionSurvey.Text.Digit
import SolutionSurvey.Failure
import SolutionSurvey.Value.Basic

/-!
# Reading JSON

A reader of JSON texts. A repeated key keeps its first place and its last value; the names of the
infinities and of what is no number are accepted as numbers; half of a surrogate pair may stand by itself.

## Main definitions

* `Json.readValue` — one value at the start of a text, and the rest.
* `Json.read?` — the value of a whole text.
-/

namespace SolutionSurvey.Json

/-- The blanks between the tokens. -/
def isSpace (s : Sign) : Bool :=
  s == .char ' ' || s == .char '\t' || s == .char '\n' || s == .char '\r'

/-- The rest of a text after its leading blanks. -/
def skipSpace (signs : List Sign) : List Sign :=
  signs.dropWhile isSpace

/-- The digit of base sixteen that a sign is. -/
def hexDigit? (s : Sign) : Option Nat :=
  s.char?.bind Text.hexDigit?

/-- The UTF-16 unit written by the four digits at the start of a text, and the rest. -/
def readUnit? : List Sign → Option (Nat × List Sign)
  | a :: b :: c :: d :: rest => do
    let a ← hexDigit? a
    let b ← hexDigit? b
    let c ← hexDigit? c
    let d ← hexDigit? d
    pure (((a * 16 + b) * 16 + c) * 16 + d, rest)
  | _ => none

/-- The characters that a letter after a backslash stands for by itself. -/
def escapes : List (Char × Char) :=
  [('"', '"'), ('\\', '\\'), ('/', '/'), ('b', '\x08'), ('f', '\x0c'), ('n', '\n'), ('r', '\r'), ('t', '\t')]

/-- Reads a text up to its closing quote; `done` holds the signs read so far, last first. -/
def readText (fuel : Nat) (done : List Sign) (signs : List Sign) : Option (Wording × List Sign) :=
  match fuel, signs with
  | 0, _ => none
  | _, [] => none
  | _ + 1, .char '"' :: rest => some (.ofSigns done.reverse, rest)
  | _ + 1, [.char '\\'] => none
  | fuel + 1, .char '\\' :: .char 'u' :: rest =>
    match readUnit? rest with
    | none => none
    | some (n, rest) =>
      if 0xD800 ≤ n ∧ n < 0xDC00 then
        match rest with
        | .char '\\' :: .char 'u' :: more =>
          match readUnit? more with
          | some (m, after) =>
            if 0xDC00 ≤ m ∧ m < 0xE000 then
              readText fuel (.char (Char.ofNat (0x10000 + (n - 0xD800) * 0x400 + (m - 0xDC00))) :: done) after
            else readText fuel (.ofCode n :: done) rest
          | none => none
        | _ => readText fuel (.ofCode n :: done) rest
      else readText fuel (.ofCode n :: done) rest
  | fuel + 1, .char '\\' :: e :: rest =>
    match e.char?.bind fun c => escapes.lookup c with
    | some c => readText fuel (.char c :: done) rest
    | none => none
  | fuel + 1, s :: rest => if s.code < 0x20 then none else readText fuel (s :: done) rest

/-- The parts of a number, and what comes after it. -/
structure Numeral where
  negative : Bool
  whole : List Char
  fraction : List Char
  exponent : List Char
  rest : List Char

/-- The parts of the number at the start of a text. -/
def numeral? (cs : List Char) : Option Numeral :=
  let (negative, body) := match cs with
    | '-' :: rest => (true, rest)
    | _ => (false, cs)
  let whole := match body with
    | '0' :: _ => ['0']
    | _ => body.takeWhile Char.isDigit
  if whole.isEmpty then none
  else
    let rest := body.drop whole.length
    let (fraction, rest) := match rest with
      | '.' :: more =>
        let ds := more.takeWhile Char.isDigit
        if ds.isEmpty then ([], rest) else ('.' :: ds, more.drop ds.length)
      | _ => ([], rest)
    let (exponent, rest) := match rest with
      | e :: more =>
        if e = 'e' ∨ e = 'E' then
          let (sign, more) := match more with
            | '-' :: m => (['-'], m)
            | '+' :: m => (['+'], m)
            | m => ([], m)
          let ds := more.takeWhile Char.isDigit
          if ds.isEmpty then ([], rest) else (e :: sign ++ ds, more.drop ds.length)
        else ([], rest)
      | [] => ([], rest)
    some ⟨negative, whole, fraction, exponent, rest⟩

/-- The value of a number: a whole one, unless it has a fraction or an exponent. A whole one of too many
digits is refused. -/
def Numeral.value? (n : Numeral) : Option Value :=
  if n.fraction.isEmpty && n.exponent.isEmpty then
    if digitLimit < n.whole.length then none
    else
      let size := (Double.digitsValue n.whole : Int)
      some (.int (if n.negative then -size else size))
  else (Double.readUnsigned? n.negative (n.whole ++ n.fraction ++ n.exponent)).map .float

/-- Reads a number. -/
def readNumber? (cs : List Char) : Option (Value × List Char) := do
  let n ← numeral? cs
  pure (← n.value?, n.rest)

/-- Reads a word or a number. -/
def readScalar? (cs : List Char) : Option (Value × List Char) :=
  let word (w : String) (v : Value) : Option (Value × List Char) :=
    if w.toList.isPrefixOf cs then some (v, cs.drop w.length) else none
  word "null" .null <|> word "true" (.bool true) <|> word "false" (.bool false) <|>
    word "NaN" (.float .nan) <|> word "Infinity" (.float (.infinite false)) <|>
    word "-Infinity" (.float (.infinite true)) <|> readNumber? cs

/-- Reads a word or a number from the characters before the first half. -/
def readPlain? (signs : List Sign) : Option (Value × List Sign) :=
  let cs := (signs.takeWhile fun s => s.char?.isSome).filterMap Sign.char?
  (readScalar? cs).map fun r => (r.1, signs.drop (cs.length - r.2.length))

mutual

/-- Reads one value; `fuel` bounds the number of tokens. -/
def readValue (fuel : Nat) (signs : List Sign) : Option (Value × List Sign) :=
  match fuel with
  | 0 => none
  | fuel + 1 =>
    match skipSpace signs with
    | .char '"' :: rest => (readText (rest.length + 1) [] rest).map fun r => (.ofWording r.1, r.2)
    | .char '[' :: rest =>
      match skipSpace rest with
      | .char ']' :: after => some (.list [], after)
      | _ => readItems fuel [] rest
    | .char '{' :: rest =>
      match skipSpace rest with
      | .char '}' :: after => some (.map [], after)
      | _ => readEntries fuel [] rest
    | other => readPlain? other

/-- Reads the items of a list up to its closing bracket. -/
def readItems (fuel : Nat) (done : List Value) (signs : List Sign) : Option (Value × List Sign) :=
  match fuel with
  | 0 => none
  | fuel + 1 =>
    match readValue fuel signs with
    | none => none
    | some (v, rest) =>
      match skipSpace rest with
      | .char ',' :: more => readItems fuel (v :: done) more
      | .char ']' :: after => some (.list (v :: done).reverse, after)
      | _ => none

/-- Reads the entries of a mapping up to its closing brace. -/
def readEntries (fuel : Nat) (done : Entries) (signs : List Sign) : Option (Value × List Sign) :=
  match fuel with
  | 0 => none
  | fuel + 1 =>
    match skipSpace signs with
    | .char '"' :: rest =>
      match readText (rest.length + 1) [] rest with
      | none => none
      | some (key, rest) =>
        match skipSpace rest with
        | .char ':' :: more =>
          match readValue fuel more with
          | none => none
          | some (v, rest) =>
            let done := (.ofWording key, v) :: done
            match skipSpace rest with
            | .char ',' :: more => readEntries fuel done more
            | .char '}' :: after => some (.map (Value.ofWrites done.reverse), after)
            | _ => none
        | _ => none
    | _ => none

end

/-- The value of a whole text, or nothing if it is not JSON. -/
def read? (w : Wording) : Option Value :=
  let signs := w.signs
  match readValue (2 * signs.length + 2) signs with
  | some (v, rest) => if (skipSpace rest).isEmpty then some v else none
  | none => none

end SolutionSurvey.Json
