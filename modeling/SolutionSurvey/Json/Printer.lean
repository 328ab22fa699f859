import SolutionSurvey.Text.Quoted
import SolutionSurvey.Value.Written

/-!
# Printing JSON

The JSON text of a value, in ASCII: other characters are written as escapes of their UTF-16 units. Keys
that are not texts are written as texts.

## Main definitions

* `Json.encodeText` — a text between double quotes.
* `Json.inline` — a value on one line, with a blank after each separator.
* `Json.indented` — a value with one item a line.
-/

namespace SolutionSurvey.Json

/-- The escape of one UTF-16 unit. -/
def unitEscape (n : Nat) : String :=
  "\\u" ++ Text.hex 4 n

/-- The written form of one character between double quotes. -/
def encodeChar (c : Char) : String :=
  if c = '"' then "\\\""
  else if c = '\\' then "\\\\"
  else if c = '\n' then "\\n"
  else if c = '\r' then "\\r"
  else if c = '\t' then "\\t"
  else if c = '\x08' then "\\b"
  else if c = '\x0c' then "\\f"
  else if 0x20 ≤ c.toNat ∧ c.toNat < 0x7F then String.singleton c
  else if c.toNat ≤ 0xFFFF then unitEscape c.toNat
  else
    let n := c.toNat - 0x10000
    unitEscape (0xD800 + n / 0x400) ++ unitEscape (0xDC00 + n % 0x400)

/-- The written form of a sign between double quotes. -/
def encodeSign : Sign → String
  | .char c => encodeChar c
  | .half h => unitEscape h.code

/-- A text between double quotes. -/
def encodeText (w : Wording) : String :=
  "\"" ++ String.join (w.signs.map encodeSign) ++ "\""

/-- The written form of a number of the binary64 format. -/
def encodeDouble : Double → String
  | .nan => "NaN"
  | .infinite false => "Infinity"
  | .infinite true => "-Infinity"
  | x => x.toText

/-- The text that stands for a key. -/
def keyText : Value → Wording
  | .text s => s
  | .broken head half rest => .broken head half rest
  | .null => "null"
  | .bool true => "true"
  | .bool false => "false"
  | .float x => encodeDouble x
  | v => v.toText

/-- The written form of a scalar. -/
def encodeScalar : Value → String
  | .null => "null"
  | .bool true => "true"
  | .bool false => "false"
  | .int n => toString n
  | .float x => encodeDouble x
  | .broken head half rest => encodeText (.broken head half rest)
  | v => encodeText v.toText

mutual

/-- A value on one line. -/
def inline : Value → String
  | .list items => "[" ++ ", ".intercalate (inlineItems items) ++ "]"
  | .set items => "[" ++ ", ".intercalate (inlineItems items) ++ "]"
  | .pair a b => "[" ++ inline a ++ ", " ++ inline b ++ "]"
  | .map entries => "\x7b" ++ ", ".intercalate (inlineEntries entries) ++ "\x7d"
  | v => encodeScalar v

/-- The items of a list, each on one line. -/
def inlineItems : List Value → List String
  | [] => []
  | v :: rest => inline v :: inlineItems rest

/-- The entries of a mapping, each on one line. -/
def inlineEntries : List (Value × Value) → List String
  | [] => []
  | (k, v) :: rest => (encodeText (keyText k) ++ ": " ++ inline v) :: inlineEntries rest

end

/-- The parts of a list or mapping between its brackets, each on a line of its own. -/
def block (opening closing : String) (margin : Nat) (parts : List String) : String :=
  if parts.isEmpty then opening ++ closing
  else
    let inner := "\n" ++ "".pushn ' ' (margin + 2)
    opening ++ inner ++ ("," ++ inner).intercalate parts ++ "\n" ++ "".pushn ' ' margin ++ closing

mutual

/-- A value with its items on lines of their own, two blanks deeper than `margin`. -/
def indented (margin : Nat) : Value → String
  | .list items => block "[" "]" margin (indentedItems (margin + 2) items)
  | .set items => block "[" "]" margin (indentedItems (margin + 2) items)
  | .pair a b => block "[" "]" margin [indented (margin + 2) a, indented (margin + 2) b]
  | .map entries => block "\x7b" "\x7d" margin (indentedEntries (margin + 2) entries)
  | v => encodeScalar v

/-- The items of a list at the given margin. -/
def indentedItems (margin : Nat) : List Value → List String
  | [] => []
  | v :: rest => indented margin v :: indentedItems margin rest

/-- The entries of a mapping at the given margin. -/
def indentedEntries (margin : Nat) : List (Value × Value) → List String
  | [] => []
  | (k, v) :: rest =>
    (encodeText (keyText k) ++ ": " ++ indented margin v) :: indentedEntries margin rest

end

end SolutionSurvey.Json
