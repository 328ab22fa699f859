import SolutionSurvey.Yaml.Token

/-!
# Tags of YAML

A tag says what a node stands for. The types of the format itself have tags under a common address; any
other tag is kept as its text. A plain scalar without a tag has the type that its text looks like.

## Main definitions

* `Yaml.Tag` — the tags, with `Yaml.Tag.ofText` and `Yaml.Tag.toText`.
* `Yaml.Tag.ofPlain` — the tag of a plain scalar.
-/

namespace SolutionSurvey.Yaml

/-- The types of the format. -/
inductive Tag where
  | null
  | bool
  | int
  | float
  | binary
  | timestamp
  | omap
  | pairs
  | set
  | str
  | seq
  | map
  | merge
  | value
  /-- Any other tag. -/
  | other (text : String)
  deriving Repr, DecidableEq, Inhabited

namespace Tag

/-- The address that the tags of the format have in common. -/
def home : String := "tag:yaml.org,2002:"

/-- The last part of the address of each tag of the format. -/
def names : List (String × Tag) :=
  [("null", .null), ("bool", .bool), ("int", .int), ("float", .float), ("binary", .binary),
    ("timestamp", .timestamp), ("omap", .omap), ("pairs", .pairs), ("set", .set), ("str", .str),
    ("seq", .seq), ("map", .map), ("merge", .merge), ("value", .value)]

/-- The address of each tag of the format. -/
def addresses : List (String × Tag) :=
  names.map fun n => (home ++ n.1, n.2)

/-- The tag of an address. -/
def ofText (s : String) : Tag :=
  (addresses.lookup s).getD (.other s)

/-- The address of a tag. -/
def toText : Tag → String
  | .other s => s
  | t => ((addresses.find? fun a => a.2 == t).map Prod.fst).getD home

/-! ## Plain scalars -/

/-- What is left after the characters of one class. -/
def past (test : Char → Bool) (cs : List Char) : List Char :=
  cs.dropWhile test

/-- Whether a character is a digit or an underscore. -/
def isDigitOrGap (c : Char) : Bool :=
  c.isDigit || c == '_'

/-- Whether a text is a digit followed by digits and underscores, and what follows them. -/
def digits? : List Char → Option (List Char)
  | c :: rest => if c.isDigit then some (past isDigitOrGap rest) else none
  | [] => none

/-- What follows a sign, if there is one. -/
def pastSign : List Char → List Char
  | '-' :: rest => rest
  | '+' :: rest => rest
  | cs => cs

/-- Whether nothing or an exponent with its sign follows. -/
def endsInExponent : List Char → Bool
  | [] => true
  | e :: s :: rest => (e == 'e' || e == 'E') && (s == '+' || s == '-') && !rest.isEmpty &&
      rest.all Char.isDigit
  | _ => false

/-- What follows the parts of a number of base sixty after its first one, of which there is one at
least. -/
def sixties? : List Char → Option (List Char)
  | ':' :: a :: b :: rest =>
    if '0' ≤ a && a ≤ '5' && b.isDigit then some ((sixties? rest).getD rest)
    else if a.isDigit then some ((sixties? (b :: rest)).getD (b :: rest))
    else none
  | [':', a] => if a.isDigit then some [] else none
  | _ => none

/-- Whether a text looks like a decimal number. -/
def looksFloat (cs : List Char) : Bool :=
  let body := pastSign cs
  let positional := match digits? body with
    | some ('.' :: rest) => endsInExponent (past isDigitOrGap rest)
    | _ => false
  let fraction := match cs with
    | '.' :: rest => (digits? rest).any endsInExponent
    | _ => false
  let sexagesimal := match (digits? body).bind sixties? with
    | some ('.' :: rest) => rest.all isDigitOrGap
    | _ => false
  positional || fraction || sexagesimal || [".inf", ".Inf", ".INF"].contains (String.ofList body) ||
    [".nan", ".NaN", ".NAN"].contains (String.ofList cs)

/-- Whether a text looks like a whole number. -/
def looksInt (cs : List Char) : Bool :=
  match pastSign cs with
  | '0' :: 'b' :: rest => !rest.isEmpty && rest.all fun c => c == '0' || c == '1' || c == '_'
  | '0' :: 'x' :: rest =>
    !rest.isEmpty && rest.all fun c =>
      c.isDigit || ('a' ≤ c && c ≤ 'f') || ('A' ≤ c && c ≤ 'F') || c == '_'
  | '0' :: rest => rest.all fun c => ('0' ≤ c && c ≤ '7') || c == '_'
  | body =>
    match digits? body with
    | some [] => true
    | some rest => sixties? rest == some []
    | none => false

/-- The parts of a text that looks like a point in time. -/
structure TimeText where
  year : List Char
  month : List Char
  day : List Char
  /-- Hour, minute, second and fraction. -/
  clock : Option (List Char × List Char × List Char × List Char)
  /-- The sign, hours and minutes of the offset; an empty sign stands for universal time. -/
  zone : Option (Option Char × List Char × List Char)
  deriving Repr, DecidableEq, Inhabited

/-- From `least` to `most` digits at the start of a text, as many as there are, and the rest. -/
def someDigits? (least most : Nat) (cs : List Char) : Option (List Char × List Char) :=
  let ds := (cs.take most).takeWhile Char.isDigit
  if least ≤ ds.length then some (ds, cs.drop ds.length) else none

/-- What follows a character that must come. -/
def past? (c : Char) : List Char → Option (List Char)
  | x :: rest => if x == c then some rest else none
  | [] => none

/-- Whether a character is a blank or a tabulator. -/
def isSpacing (c : Char) : Bool :=
  c == ' ' || c == '\t'

/-- Reads the offset from universal time, which must be all that is left. -/
def zone? (cs : List Char) : Option (Option (Option Char × List Char × List Char)) :=
  match past isSpacing cs with
  | [] => if cs.isEmpty then some none else none
  | ['Z'] => some (some (none, [], []))
  | s :: rest =>
    if s == '+' || s == '-' then
      match someDigits? 1 2 rest with
      | some (hours, []) => some (some (some s, hours, []))
      | some (hours, ':' :: more) =>
        match someDigits? 2 2 more with
        | some (minutes, []) => some (some (some s, hours, minutes))
        | _ => none
      | _ => none
    else none

/-- Reads a time of day and the offset. -/
def clock? (cs : List Char) :
    Option ((List Char × List Char × List Char × List Char) ×
      Option (Option Char × List Char × List Char)) := do
  let (hour, cs) ← someDigits? 1 2 cs
  let (minute, cs) ← someDigits? 2 2 (← past? ':' cs)
  let (second, cs) ← someDigits? 2 2 (← past? ':' cs)
  let (fraction, cs) := match cs with
    | '.' :: more => (more.takeWhile Char.isDigit, past Char.isDigit more)
    | _ => ([], cs)
  let zone ← zone? cs
  pure ((hour, minute, second, fraction), zone)

/-- Reads a point in time. -/
def time? (cs : List Char) : Option TimeText := do
  let (year, cs) ← someDigits? 4 4 cs
  let (month, cs) ← someDigits? 1 2 (← past? '-' cs)
  let (day, cs) ← someDigits? 1 2 (← past? '-' cs)
  match cs with
  | [] => pure ⟨year, month, day, none, none⟩
  | c :: rest =>
    let rest := if c == 'T' || c == 't' then rest else past isSpacing rest
    if c == 'T' || c == 't' || isSpacing c then
      let (clock, zone) ← clock? rest
      pure ⟨year, month, day, some clock, zone⟩
    else none

/-- Whether a text looks like a point in time. A date by itself has two digits for month and day. -/
def looksTime (cs : List Char) : Bool :=
  match time? cs with
  | some t => t.clock.isSome || (t.month.length == 2 && t.day.length == 2)
  | none => false

/-- The words for truth values. -/
def truthWords : List (String × Bool) :=
  [("yes", true), ("no", false), ("true", true), ("false", false), ("on", true), ("off", false)]

/-- Whether a text is a word in lower case, in upper case, or with its first letter in upper case. -/
def isWord (word : String) (cs : List Char) : Bool :=
  let w := word.toList
  cs == w || cs == w.map Char.toUpper || cs == (w.take 1).map Char.toUpper ++ w.drop 1

/-- A text without the line feed at its end, if there is one. -/
def withoutFinalBreak (cs : List Char) : List Char :=
  if cs.getLast? == some '\n' then cs.dropLast else cs

/-- The signs that no plain scalar starts with, by themselves. -/
def reservedSigns : List String := ["!", "&", "*"]

/-- The tag of a scalar that is read as if it were plain. A line feed at the end of its text counts for
nothing, unless it is all of it. -/
def ofPlain (text : String) : Tag :=
  let cs := withoutFinalBreak text.toList
  let s := String.ofList cs
  if s == "" && text != "" then .str
  else if reservedSigns.contains s then .other (home ++ "yaml")
  else if truthWords.any fun w => isWord w.1 cs then .bool
  else if looksFloat cs then .float
  else if looksInt cs then .int
  else if s == "<<" then .merge
  else if s == "" || s == "~" || isWord "null" cs then .null
  else if looksTime cs then .timestamp
  else if s == "=" then .value
  else .str

/-- The same for a text that may have halves, which looks like nothing but a text. -/
def ofWording : Wording → Tag
  | .plain s => ofPlain s
  | .broken .. => .str

end Tag

end SolutionSurvey.Yaml
