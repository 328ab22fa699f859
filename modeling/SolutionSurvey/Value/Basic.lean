import SolutionSurvey.Number.Double
import SolutionSurvey.Text.Wording

/-!
# Values

The dynamic values that configuration files, environment variables, log fields and error details hold:
scalars, lists and mappings. A mapping keeps the order in which its keys first came; two keys are the
same when they are equal as values, so that a whole number, the equal decimal and the equal truth value
name one entry.

## Main definitions

* `Value` — the values.
* `Value.sameKey` — when two keys name one entry.
* `Value.get?`, `Value.put` — look-up and update in the entries of a mapping.
* `Value.field?` — look-up by a text key.
-/

namespace SolutionSurvey

/-- A point in time as written in a configuration file: date, time of day, and the offset in minutes
from universal time if one was given. -/
structure Moment where
  year : Nat
  month : Nat
  day : Nat
  hour : Nat
  minute : Nat
  second : Nat
  microsecond : Nat
  offset : Option Int
  deriving Repr, DecidableEq, Inhabited

namespace Moment

/-- The number of a day; years start in March for it, so that a day more comes at the end. -/
def dayNumber (m : Moment) : Nat :=
  let year := if m.month ≤ 2 then m.year - 1 else m.year
  365 * year + year / 4 + year / 400 - year / 100 + (153 * ((m.month + 9) % 12) + 2) / 5 + m.day

/-- What two moments have in common if they are the same: whether there is an offset, and the millionths of a
second, which are those of universal time if there is one. -/
def key (m : Moment) : Bool × Int :=
  let minutes : Int := (m.dayNumber * 24 + m.hour) * 60 + m.minute - m.offset.getD 0
  (m.offset.isSome, (minutes * 60 + m.second) * 1000000 + m.microsecond)

end Moment

/-- A dynamic value. -/
inductive Value where
  | null
  | bool (b : Bool)
  | int (n : Int)
  | float (x : Double)
  | text (s : String)
  /-- A text with halves, which starts with a run of characters. -/
  | broken (head : String) (half : Half) (rest : Wording)
  | bytes (bs : List UInt8)
  | date (year month day : Nat)
  | moment (m : Moment)
  | list (items : List Value)
  | pair (first second : Value)
  | set (items : List Value)
  | map (entries : List (Value × Value))
  /-- A list, pair or mapping that is inside itself, with a label. -/
  | cyclic (label : Nat) (body : Value)
  /-- The value around this place that has the label. -/
  | again (label : Nat)
  deriving Repr, Inhabited

/-- The entries of a mapping, in order. -/
abbrev Entries := List (Value × Value)

namespace Value

/-- The number that a value counts as when it is compared as a key. -/
inductive KeyNumber where
  | whole (n : Int)
  | double (x : Double)
  deriving DecidableEq

/-- The number a scalar stands for; truth values count as one and zero, and a decimal that equals a
whole number counts as that. -/
def keyNumber? : Value → Option KeyNumber
  | .bool b => some (.whole (if b then 1 else 0))
  | .int n => some (.whole n)
  | .float x => match x.toInt? with
    | some n => some (.whole n)
    | none => some (.double x)
  | _ => none

/-- Whether two values name the same entry of a mapping. -/
def sameKey : Value → Value → Bool
  | .null, .null => true
  | .text a, .text b => a == b
  | .broken a h v, .broken b k w => a == b && h == k && v == w
  | .bytes a, .bytes b => a == b
  | .date a b c, .date x y z => a == x && b == y && c == z
  | .moment a, .moment b => a.key == b.key
  | .pair a b, .pair c d => sameKey a c && sameKey b d
  | a, b => match a.keyNumber?, b.keyNumber? with
    | some m, some n => m == n
    | _, _ => false

/-- Two text keys are the same when the texts are equal. -/
@[simp] theorem sameKey_text (a b : String) : sameKey (.text a) (.text b) = (a == b) := by
  simp [sameKey]

/-- The value at a key. -/
def get? (key : Value) : Entries → Option Value
  | [] => none
  | (k, v) :: rest => if k.sameKey key then some v else get? key rest

/-- The entries with a new value at a key: a known key keeps its place, a new one comes last. -/
def put (key value : Value) : Entries → Entries
  | [] => [(key, value)]
  | (k, v) :: rest => if k.sameKey key then (k, value) :: rest else (k, v) :: put key value rest

/-- The entries without a key. -/
def erase (key : Value) (entries : Entries) : Entries :=
  entries.filter fun e => !e.1.sameKey key

/-- The entries that a sequence of writes leaves. -/
def ofWrites (writes : Entries) : Entries :=
  writes.foldl (fun es e => put e.1 e.2 es) []

/-- The value of a mapping at a text key. -/
def field? (name : String) : Value → Option Value
  | .map entries => get? (.text name) entries
  | _ => none

/-- A mapping with text keys. -/
def ofFields (fields : List (String × Value)) : Value :=
  .map (fields.map fun f => (.text f.1, f.2))

/-- The text a value holds, if it is one without halves. -/
def text? : Value → Option String
  | .text s => some s
  | _ => none

/-- The text a value holds, if it is one. -/
def wording? : Value → Option Wording
  | .text s => some (.plain s)
  | .broken head half rest => some (.broken head half rest)
  | _ => none

/-- A text as a value. -/
def ofWording : Wording → Value
  | .plain s => .text s
  | .broken head half rest => .broken head half rest

/-- The items of a list value. -/
def items? : Value → Option (List Value)
  | .list items => some items
  | _ => none

/-- The entries of a mapping value. -/
def entries? : Value → Option Entries
  | .map entries => some entries
  | _ => none

/-- Whether a value is the null value. -/
def isNull : Value → Bool
  | .null => true
  | _ => false

/-- Whether a value counts as true where a condition is asked for: not null, false, zero or empty. -/
def truthy : Value → Bool
  | .null => false
  | .bool b => b
  | .int n => n != 0
  | .float x => !x.equals (.ofInt 0)
  | .text s => s != ""
  | .bytes bs => !bs.isEmpty
  | .list items => !items.isEmpty
  | .set items => !items.isEmpty
  | .map entries => !entries.isEmpty
  | _ => true

/-- The name of a value's type in messages. -/
def typeName : Value → String
  | .null => "NoneType"
  | .bool _ => "bool"
  | .int _ => "int"
  | .float _ => "float"
  | .text _ | .broken .. => "str"
  | .bytes _ => "bytes"
  | .date .. => "datetime.date"
  | .moment _ => "datetime.datetime"
  | .list _ => "list"
  | .pair .. => "tuple"
  | .set _ => "set"
  | .map _ => "dict"
  | .cyclic _ v => v.typeName
  | .again _ => "object"

end Value

end SolutionSurvey
