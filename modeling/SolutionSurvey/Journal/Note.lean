import SolutionSurvey.Journal.Event
import SolutionSurvey.Json.Printer

/-!
# Notes

A note is what the journal writes down about an event: who noted it, its details, its name and how much
it matters. It can be written as JSON, as lines for readers, or as the bare literal of its fields.

## Main definitions

* `Note` — a note; `Note.ofEvent` makes one.
* `Note.entries` — all fields of a note, in order.
* `Note.toJson`, `Note.toLiteral`, `Note.toLines` — the written forms.
* `LineLayout` — the widths of the columns of a line.
-/

namespace SolutionSurvey

/-- What the journal writes down. -/
structure Note where
  /-- Who noted it and the details, in order. -/
  context : List (String × Value)
  /-- What happened; null for a note that does not say it. -/
  event : Value
  /-- How much it matters, as a number. -/
  rank : Nat
  /-- The name of the rank. -/
  levelName : String
  deriving Repr, Inhabited

namespace Note

/-- A note of a level. A name of nothing stands for nobody. -/
def make (logger : Value) (level : Level) (event : Value) (fields : List (String × Value)) : Note :=
  let named := if logger.truthy then [("logger", logger)] else []
  ⟨named ++ fields, event, level.number, level.name⟩

/-- The note of an event. Only commands give their name. -/
def ofEvent (e : Event) : Note :=
  let logger : Value := match e with
    | .commandFailed _ => .text "cli"
    | _ => .null
  make logger e.level (.text e.name) e.fields

/-- The name of a rank in lower case. -/
def rankName (rank : Nat) : String :=
  match Level.ofNumber? rank with
  | some l => l.name
  | none => "level " ++ toString rank

/-- A note that consists of a message alone. -/
def plain (rank : Nat) (message : String) : Note :=
  ⟨[], .text message, rank, rankName rank⟩

/-- A note without the fields of the given names. -/
def without (names : List String) (n : Note) : Note :=
  { n with context := n.context.filter fun f => !names.contains f.1 }

/-- All fields of a note, with the time it was taken at. A later field of one name replaces an earlier
one in its place. -/
def entries (stamp : String) (n : Note) : Entries :=
  Value.ofWrites ((n.context.map fun f => (.text f.1, f.2)) ++
    (if n.event.isNull then [] else [(.text "event", n.event)]) ++
    [(.text "level", .text n.levelName), (.text "timestamp", .text stamp)])

/-- A note as JSON. -/
def toJson (stamp : String) (n : Note) : String :=
  Json.inline (.map (n.entries stamp))

/-- A note as the literal of its fields. -/
def toLiteral (stamp : String) (n : Note) : String :=
  (Value.map (n.entries stamp)).literal

end Note

/-! ## Lines -/

/-- The least widths of the columns of a line. -/
structure LineLayout where
  levelWidth : Nat
  eventWidth : Nat
  deriving Repr, DecidableEq, Inhabited

namespace LineLayout

/-- Columns that are as wide as their texts. -/
def compact : LineLayout := ⟨0, 0⟩

/-- Columns that stand below each other. -/
def wide : LineLayout := ⟨9, 30⟩

end LineLayout

namespace Note

/-- A text with blanks after it up to a width. -/
def padded (width : Nat) (w : Wording) : Wording :=
  w ++ .plain ("".pushn ' ' (width - w.signs.length))

/-- Whether a text must stand between quotes in a line. -/
def needsQuotes (w : Wording) : Bool :=
  w.signs.any fun s => s.char?.any fun c => [' ', '\t', '=', '\r', '\n', '"', '\''].contains c

/-- A value in a line. -/
def lineValue (v : Value) : Wording :=
  match v.wording? with
  | some w => if needsQuotes w then .plain w.quoted else w
  | none => .plain v.literal

/-- The names of the fields that have a column of their own. -/
def columns : List String := ["timestamp", "level", "event", "logger", "logger_name"]

/-- The text of a column, for the field that stands in it. -/
def columnText (layout : LineLayout) (name : String) (v : Value) : Wording :=
  let text := v.wording?.getD (.plain v.toText)
  match name with
  | "level" => .plain "[" ++ padded layout.levelWidth text ++ .plain "]"
  | "event" => padded layout.eventWidth text
  | "logger" => .plain "[" ++ text ++ .plain "]"
  | "logger_name" => .plain "[" ++ text ++ .plain "]"
  | _ => text

/-- The names of the fields that stand below the line. -/
def trailing : List String := ["stack", "exception", "exc_info"]

/-- The fields without a place of their own, sorted by name. -/
def others (fields : List (String × Value)) : List (String × Value) :=
  (fields.filter fun f => !(columns ++ trailing).contains f.1).mergeSort fun a b => decide (a.1 ≤ b.1)

/-- A text without the blanks at its end. -/
def withoutTail (w : Wording) : Wording :=
  .ofSigns (w.signs.reverse.dropWhile (· == .char ' ')).reverse

/-- A line that separates a call stack from an exception. -/
def separator : String := "\n\n" ++ "".pushn '=' 79 ++ "\n"

/-- A field that stands on lines of its own. Only a text can. -/
def ownLines (v : Value) : Except TypeFault Wording :=
  if v.isNull then .ok ""
  else
    match v.wording? with
    | some w => .ok (w.prepend "\n")
    | none => .error (.notJoined v.typeName)

/-- What stands below the line of a note: its call stack, then its exception. A note that is marked as one
of an exception has the separator even if it does not show the exception. -/
def trailer (n : Note) : Except TypeFault Wording := do
  let field (name : String) : Value := ((Value.ofFields n.context).field? name).getD .null
  let stack ← ownLines (field "stack")
  let exception ← ownLines (field "exception")
  let both := !(field "stack").isNull && (!(field "exception").isNull || (field "exc_info").truthy)
  pure (stack ++ exception.prepend (if both then separator else ""))

/-- A note as a line: the columns that it has, then its other fields by name. -/
def headLine (layout : LineLayout) (stamp : String) (n : Note) : Wording :=
  let fields := (n.entries stamp).filterMap fun e => e.1.text?.map fun k => (k, e.2)
  let first := columns.filterMap fun c => (fields.lookup c).map (columnText layout c)
  let rest := (others fields).map fun f => (lineValue f.2).prepend (f.1 ++ "=")
  withoutTail (.joined " " ((first ++ rest).filter (· != .plain "")))

/-- A note for readers: its line with what stands below it. -/
def toLines (layout : LineLayout) (stamp : String) (n : Note) : Except TypeFault Wording :=
  n.trailer.map fun below => n.headLine layout stamp ++ below

end Note

end SolutionSurvey
