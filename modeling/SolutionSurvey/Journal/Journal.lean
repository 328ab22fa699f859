import SolutionSurvey.Config.Settings
import SolutionSurvey.Journal.Note

/-!
# The journal

The journal decides which notes are written and where. Before it is set up it writes every note to the
standard output. Afterwards a note is written by each output whose level it reaches; without any output
the notes of some weight go to the error output.

## Main definitions

* `Outlets` — where things are written: a file tree and the two streams.
* `Journal` — the journal; `Journal.configure` sets it up.
* `Journal.write`, `Journal.record` — write a note and the note of an event.
* `Journal.writePlain` — writes a message that comes from elsewhere.
-/

namespace SolutionSurvey

/-! ## Where things are written -/

/-- A file tree with the texts written so far to the two streams. -/
structure Outlets where
  site : Site
  out : String := ""
  err : String := ""
  deriving Inhabited

namespace Outlets

/-- Writes a text to the standard output. -/
def print (o : Outlets) (s : String) : Outlets :=
  { o with out := o.out ++ s }

/-- Writes a text to the error output. -/
def complain (o : Outlets) (s : String) : Outlets :=
  { o with err := o.err ++ s }

/-- The file of an output, as a path from the root without double points. -/
def place (o : Outlets) (p : WordedPath) : WordedPath :=
  p.normalize o.site.here

/-- Adds a text at the end of a file, which is made if need be. A file that cannot be written stays as
it is. -/
def append (o : Outlets) (p : WordedPath) (s : String) : Outlets :=
  match o.site.tree.append (o.place p).inTree.segments s.toUTF8.toList with
  | .ok tree => { o with site.tree := tree }
  | .error _ => o

/-- Writes a line to a destination. -/
def line (o : Outlets) (d : Destination) (s : String) : Outlets :=
  match d with
  | .stdout => o.print (s ++ "\n")
  | .stderr => o.complain (s ++ "\n")
  | .file p => o.append p (s ++ "\n")

/-- Why a file cannot be opened, and the outlets with the directories that were made before. -/
structure Unopened where
  failure : Failure
  left : Outlets
  deriving Inhabited

/-- Makes the directories above a file. -/
def openAbove (o : Outlets) (p : WordedPath) : Except Unopened Outlets :=
  let above := p.parent
  match above.nameFault? with
  | some f => .error ⟨f, o⟩
  | none =>
    match o.site.tree.makeDirs above.segments above.segments.length with
    | .ok tree => .ok { o with site.tree := tree }
    | .error e =>
      .error ⟨.file ⟨e.fault, { above with segments := e.segments }.toWording⟩, { o with site.tree := e.tree }⟩

/-- Makes a file in a directory that is there, unless the file is there as well. -/
def openName (o : Outlets) (p : WordedPath) : Except Unopened Outlets :=
  let whole := o.place p
  match whole.nameFault? with
  | some f => .error ⟨f, o⟩
  | none =>
    match o.site.tree.append whole.inTree.segments [] with
    | .ok tree => .ok { o with site.tree := tree }
    | .error fault => .error ⟨.file ⟨fault, whole.toWording⟩, o⟩

/-- Opens a file for adding to it: the directories above it are made, and the file itself. -/
def openFile (o : Outlets) (p : WordedPath) : Except Unopened Outlets := do
  (← o.openAbove p).openName p

end Outlets

/-! ## The journal -/

/-- An output in use: how and where it writes, and the least level that it writes. -/
structure Handler where
  format : LogFormat
  destination : Destination
  level : Level
  deriving Repr, DecidableEq, Inhabited

/-- The journal: its level once it is set up, the outputs in use, and the file to which readers of errors
are sent. -/
structure Journal where
  level : Option Level := none
  handlers : List Handler := []
  pointer : Option WordedPath := none
  deriving Repr, DecidableEq, Inhabited

namespace Journal

/-! ### Setting up -/

/-- The output of some settings; without a level of its own it has that of the journal. -/
def handlerOf (level : Level) (o : LogOutput) : Handler :=
  ⟨o.format, o.destination, o.level.getD level⟩

/-- The journal with one more output. The first file among the outputs is the one that readers are sent
to, even if it cannot be opened. -/
def attach (level : Level) (j : Journal) (o : Outlets) (out : LogOutput) :
    Except Failure Unit × Journal × Outlets :=
  let j := { j with pointer := j.pointer <|> out.destination.file? }
  let done := { j with handlers := j.handlers ++ [handlerOf level out] }
  match out.destination.file? with
  | none => (.ok (), done, o)
  | some p =>
    match o.openFile p with
    | .ok o => (.ok (), done, o)
    | .error e => (.error e.failure, j, e.left)

/-- The journal with more outputs, up to the first one that cannot be opened. -/
def attachAll (level : Level) (j : Journal) (o : Outlets) :
    List LogOutput → Except Failure Unit × Journal × Outlets
  | [] => (.ok (), j, o)
  | out :: rest =>
    match attach level j o out with
    | (.ok (), j, o) => attachAll level j o rest
    | failed => failed

/-- The journal with a level, without the outputs of an earlier set-up, and with no file to send readers
to. -/
def cleared (level : Level) (j : Journal) : Journal :=
  { j with level := some level, handlers := [], pointer := none }

/-- Sets up a journal, which may have been set up before. -/
def configure (settings : LoggingSettings) (o : Outlets) (j : Journal := {}) :
    Except Failure Unit × Journal × Outlets :=
  attachAll settings.level (j.cleared settings.level) o settings.outputs

/-! ### Writing -/

/-- The level from which on notes are written when there is no output. -/
def lastResort : Level := .warning

/-- The level of the journal. -/
def threshold (j : Journal) : Level :=
  j.level.getD .warning

/-- The names of the fields that a note carries for itself on its way to an output. -/
def carried : List String := ["_record", "_from_structlog"]

/-- The written form of a note for an output. The error output shows halves as escapes, and other outputs take
none. -/
def written (h : Handler) (stamp : String) (n : Note) : Except Failure String :=
  match h.format with
  | .json => .ok ((n.without carried).toJson stamp)
  | .console => do
    let line ← ((n.without carried).toLines .compact stamp).mapError .type
    if h.destination = .stderr then pure line.shown else line.written.mapError .unencodable

/-- The report about a note that has no written form. It also tells the places in the program where that was
found, which are left out. -/
def unwrittenReport (f : Failure) : String :=
  "--- Logging error ---\n" ++ f.kind ++ ": " ++ f.message

/-- Writes a note to one output. For a note without a written form a report goes to the error output. -/
def emit (stamp : String) (n : Note) (o : Outlets) (h : Handler) : Outlets :=
  match written h stamp n with
  | .ok s => o.line h.destination s
  | .error f => o.line .stderr (unwrittenReport f)

/-- The outputs that write a note. -/
def receivers (j : Journal) (n : Note) : List Handler :=
  if j.threshold.number ≤ n.rank then j.handlers.filter fun h => decide (h.level.number ≤ n.rank) else []

/-- Writes a note to all outputs that take it; `bare` is the form without any output. -/
def deliver (j : Journal) (stamp bare : String) (n : Note) (o : Outlets) : Outlets :=
  if j.handlers.isEmpty then
    if j.threshold.number ≤ n.rank ∧ lastResort.number ≤ n.rank then o.complain (bare ++ "\n") else o
  else (j.receivers n).foldl (emit stamp n) o

/-- The written form of a note before the journal is set up. -/
def wideForm (stamp : String) (n : Note) : Except Failure String := do
  let line ← ((n.without ["stack_info"]).toLines .wide stamp).mapError .type
  line.written.mapError .unencodable

/-- Writes a note. Before the journal is set up, a note without a written form is a fault of the one who
takes it. -/
def write (j : Journal) (stamp : String) (n : Note) (o : Outlets) : Except Failure Outlets :=
  if j.level.isNone then (wideForm stamp n).map fun s => o.print (s ++ "\n")
  else .ok (j.deliver stamp (n.toLiteral stamp) n o)

/-- Writes the note of an event. -/
def record (j : Journal) (stamp : String) (e : Event) (o : Outlets) : Outlets :=
  (j.write stamp (.ofEvent e) o).toOption.getD o

/-- Writes a message of a rank that comes from elsewhere. Rank zero is never written. -/
def writePlain (j : Journal) (stamp : String) (rank : Nat) (message : String) (o : Outlets) : Outlets :=
  if rank = 0 then o else j.deliver stamp message (.plain rank message) o

/-- An output writes a note exactly when the note reaches the level of the journal and its own. -/
theorem mem_receivers_iff {j : Journal} {n : Note} {h : Handler} :
    h ∈ j.receivers n ↔
      h ∈ j.handlers ∧ j.threshold.number ≤ n.rank ∧ h.level.number ≤ n.rank := by
  unfold receivers
  split
  · simp_all
  · simp only [List.not_mem_nil, false_iff, not_and]
    intro _ reached
    omega

end Journal

/-- The settings of a journal with a single output to the error stream. -/
def LoggingSettings.simple (s : Site) (json : Bool) (level : String) : Checked LoggingSettings :=
  LoggingSettings.check s (.ofFields [("level", .text level),
    ("outputs", .list [.ofFields [("format", .text (if json then "json" else "console"))]])])

end SolutionSurvey
