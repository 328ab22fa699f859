import SolutionSurvey.Journal.Journal

/-!
# Sessions

A session is the work of one command: it prints, it notes events, and it may end early. What was printed
and noted before stays.

## Main definitions

* `Desk` — what a command works with: the outlets, the journal, the time, and whether the grammar was
  loaded.
* `Halt` — why a command ends early.
* `Session` — computations of a command, with `Session.print`, `Session.note`, `Session.noted`.
* `Session.fail` — ends a command with a note and a sentence for the user.
-/

namespace SolutionSurvey

/-- What a command works with. -/
structure Desk where
  outlets : Outlets
  journal : Journal := {}
  /-- The time that notes carry. -/
  stamp : String
  grammarLoaded : Bool := false
  deriving Inhabited

namespace Desk

/-- Writes the notes of some events. -/
def note (d : Desk) (events : List Event) : Desk :=
  let fresh := Event.recorded d.grammarLoaded events
  { d with
    outlets := fresh.foldl (fun o e => d.journal.record d.stamp e o) d.outlets
    grammarLoaded := d.grammarLoaded || events.any Event.isGrammarLoaded }

end Desk

/-- Why a command ends early: with a sentence for its user, or by a failure that nobody expected. -/
inductive Halt where
  | refused (sentence : String)
  | crashed (f : Failure)
  deriving Repr, Inhabited

/-- Computations of a command. -/
abbrev Session := ExceptT Halt (StateM Desk)

namespace Session

/-- The file tree as it is now. -/
def site : Session Site := do
  pure (← get).outlets.site

/-- Prints a line. -/
def print (line : String) : Session Unit :=
  modify fun d => { d with outlets := d.outlets.print (line ++ "\n") }

/-- Notes events. -/
def note (events : List Event) : Session Unit :=
  modify fun d => d.note events

/-- A sentence with the file that tells more, if notes go to one. -/
def withPointer (pointer : Option WordedPath) (sentence : String) : String :=
  match pointer with
  | none => sentence
  | some p =>
    String.ofList (sentence.toList.reverse.dropWhile (· == '.')).reverse ++ ". See " ++
      p.toWording.shown ++ " for details."

/-- Ends a command with a note about a failure, and a sentence for the user. -/
def fail {α : Type} (f : Failure) : Session α := do
  note [.commandFailed f]
  throw (.refused (withPointer (← get).journal.pointer f.message))

/-- Goes on from a good outcome. A failure that is expected ends the command with a sentence for the
user. -/
def orFail {α : Type} (expected : Failure → Bool) : Except Failure α → Session α
  | .ok a => pure a
  | .error f => if expected f then fail f else throw (.crashed f)

/-- The same for work that notes events. -/
def noted {α : Type} (expected : Failure → Bool) (work : Noted α) : Session α := do
  note work.events
  orFail expected work.outcome

/-- Sets up the journal. -/
def configure (settings : LoggingSettings) : Session Unit := do
  let d ← get
  let (r, journal, outlets) := Journal.configure settings d.outlets d.journal
  set { d with journal, outlets }
  orFail (fun _ => false) r

end Session

namespace Failure

/-- Whether a failure is a report of the library. -/
def isReport : Failure → Bool
  | .report _ => true
  | _ => false

/-- Whether a failure is a report of the library or a fault of the file tree. -/
def isReportOrFile : Failure → Bool
  | .report _ => true
  | .file _ => true
  | _ => false

/-- Whether a failure is the report of a circle of references. -/
def isCycle : Failure → Bool
  | .report (.dependencyCycle _) => true
  | _ => false

end Failure

end SolutionSurvey
