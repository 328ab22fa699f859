import SolutionSurvey.Failure
import SolutionSurvey.Files.Path
import SolutionSurvey.Journal.Level

/-!
# Events

What the library notes while it works, and computations that keep their notes whatever their outcome.

## Main definitions

* `Event` — what can be noted, with `Event.name`, `Event.level` and `Event.fields`.
* `Noted` — an outcome with the events noted on the way to it.
-/

namespace SolutionSurvey

/-- What the library notes while it works. -/
inductive Event where
  /-- A solution lists a project whose manifest is not there. -/
  | projectMissing (solution project : FilePath)
  | solutionOpened (path : FilePath) (projects : Nat)
  | projectLoaded (path : FilePath) (documents references : Nat)
  /-- An item of a manifest is written with a property that is not evaluated. -/
  | itemSkipped (item : String)
  /-- A reference leads to no project of the solution. -/
  | referenceUnresolved (project : FilePath) (target : String)
  | packagesRead (project : String) (packages : Nat)
  | parsing (project : String) (file : FilePath)
  | grammarLoaded
  | dependencyCycle (projects : List String)
  | dependencyOrder (projects : Nat)
  /-- A command ended in a failure. -/
  | commandFailed (failure : Failure)
  deriving Repr, Inhabited

namespace Event

/-- The name of an event. -/
def name : Event → String
  | .projectMissing .. => "workspace.project_missing"
  | .solutionOpened .. => "workspace.solution_opened"
  | .projectLoaded .. => "workspace.project_loaded"
  | .itemSkipped _ => "workspace.item_skipped"
  | .referenceUnresolved .. => "workspace.reference_unresolved"
  | .packagesRead .. => "structure.packages_read"
  | .parsing .. => "structure.parsing"
  | .grammarLoaded => "workspace.grammar_loaded"
  | .dependencyCycle _ => "structure.dependency_cycle"
  | .dependencyOrder _ => "structure.dependency_order"
  | .commandFailed _ => "command_failed"

/-- How much an event matters. -/
def level : Event → Level
  | .projectMissing .. => .warning
  | .solutionOpened .. => .info
  | .dependencyCycle _ => .warning
  | .commandFailed _ => .error
  | _ => .debug

/-- The details of an event, in the order in which they are noted. -/
def fields : Event → List (String × Value)
  | .projectMissing solution project =>
    [("solution", .text solution.toText), ("project", .text project.toText)]
  | .solutionOpened path projects => [("path", .text path.toText), ("projects", .int projects)]
  | .projectLoaded path documents references =>
    [("path", .text path.toText), ("documents", .int documents), ("references", .int references)]
  | .itemSkipped item => [("item", .text item), ("reason", .text "msbuild property")]
  | .referenceUnresolved project target =>
    [("project", .text project.toText), ("include", .text target)]
  | .packagesRead project packages => [("project", .text project), ("packages", .int packages)]
  | .parsing project file => [("project", .text project), ("file", .text file.toText)]
  | .grammarLoaded => [("grammar", .text "c_sharp")]
  | .dependencyCycle projects => [("projects", .list (projects.map .text))]
  | .dependencyOrder projects => [("projects", .int projects)]
  | .commandFailed f => [("error_type", .text f.kind), ("error", .text f.message)]

/-- Whether this is the event of the grammar being loaded. -/
def isGrammarLoaded : Event → Bool
  | .grammarLoaded => true
  | _ => false

/-- The events of one more piece of work, when the grammar is loaded only once: where it was loaded
before, the event is left out. -/
def recorded (loaded : Bool) : List Event → List Event
  | [] => []
  | e :: rest =>
    if e.isGrammarLoaded && loaded then recorded loaded rest
    else e :: recorded (loaded || e.isGrammarLoaded) rest

end Event

/-! ## Outcomes with notes -/

/-- An outcome together with the events noted on the way to it. A failure keeps what was noted. -/
structure Noted (α : Type) where
  events : List Event
  outcome : Except Failure α
  deriving Inhabited

namespace Noted

/-- One noted event. -/
def note (e : Event) : Noted Unit := ⟨[e], .ok ()⟩

/-- An outcome without notes. -/
def ofExcept {α : Type} (r : Except Failure α) : Noted α := ⟨[], r⟩

/-- A failure without notes. -/
def fail {α : Type} (f : Failure) : Noted α := ⟨[], .error f⟩

/-- Goes on from a good outcome, and puts the notes one after another. -/
protected def bind {α β : Type} (x : Noted α) (f : α → Noted β) : Noted β :=
  match x.outcome with
  | .error e => ⟨x.events, .error e⟩
  | .ok a => ⟨x.events ++ (f a).events, (f a).outcome⟩

instance : Monad Noted where
  pure a := ⟨[], .ok a⟩
  bind := Noted.bind

@[simp] theorem pure_events {α : Type} (a : α) : (pure a : Noted α).events = [] := rfl

@[simp] theorem pure_outcome {α : Type} (a : α) : (pure a : Noted α).outcome = .ok a := rfl

/-- The outcome of two steps is the outcome of the second one, if the first one has a good outcome. -/
theorem bind_outcome {α β : Type} (x : Noted α) (f : α → Noted β) :
    (x >>= f).outcome = x.outcome.bind fun a => (f a).outcome := by
  simp only [bind, Noted.bind]
  cases x.outcome <;> rfl

/-- Two steps have a good outcome exactly if the first one has, and the second one after it. -/
theorem bind_outcome_eq_ok {α β : Type} {x : Noted α} {f : α → Noted β} {b : β} :
    (x >>= f).outcome = .ok b ↔ ∃ a, x.outcome = .ok a ∧ (f a).outcome = .ok b := by
  rw [bind_outcome]
  cases x.outcome <;> simp [Except.bind]

end Noted

end SolutionSurvey
