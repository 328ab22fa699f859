/-!
# Levels

How much a note in the journal matters, and the numbers that stand for the five levels.

## Main definitions

* `Level` — the levels, with `Level.number` and `Level.name`, read back by `Level.ofNumber?`.
-/

namespace SolutionSurvey

/-- How much a note matters. -/
inductive Level where
  | debug
  | info
  | warning
  | error
  | critical
  deriving Repr, DecidableEq, Inhabited

namespace Level

/-- The number of a level; notes that matter more have greater numbers. -/
def number : Level → Nat
  | .debug => 10
  | .info => 20
  | .warning => 30
  | .error => 40
  | .critical => 50

/-- The name of a level as notes carry it. -/
def name : Level → String
  | .debug => "debug"
  | .info => "info"
  | .warning => "warning"
  | .error => "error"
  | .critical => "critical"

/-- The name of a level as settings carry it. -/
def settingName : Level → String
  | .debug => "DEBUG"
  | .info => "INFO"
  | .warning => "WARNING"
  | .error => "ERROR"
  | .critical => "CRITICAL"

/-- All levels, from the least on. -/
def all : List Level := [.debug, .info, .warning, .error, .critical]

/-- The level that a setting names. -/
def ofSetting? (s : String) : Option Level :=
  all.find? fun l => l.settingName == s

/-- The level of a number. -/
def ofNumber? (n : Nat) : Option Level :=
  all.find? fun l => l.number == n

/-- The name that a setting carries reads back as its level. -/
@[simp] theorem ofSetting?_settingName (l : Level) : ofSetting? l.settingName = some l := by
  cases l <;> decide

/-- The number of a level reads back as the level. -/
@[simp] theorem ofNumber?_number (l : Level) : ofNumber? l.number = some l := by
  cases l <;> decide

end Level

end SolutionSurvey
