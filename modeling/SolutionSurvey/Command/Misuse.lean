import SolutionSurvey.Command.Synopsis
import SolutionSurvey.Failure
import SolutionSurvey.Text.Quoted

/-!
# Misuse of the command line

What can be wrong with the words of a command line, and what the user is told.

## Main definitions

* `Misuse` — the causes; `Misuse.sentence` words them.
* `Misuse.report` — the whole text for the user.
-/

namespace SolutionSurvey

/-- What can be wrong with the words of a command line. -/
inductive Misuse where
  /-- An option that there is not, with those that it may have been meant for. -/
  | unknownOption (option : String) (near : List String)
  /-- An option without the value that it takes. -/
  | valueMissing (option : String)
  /-- An option with a value that it does not take. -/
  | valueRefused (option : String)
  /-- A command that there is not, with those that it may have been meant for. -/
  | unknownCommand (name : String) (near : List String)
  | commandMissing
  | extraArguments (arguments : List String)
  /-- A path that leads nowhere. -/
  | nowhere (parameter path : String)
  /-- A path to a directory where a file is asked for. -/
  | directoryGiven (parameter path : String)
  | notInteger (parameter text : String)
  /-- A path that cannot be looked up because it holds a null character. -/
  | nullInPath
  deriving Repr, DecidableEq, Inhabited

namespace Misuse

/-- A question about what was meant. -/
def suggestion : List String → String
  | [] => ""
  | [one] => " Did you mean " ++ Text.quoted one ++ "?"
  | many => " (Did you mean one of: " ++ ", ".intercalate (many.map Text.quoted) ++ "?)"

/-- A complaint about the value of a parameter. -/
def invalidValue (parameter complaint : String) : String :=
  "Invalid value for '" ++ parameter ++ "': " ++ complaint

/-- The sentence for a misuse. -/
def sentence : Misuse → String
  | .unknownOption option near => "No such option " ++ Text.quoted option ++ "." ++ suggestion near
  | .valueMissing option => "Option " ++ Text.quoted option ++ " requires an argument."
  | .valueRefused option => "Option " ++ Text.quoted option ++ " does not take a value."
  | .unknownCommand name near => "No such command " ++ Text.quoted name ++ "." ++ suggestion near
  | .commandMissing => "Missing command."
  | .extraArguments arguments =>
    (if arguments.length = 1 then "Got unexpected extra argument ("
      else "Got unexpected extra arguments (") ++ " ".intercalate arguments ++ ")"
  | .nowhere parameter path =>
    invalidValue parameter ("Path " ++ Text.quoted path ++ " does not exist.")
  | .directoryGiven parameter path =>
    invalidValue parameter ("File " ++ Text.quoted path ++ " is a directory.")
  | .notInteger parameter text =>
    invalidValue parameter (Text.quoted text ++ " is not a valid integer.")
  | .nullInPath => ValueFault.nullInPath.message

/-- The failure behind a misuse that is not the user's to mend. -/
def failure? : Misuse → Option Failure
  | .nullInPath => some (.value .nullInPath)
  | _ => none

/-- Whether the report begins with how the command is called. -/
def showsUsage : Misuse → Bool
  | .valueMissing _ => false
  | .valueRefused _ => false
  | _ => true

/-- The line for the user of a command that fails. -/
def errorLine (sentence : String) : String :=
  "Error: " ++ sentence ++ "\n"

/-- The whole text for the user of the command that a synopsis tells of. -/
def report (s : Synopsis) (m : Misuse) : String :=
  (if m.showsUsage then s.usage ++ "Try '" ++ s.path ++ " --help' for help.\n\n" else "") ++
    errorLine m.sentence

end Misuse

end SolutionSurvey
