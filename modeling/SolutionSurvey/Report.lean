import SolutionSurvey.Value.Written

/-!
# Reports

The errors that the library reports on its own account, each with a number, a name, a sentence and the
details it was built from. The thousands digit of the number tells the area: arguments, configuration,
formats, graphs.

## Main definitions

* `Report` — the causes.
* `Report.code`, `Report.codeName` — number and name.
* `Report.sentence` — the sentence.
* `Report.details` — the details, by name.
* `Report.toText` — number, name and sentence in one line.
-/

namespace SolutionSurvey

/-- What the library itself can report. -/
inductive Report where
  /-- A required argument is missing. -/
  | missingArgument (name : Value)
  /-- An argument is there and cannot be used. -/
  | invalidArgument (name reason : Value)
  /-- A project or solution manifest could not be read as what it should be. -/
  | malformedManifest (path reason : Value)
  /-- The references between projects run in a circle through the named ones. -/
  | dependencyCycle (names : List String)
  /-- A configuration file could not be read as what it should be. -/
  | unparsableConfig (path reason : Value)
  /-- A setting has a value that it may not have. -/
  | invalidSetting (field value reason : Value)
  /-- A configuration file that was asked for does not exist. -/
  | missingConfig (path : Value)
  deriving Repr, Inhabited

namespace Report

/-- The number of a report. -/
def code : Report → Nat
  | .missingArgument _ | .invalidArgument .. => 1001
  | .unparsableConfig .. => 2001
  | .invalidSetting .. => 2002
  | .missingConfig _ => 2004
  | .malformedManifest .. => 3001
  | .dependencyCycle _ => 4001

/-- The name that goes with the number. -/
def codeName : Report → String
  | .missingArgument _ | .invalidArgument .. => "INVALID_ARGUMENT"
  | .unparsableConfig .. => "CONFIG_PARSE_ERROR"
  | .invalidSetting .. => "CONFIG_INVALID_VALUE"
  | .missingConfig _ => "CONFIG_FILE_NOT_FOUND"
  | .malformedManifest .. => "INVALID_FORMAT"
  | .dependencyCycle _ => "DEPENDENCY_CYCLE"

/-- The family a report belongs to, as it is written to logs. -/
def kind : Report → String
  | .missingArgument _ | .invalidArgument .. => "ArgumentError"
  | .malformedManifest .. => "ManifestFormatError"
  | .dependencyCycle _ => "DependencyCycleError"
  | .unparsableConfig .. | .invalidSetting .. | .missingConfig _ => "ConfigError"

/-- The sentence of a report. -/
def sentence : Report → String
  | .missingArgument name => "Argument '" ++ name.toText ++ "' must not be None"
  | .invalidArgument name reason => "Invalid argument '" ++ name.toText ++ "': " ++ reason.toText
  | .malformedManifest path reason => "Malformed manifest " ++ path.toText ++ ": " ++ reason.toText
  | .dependencyCycle names => "Project references form a cycle: " ++ " -> ".intercalate names
  | .unparsableConfig path reason =>
    "Failed to parse config at " ++ path.toText ++ ": " ++ reason.toText
  | .invalidSetting field _ reason => "Invalid value for '" ++ field.toText ++ "': " ++ reason.toText
  | .missingConfig path => "Config file not found: " ++ path.toText

/-- The details of a report, by name. The value of a setting is kept as its text. -/
def details : Report → List (String × Value)
  | .missingArgument name => [("argument", name)]
  | .invalidArgument name reason => [("argument", name), ("reason", reason)]
  | .malformedManifest path reason => [("path", path), ("reason", reason)]
  | .dependencyCycle names => [("cycle", .list (names.map .text))]
  | .unparsableConfig path reason => [("path", path), ("reason", reason)]
  | .invalidSetting field value reason =>
    [("field", field), ("value", value.asText), ("reason", reason)]
  | .missingConfig path => [("path", path)]

/-- Number, name and sentence in one line. -/
def toText (r : Report) : String :=
  "[" ++ toString r.code ++ "] " ++ r.codeName ++ ": " ++ r.sentence

/-- The projects that a report names as the members of a circle. -/
def nodes : Report → List String
  | .dependencyCycle names => names
  | _ => []

end Report

end SolutionSurvey
