/-!
# Commands and their options

Which commands there are, which options each of them takes, and the help that tells of them.

## Main definitions

* `CommandName`, `OptionName` — the commands and the options.
* `OptionSpec` — how an option is written and what it is for.
* `Synopsis` — what help says about a command; `Synopsis.help` is its text.
* `program`, `CommandName.synopsis` — the synopsis of the whole program and of each command.
-/

namespace SolutionSurvey

/-! ## Options -/

/-- The options. -/
inductive OptionName where
  | version
  | verbose
  | config
  | json
  | project
  | limit
  | help
  deriving Repr, DecidableEq, Inhabited

/-- How an option is written, what stands for its value if it takes one, and what it is for. -/
structure OptionSpec where
  name : OptionName
  spellings : List String
  value : Option String
  purpose : String
  deriving Repr, DecidableEq, Inhabited

/-- The option that every command has. -/
def helpOption : OptionSpec :=
  ⟨.help, ["--help"], none, "Show this message and exit."⟩

/-! ## Help -/

/-- What help says about a command: how it is called, what it does, its options, and the commands below
it with what they do. -/
structure Synopsis where
  path : String
  arguments : String
  description : List String
  options : List OptionSpec
  commands : List (String × String) := []
  deriving Repr, DecidableEq, Inhabited

/-- The width of a help text. -/
def helpWidth : Nat := 78

namespace Synopsis

/-- The longest beginning of some words that leaves room for three points; the length so far includes a
blank after each word. -/
def leadingWords (limit : Nat) : Nat → List String → List String
  | _, [] => []
  | used, w :: rest =>
    let used := used + w.length
    if used + 3 ≤ limit then w :: leadingWords limit (used + 1) rest else []

/-- A sentence that is cut after a word if it is too long. -/
def shortened (limit : Nat) (s : String) : String :=
  if s.length ≤ limit then s
  else " ".intercalate (leadingWords limit 0 (s.splitOn " ")) ++ "..."

/-- Rows of two columns. -/
def table (rows : List (String × String)) : String :=
  let width := rows.foldl (fun w r => max w r.1.length) 0
  String.join (rows.map fun r => "  " ++ r.1.pushn ' ' (width + 2 - r.1.length) ++ r.2 ++ "\n")

/-- How help writes an option. -/
def optionText (o : OptionSpec) : String :=
  ", ".intercalate o.spellings ++ (match o.value with
    | some v => " " ++ v
    | none => "")

/-- The line that tells how a command is called. -/
def usage (s : Synopsis) : String :=
  "Usage: " ++ s.path ++ " " ++ s.arguments ++ "\n"

/-- The commands with what they do, each on one line. -/
def commandRows (s : Synopsis) : List (String × String) :=
  let width := s.commands.foldl (fun w c => max w c.1.length) 0
  s.commands.map fun c => (c.1, shortened (helpWidth - 6 - width) c.2)

/-- The help text. -/
def help (s : Synopsis) : String :=
  s.usage ++ String.join (s.description.map fun p => "\n  " ++ p ++ "\n") ++
    "\nOptions:\n" ++ table (s.options.map fun o => (optionText o, o.purpose)) ++
    (if s.commands.isEmpty then "" else "\nCommands:\n" ++ table s.commandRows)

end Synopsis

/-! ## Commands -/

/-- The commands. -/
inductive CommandName where
  | methods
  | order
  | packages
  deriving Repr, DecidableEq, Inhabited

/-- The name of the program. -/
def programName : String := "codeparser"

/-- The version of the program. -/
def programVersion : String := "0.1.0"

namespace CommandName

/-- All commands, by name. -/
def all : List CommandName := [.methods, .order, .packages]

/-- The name of a command. -/
def toText : CommandName → String
  | .methods => "methods"
  | .order => "order"
  | .packages => "packages"

/-- The command of a name. -/
def ofText? (s : String) : Option CommandName :=
  all.find? fun c => c.toText == s

/-- The options of a command. -/
def options : CommandName → List OptionSpec
  | .methods =>
    [⟨.project, ["--project"], some "TEXT", "Only these projects (repeatable)"⟩,
      ⟨.limit, ["--limit"], some "INTEGER", "Stop after this many declarations"⟩, helpOption]
  | .order => [helpOption]
  | .packages => [⟨.json, ["--json"], none, "Output as JSON"⟩, helpOption]

/-- What a command does, in paragraphs. -/
def description : CommandName → List String
  | .methods => ["List methods, constructors, destructors and operators as FILE:LINE NAME."]
  | .order => ["Print projects so that each follows the projects it references."]
  | .packages => ["List the distinct NuGet packages referenced by a solution.",
      "PATH is a .sln file or a directory holding one (default: current directory)."]

/-- What help says about a command. -/
def synopsis (c : CommandName) : Synopsis :=
  { path := programName ++ " " ++ c.toText, arguments := "[OPTIONS] [PATH]",
    description := c.description, options := c.options }

/-- The name of a command reads back as the command. -/
@[simp] theorem ofText?_toText (c : CommandName) : ofText? c.toText = some c := by
  cases c <;> decide

end CommandName

/-- What help says about the whole program. -/
def program : Synopsis :=
  { path := programName, arguments := "[OPTIONS] COMMAND [ARGS]...",
    description := ["codeparser - static analysis helpers for C# solutions."],
    options := [⟨.version, ["--version"], none, "Show the version and exit."⟩,
      ⟨.verbose, ["-v", "--verbose"], none, "Enable debug logging"⟩,
      ⟨.config, ["--config"], some "FILE", "Config file to use instead of .codeparser/config.yaml"⟩,
      helpOption],
    commands := CommandName.all.map fun c => (c.toText, c.description.headD "") }

end SolutionSurvey
