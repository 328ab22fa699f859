import SolutionSurvey.Config.Check
import SolutionSurvey.Files.Scan
import SolutionSurvey.Journal.Level
import SolutionSurvey.Survey.Sources

/-!
# Settings

What can be set: where and how notes are written, how sources are found and read, and which roles hold
identifiers. Each section can be read from a value and written as one.

## Main definitions

* `LogOutput`, `LoggingSettings`, `WorkspaceSettings`, `ProbeSettings`, `Settings` — the sections.
* `Settings.check` and its like for each section — reading a section from a value.
* `Settings.toValue` and its like — writing a section as a value.
-/

namespace SolutionSurvey

/-! ## Outputs of the journal -/

/-- How notes are written. -/
inductive LogFormat where
  | json
  | console
  deriving Repr, DecidableEq, Inhabited

/-- The name of a format. -/
def LogFormat.name : LogFormat → String
  | .json => "json"
  | .console => "console"

/-- The format of a name. -/
def LogFormat.ofName? (s : String) : Option LogFormat :=
  [LogFormat.json, .console].find? fun f => f.name == s

/-- Where notes are written. -/
inductive Destination where
  | stderr
  | stdout
  | file (path : WordedPath)
  deriving Repr, DecidableEq, Inhabited

namespace Destination

/-- The text of a destination. -/
def toWording : Destination → Wording
  | .stderr => "stderr"
  | .stdout => "stdout"
  | .file p => p.toWording

/-- The file of a destination, if it is one. -/
def file? : Destination → Option WordedPath
  | .file p => some p
  | _ => none

/-- The complaint about a text that names no destination. A text in the reason is read as UTF-8, in which a
half is three bytes that mean nothing. -/
def complainOf (reason text : Wording) : Checked Destination :=
  complain "value_error" ("Value error, " ++ reason.spelled fun _ => "\ufffd\ufffd\ufffd") (.ofWording text)

/-- The destination that a text names: one of the two streams, or a file by its absolute path. -/
def ofText (s : Site) (text : Wording) : Checked Destination :=
  if text = "stderr" then .ok .stderr
  else if text = "stdout" then .ok .stdout
  else
    match s.expandHome (.ofWording text) with
    | .error f => if f.isValueFault then complainOf f.message text else .error f
    | .ok p =>
      if p.isAbsolute then .ok (.file p)
      else complainOf (text.prepend "File destination must be absolute path: ") text

/-- Reads a destination. -/
def check (s : Site) (v : Value) : Checked Destination := do
  ofText s (← checkText v)

end Destination

/-- The words for the levels. -/
def levelWords : String := "'DEBUG', 'INFO', 'WARNING', 'ERROR' or 'CRITICAL'"

/-- Reads a level. -/
def checkLevel (v : Value) : Checked Level :=
  checkChoice levelWords Level.ofSetting? v

/-- Reads a level that may be null. -/
def checkLevel? : Value → Checked (Option Level)
  | .null => .ok none
  | v => (checkLevel v).map some

/-- Reads a format. -/
def checkFormat (v : Value) : Checked LogFormat :=
  checkChoice "'json' or 'console'" LogFormat.ofName? v

/-- An output of the journal; without a level of its own it has that of the journal. -/
structure LogOutput where
  format : LogFormat := .console
  destination : Destination := .stderr
  level : Option Level := none
  deriving Repr, DecidableEq, Inhabited

namespace LogOutput

/-- Reads an output. -/
def check (s : Site) : Value → Checked LogOutput :=
  checkSection "LogOutputConfig" fun v =>
    (Checked.both (checkField "format" .console checkFormat v)
      (Checked.both (checkField "destination" .stderr (Destination.check s) v)
        (checkField "level" none checkLevel? v))).map fun p => ⟨p.1, p.2.1, p.2.2⟩

/-- An output as a value. -/
def toValue (o : LogOutput) : Value :=
  .ofFields [("format", .text o.format.name), ("destination", .ofWording o.destination.toWording),
    ("level", (o.level.map fun l => .text l.settingName).getD .null)]

end LogOutput

/-! ## Sections -/

/-- The settings of the journal. -/
structure LoggingSettings where
  level : Level := .warning
  outputs : List LogOutput := [{}]
  deriving Repr, DecidableEq, Inhabited

namespace LoggingSettings

/-- Reads the settings of the journal. -/
def check (s : Site) : Value → Checked LoggingSettings :=
  checkSection "LoggingConfig" fun v =>
    (Checked.both (checkField "level" .warning checkLevel v)
      (checkField "outputs" [{}] (checkList (LogOutput.check s)) v)).map fun p => ⟨p.1, p.2⟩

/-- The settings of the journal as a value. -/
def toValue (l : LoggingSettings) : Value :=
  .ofFields [("level", .text l.level.settingName), ("outputs", .list (l.outputs.map LogOutput.toValue))]

end LoggingSettings

/-- The settings for finding and reading sources. -/
structure WorkspaceSettings where
  sourceExtensions : List Wording := [".cs"]
  excludedDirs : List Wording := ["bin", "obj"]
  encoding : Wording := defaultEncoding
  deriving Repr, DecidableEq, Inhabited

namespace WorkspaceSettings

/-- An extension as it is compared: without blanks around it, in lower case, with a point in front;
nothing for a blank one. -/
def extension? (raw : Wording) : Option Wording :=
  let e := raw.trimmed.mapRuns Text.lower
  if e = "" then none else if e.firstRun.toList.head? = some '.' then some e else some (e.prepend ".")

/-- Reads extensions. A blank one is a complaint about the whole list. -/
def checkExtensions (v : Value) : Checked (List Wording) := do
  let raw ← checkList checkText v
  match raw.mapM extension? with
  | some es => .ok es
  | none => complain "value_error" "Value error, Empty source extension" v

/-- Reads the settings for sources. -/
def check : Value → Checked WorkspaceSettings :=
  checkSection "WorkspaceConfig" fun v =>
    (Checked.both (checkField "source_extensions" [.plain ".cs"] checkExtensions v)
      (Checked.both (checkField "excluded_dirs" [.plain "bin", .plain "obj"] (checkList checkText) v)
        (checkField "encoding" (.plain defaultEncoding) checkText v))).map fun p => ⟨p.1, p.2.1, p.2.2⟩

/-- The settings for sources as a value. -/
def toValue (w : WorkspaceSettings) : Value :=
  .ofFields [("source_extensions", .list (w.sourceExtensions.map .ofWording)),
    ("excluded_dirs", .list (w.excludedDirs.map .ofWording)), ("encoding", .ofWording w.encoding)]

/-- The rule of the scan for sources, which compares names and their ends with the settings. -/
def rule (w : WorkspaceSettings) : ScanRule :=
  ⟨w.excludedDirs.map Wording.fileName, w.sourceExtensions.map Wording.fileName⟩

end WorkspaceSettings

/-- The roles that hold identifiers unless others are asked for. -/
def defaultFields : List Wording :=
  defaultRoles.map .plain

/-- The settings of the probe for identifiers. -/
structure ProbeSettings where
  identifierFields : List Wording := defaultFields
  deriving Repr, DecidableEq, Inhabited

namespace ProbeSettings

/-- Reads the settings of the probe. -/
def check : Value → Checked ProbeSettings :=
  checkSection "ProbeConfig" fun v =>
    (checkField "identifier_fields" defaultFields (checkList checkText) v).map fun fs => ⟨fs⟩

/-- The settings of the probe as a value. -/
def toValue (p : ProbeSettings) : Value :=
  .ofFields [("identifier_fields", .list (p.identifierFields.map .ofWording))]

end ProbeSettings

/-- All settings. -/
structure Settings where
  logging : LoggingSettings := {}
  workspace : WorkspaceSettings := {}
  probe : ProbeSettings := {}
  deriving Repr, DecidableEq, Inhabited

namespace Settings

/-- Reads all sections of a mapping. -/
def checkSections (s : Site) (v : Value) : Checked Settings :=
  (Checked.both (checkField "logging" {} (LoggingSettings.check s) v)
    (Checked.both (checkField "workspace" {} WorkspaceSettings.check v)
      (checkField "probe" {} ProbeSettings.check v))).map fun p => ⟨p.1, p.2.1, p.2.2⟩

/-- Reads all settings. -/
def check (s : Site) : Value → Checked Settings :=
  checkSection "CodeParserConfig" (checkSections s)

/-- All settings as a value. -/
def toValue (t : Settings) : Value :=
  .ofFields [("logging", t.logging.toValue), ("workspace", t.workspace.toValue),
    ("probe", t.probe.toValue)]

end Settings

end SolutionSurvey
