import SolutionSurvey.Config.Environment
import SolutionSurvey.Config.Settings
import SolutionSurvey.Files.Tree
import SolutionSurvey.Value.Layered
import SolutionSurvey.Yaml.Document

/-!
# Loading settings

Settings come in layers. The file of the user lies at the bottom, the file of the project over it, then
the environment variables, and what the caller asks for at the top. What no layer says has its default.

## Main definitions

* `Site.loadMapping` — the mapping in a file.
* `LoadRequest` — where to look for settings.
* `LoadRequest.layered` — all layers as one mapping.
* `Settings.loadOnce`, `Settings.load` — the settings, and the settings read once more.
-/

namespace SolutionSurvey

/-- The mapping in a file. A file that is not there, or holds nothing, has no entries. -/
def Site.loadMapping (s : Site) (path : FilePath) : Except Failure Entries :=
  let unparsable (reason : String) : Except Failure Entries :=
    .error (.report (.unparsableConfig (.text path.toText) (.text reason)))
  if !s.pathExists path then .ok []
  else do
    match Yaml.read (← s.read path) with
    | .error (.problem p) => unparsable (p.toText path.toText)
    | .error (.failure f) => .error f
    | .ok v =>
      if !v.truthy then .ok []
      else
        match v.opened.entries? with
        | some entries => .ok entries
        | none => unparsable "top level must be a mapping"

/-- Where to look for settings: the directory of the project, a file to read in place of that of the
project, the environment variables, and what the caller asks for. -/
structure LoadRequest where
  root : Option FilePath := none
  file : Option FilePath := none
  environment : Environment := []
  overrides : Entries := []
  deriving Repr, Inhabited

/-- The file of a project, from its directory. -/
def projectConfig : FilePath := ⟨0, [".codeparser", "config.yaml"]⟩

/-- The file of a user, from the home directory. -/
def userConfig : FilePath := ⟨0, [".config", "codeparser", "config.yaml"]⟩

namespace LoadRequest

/-- The mapping of the project. A file that was asked for must be there. -/
def projectMapping (s : Site) (r : LoadRequest) : Except Failure Entries :=
  match r.file with
  | some path =>
    if s.isFile path then s.loadMapping path
    else .error (.report (.missingConfig (.text path.toText)))
  | none => s.loadMapping ((r.root.getD s.here).join projectConfig)

/-- All layers as one mapping. -/
def layered (s : Site) (r : LoadRequest) : Except Failure Entries := do
  let project ← r.projectMapping s
  let user ← s.loadMapping (s.home.join userConfig)
  let files ← Value.merge user project
  let environment ← r.environment.entries
  Value.merge files (← Value.merge environment r.overrides)

end LoadRequest

namespace Settings

/-- A complaint about each entry that is no section. -/
def checkExtra (entries : Entries) : Checked Unit :=
  let extra := entries.filter fun e => !e.1.text?.any fun k => sections.any fun s => s.1 == k
  if extra.isEmpty then .ok ()
  else .error (.invalid (extra.map fun e =>
    ⟨[.field e.1.toText], "extra_forbidden", "Extra inputs are not permitted", e.2⟩))

/-- Reads settings from a mapping whose keys are the names of sections. A key with halves cannot be compared
with these names, and the complaint about it is the only one. -/
def checkWhole (s : Site) (entries : Entries) : Checked Settings :=
  if entries.any fun e => e.1.wording?.isNone then .error (.type .keywordNotText)
  else
    match entries.find? fun e => e.1.text?.isNone with
    | some e => (checkSections s (.map entries)).outdoneBy (complainUnreadable e.1)
    | none => (Checked.both (checkSections s (.map entries)) (checkExtra entries)).map Prod.fst

/-- The report of the first of some complaints, for which the value has to be written. -/
def reportFirst : Failure → Failure
  | .invalid (v :: _) =>
    if v.input.isUnwritable then .value .unwritable
    else
      .report (.invalidSetting (.text (".".intercalate (v.loc.map Step.toText))) v.input (.text v.message))
  | f => f

/-- The settings that all layers together give, as they are read first. -/
def loadOnce (s : Site) (r : LoadRequest) : Except Failure Settings := do
  (checkWhole s (← r.layered s)).mapError reportFirst

/-- The settings that all layers together give. What was read is written as a value and read again. -/
def load (s : Site) (r : LoadRequest) : Except Failure Settings := do
  check s (← loadOnce s r).toValue

end Settings

end SolutionSurvey
