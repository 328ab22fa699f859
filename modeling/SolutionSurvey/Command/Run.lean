import SolutionSurvey.Command.Arguments
import SolutionSurvey.Command.Session
import SolutionSurvey.Config.Load
import SolutionSurvey.Json.Printer
import SolutionSurvey.Solution.Open
import SolutionSurvey.Solution.Order
import SolutionSurvey.Survey.Packages
import SolutionSurvey.Survey.Sources

/-!
# Running commands

Every command finds its solution, reads the settings next to it, sets up the journal and opens the
solution. Then it prints what it is for.

## Main definitions

* `Session.openFile`, `Session.openWorkspace` — the first steps of every command.
* `Session.packages`, `Session.order`, `Session.methods` — the commands.
* `runCommand` — what a command line does to a desk, and its exit code.
-/

namespace SolutionSurvey

namespace Session

/-- The request for the settings next to a solution file. -/
def settingsRequest (environment : Environment) (general : General) (file : FilePath) : LoadRequest :=
  { root := some file.parent, file := general.config, environment }

/-- The settings of the journal. All notes are asked for where the command is to be verbose. -/
def journalSettings (general : General) (settings : Settings) : LoggingSettings :=
  if general.verbose then { settings.logging with level := .debug } else settings.logging

/-- The settings and the solution of a solution file. -/
def openFile (environment : Environment) (general : General) (file : FilePath) :
    Session (Settings × Solution) := do
  let settings ← orFail Failure.isReport
    (Settings.load (← site) (settingsRequest environment general file))
  configure (journalSettings general settings)
  let solution ← noted Failure.isReport (Solution.load (← site) settings.workspace.rule file)
  pure (settings, solution)

/-- The settings and the solution that a path leads to. -/
def openWorkspace (environment : Environment) (general : General) (path : FilePath) :
    Session (Settings × Solution) := do
  match Solution.locate (← site) path with
  | .ok file => openFile environment general file
  | .error (.command sentence) => throw (.refused sentence)
  | .error f => throw (.crashed f)

/-! ## Packages -/

/-- A package as a value. -/
def packageValue (p : PackageIdentity) : Value :=
  .ofFields [("name", .text p.name), ("version", .text p.version.toText),
    ("prefix", .text p.versionPrefix), ("suffix", .text p.versionSuffix)]

/-- Prints the packages of a solution. -/
def packages (sol : Solution) (json : Bool) : Session Unit := do
  let found ← noted Failure.isReportOrFile (sol.distinctPackages (← site))
  if json then print (Json.indented 0 (.list (found.map packageValue)))
  else if found.isEmpty then print "No package references found."
  else found.forM fun p => print p.toText

/-! ## Order -/

/-- Prints the projects of a solution in the order of their dependencies. -/
def order (sol : Solution) : Session Unit := do
  let ids ← noted Failure.isCycle sol.dependencyOrder
  ids.zipIdx.forM fun (id, i) =>
    print (toString (i + 1) ++ ". " ++ ((sol.project? id).map Project.name).getD id.toText)

/-! ## Methods -/

/-- How methods are listed: the directory that files are shown from, the roles that hold identifiers, and
the greatest number of lines. -/
structure Listing where
  root : FilePath
  roles : List Wording
  limit : Option Int
  deriving Repr, DecidableEq, Inhabited

/-- The method-like declarations below a node, in order. -/
def methodsBelow (n : Located) : List Located :=
  n.allDescendants.filter fun m => m.tree.isNamed && methodTypes.contains m.tree.type

/-- How the nodes of sources are read for some roles, and the roles that are asked for. Asking for a role with
halves is a fault, and no role after it is asked for. -/
def naming (roles : List Wording) : NodeView Located × List String :=
  let names := (roles.takeWhile fun r => r.plain?.isSome).filterMap Wording.plain?
  match roles.findSome? Wording.fault? with
  | none => (Located.view, names)
  | some e => (Located.view.upToRoles names (.unencodable e), [])

/-- The line for a declaration. -/
def methodLine (l : Listing) (file : FilePath) (n : Located) : Except Failure String := do
  let (view, roles) := naming l.roles
  let name ← qualifiedName view roles (n.above.length + 1) n
  let shown := (file.relativeTo? l.root).getD file
  pure (shown.toText ++ ":" ++ toString (n.tree.start.line + 1) ++ " " ++ name)

/-- Prints declarations of a file after `count` others, and gives the number of all, or nothing once one
is left that goes beyond the limit. -/
def printMethods (l : Listing) (file : FilePath) : Nat → List Located → Session (Option Nat)
  | count, [] => pure (some count)
  | count, n :: rest => do
    if l.limit.any fun most => most ≤ (count : Int) then pure none
    else
      print (← orFail Failure.isReportOrFile (methodLine l file n))
      printMethods l file (count + 1) rest

/-- Prints the declarations of some files after `count` others. A file is opened to look for the next
declaration even where the limit is reached. -/
def printFiles (l : Listing) (encoding : Wording) : Nat → List (Project × FilePath) → Session Unit
  | _, [] => pure ()
  | count, (p, file) :: rest => do
    note [.parsing p.name file]
    let text ← orFail Failure.isReportOrFile ((← site).readText encoding file)
    note [.grammarLoaded]
    let text ← orFail Failure.isReportOrFile (text.written.mapError .unencodable)
    match ← printMethods l file count (methodsBelow (.root text (CSharp.grammar text))) with
    | none => pure ()
    | some count => printFiles l encoding count rest

/-- The projects with one of some names, whatever their case; all of them if no name is given. -/
def wanted (names : List String) (ps : List Project) : List Project :=
  let names := names.map Text.lower
  ps.filter fun p => names.isEmpty || names.contains (Text.lower p.name)

/-- Prints the method-like declarations of a solution. -/
def methods (settings : Settings) (sol : Solution) (names : List String) (limit : Option Int) :
    Session Unit := do
  let here := (← site).here
  let root := (sol.path.map FilePath.parent).getD here
  printFiles ⟨root, settings.probe.identifierFields, limit⟩ settings.workspace.encoding 0
    (filesOf (wanted names sol.projects))

/-! ## All commands -/

/-- Does a job. -/
def perform (environment : Environment) (general : General) : Job → Session Unit
  | .packages path json => do
    let (_, sol) ← openWorkspace environment general path
    packages sol json
  | .order path => do
    let (_, sol) ← openWorkspace environment general path
    order sol
  | .methods path names limit => do
    let (settings, sol) ← openWorkspace environment general path
    methods settings sol names limit

end Session

/-- How a command line ended: the exit code, what was written, the journal, and the failure that nobody
expected, if there was one. -/
structure Ending where
  code : Nat
  outlets : Outlets
  journal : Journal := {}
  crash : Option Failure := none
  deriving Inhabited

/-- Runs a command line at a time and in an environment. -/
def runCommand (stamp : String) (environment : Environment) (site : Site) (args : List String) :
    Ending :=
  let outlets : Outlets := { site }
  match CommandLine.read site args with
  | .error (s, m) =>
    match m.failure? with
    | some f => { code := 1, outlets, crash := some f }
    | none => { code := 2, outlets := outlets.complain (m.report s) }
  | .ok (.show_ text) => { code := 0, outlets := outlets.print text }
  | .ok (.remind text) => { code := 2, outlets := outlets.complain text }
  | .ok (.work general job) =>
    match (Session.perform environment general job).run.run { outlets, stamp } with
    | (.ok (), d) => { code := 0, outlets := d.outlets, journal := d.journal }
    | (.error (.refused sentence), d) =>
      { code := 1, outlets := d.outlets.complain (Misuse.errorLine sentence), journal := d.journal }
    | (.error (.crashed f), d) =>
      { code := 1, outlets := d.outlets, journal := d.journal, crash := some f }

end SolutionSurvey
