import SolutionSurvey.Command.Run

/-!
# Sought paths

The paths that a command line looks at, as far as a site shows them. With what stands at them added, a
site shows more; once nothing new is sought the site holds all that a run reads.

## Main definitions

* `Sought` — a path, and whether all below it is sought too.
* `Site.sought` — the paths that a command line looks at.
-/

namespace SolutionSurvey

/-- A path to look at: alone, or with everything below it. -/
structure Sought where
  path : FilePath
  whole : Bool
  deriving Repr, DecidableEq, Inhabited

namespace Sought

/-- A path alone. -/
def alone (p : FilePath) : Sought := ⟨p, false⟩

/-- A path with everything below it. -/
def below (p : FilePath) : Sought := ⟨p, true⟩

end Sought

namespace Site

/-- The directory above a pattern that holds all that it finds. -/
def patternBase (directory : FilePath) : Manifest.Item → Option FilePath
  | .pattern written =>
    let p := directory.join (.ofText written)
    some { p with segments := p.segments.takeWhile fun s => !Wild.isPattern s }
  | _ => none

/-- The paths that the manifest of a project leads to. -/
def soughtByManifest (s : Site) (path : FilePath) : List Sought :=
  match Manifest.load s path with
  | .error _ => []
  | .ok root =>
    let values := Manifest.itemValues "Include" root ++ Manifest.itemValues "Remove" root
    ((values.flatMap Manifest.itemParts).filterMap (patternBase path.parent)).map .below

/-- The paths that a solution file and its settings lead to. -/
def soughtBySolution (s : Site) (settings : Settings) (file : FilePath) : List Sought :=
  let logs := settings.logging.outputs.filterMap fun o => o.destination.file?.bind WordedPath.plain?
  let manifests := match (s.read file).bind (decodeFile "utf-8-sig") with
    | .ok text => (Solution.listed s file.parent text).map ListedProject.path
    | .error _ => []
  let sources := match (Solution.load s settings.workspace.rule file).outcome with
    | .ok sol => (filesOf sol.projects).map Prod.snd
    | .error _ => []
  logs.map .alone ++ manifests.map (fun m => .below m.parent) ++
    manifests.flatMap s.soughtByManifest ++ sources.map .alone

/-- The paths that a job leads to. -/
def soughtByJob (s : Site) (environment : Environment) (general : General) (path : FilePath) :
    List Sought :=
  let lead := Sought.alone (s.home.join userConfig) :: general.config.toList.map Sought.alone ++
    [.below (if s.isDir path then path else path.parent)]
  match Solution.locate s path with
  | .error _ => lead
  | .ok file =>
    let request : LoadRequest := { root := some file.parent, file := general.config, environment }
    match Settings.load s request with
    | .error _ => lead
    | .ok settings => lead ++ s.soughtBySolution settings file

/-- The paths that a command line looks at. Each of its words may be one. -/
def sought (s : Site) (environment : Environment) (args : List String) : List Sought :=
  let words := args.flatMap fun a => a :: (Words.splitEquals a).2.toList
  let named := (words.filter (· != "")).map fun w => Sought.alone (.ofText w)
  match CommandLine.read s args with
  | .ok (.work general (.packages path _)) => named ++ s.soughtByJob environment general path
  | .ok (.work general (.order path)) => named ++ s.soughtByJob environment general path
  | .ok (.work general (.methods path _ _)) => named ++ s.soughtByJob environment general path
  | _ => named

end Site

end SolutionSurvey
