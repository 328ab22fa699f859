import SolutionSurvey.Proofs.Command.Crash
import SolutionSurvey.Proofs.Files.Place

/-!
# How commands end

A command line that asks for work has one of three endings. The work is done, or it is refused with a
sentence for the user, or it breaks off with a failure that nobody expected. The sentence tells that no
solution file was found, or of a failure that is noted in the journal as well. Work breaks off for reasons
that come from the settings, the outputs of the journal, the solution file, the manifests, the versions of
packages and the sources.

## Main definitions

* `Job.path` — the path that a job is given, which has no null character.
* `Session.Breaks` — why a job breaks off; `Session.crashes_perform` — that these are all reasons.
* `Session.Refused` — how a job is refused.
* `runCommand_ending` — how a command line that asks for work ends.
-/

namespace SolutionSurvey

variable {f : Failure}

/-! ## Paths of jobs -/

/-- The path that a job is given. -/
def Job.path : Job → FilePath
  | .packages path _ => path
  | .order path => path
  | .methods path _ _ => path

namespace CommandLine

variable {site : Site} {w : Words}

theorem holdsNull_path {p : FilePath} (h : path site w = .ok p) : FilePath.holdsNull p.toText = false := by
  rw [path] at h
  split at h
  · cases h
  · next hnull =>
    split at h
    · cases h
      exact FilePath.holdsNull_ofText (Bool.eq_false_iff.mpr hnull)
    · cases h

theorem holdsNull_job {c : CommandName} {j : Job} (h : job site c w = .ok j) :
    FilePath.holdsNull j.path.toText = false := by
  obtain ⟨limit, -, h⟩ := bind_eq_ok.mp h
  obtain ⟨p, hp, h⟩ := bind_eq_ok.mp h
  dsimp only at h
  split at h
  · cases c
    all_goals
      cases h
      exact holdsNull_path hp
  · cases h

theorem holdsNull_ofCommand {general general' : General} {c : CommandName} {args : List String} {j : Job}
    (h : ofCommand site general c args = .ok (.work general' j)) :
    FilePath.holdsNull j.path.toText = false := by
  obtain ⟨w, -, h⟩ := bind_eq_ok.mp h
  split at h
  · cases h
  · obtain ⟨j', hmapped, h⟩ := bind_eq_ok.mp h
    cases h
    cases hjob : job site c w with
    | error m => rw [hjob] at hmapped; cases hmapped
    | ok j' =>
        rw [hjob] at hmapped
        cases hmapped
        exact holdsNull_job hjob

/-- The path of a job that is asked for has no null character. -/
theorem holdsNull_read {args : List String} {general : General} {j : Job}
    (h : read site args = .ok (.work general j)) : FilePath.holdsNull j.path.toText = false := by
  rw [read] at h
  split at h
  · cases h
  · obtain ⟨lead, -, h⟩ := bind_eq_ok.mp h
    split at h
    · cases h
    · cases h
    · split at h
      · exact holdsNull_ofCommand h
      · dsimp only at h
        split at h
        · obtain ⟨again, -, h⟩ := bind_eq_ok.mp h
          split at h <;> cases h
        · cases h

end CommandLine

/-! ## Breaking off -/

namespace Session

variable {environment : Environment} {general : General} {d d' : Desk} {job : Job} {sentence : String}

/-- What a job does with the settings and the solution. -/
def finish : Job → Settings × Solution → Session Unit
  | .packages _ json, (_, sol) => packages sol json
  | .order _, (_, sol) => order sol
  | .methods _ names limit, (settings, sol) => methods settings sol names limit

theorem perform_eq (environment : Environment) (general : General) (job : Job) :
    perform environment general job = openWorkspace environment general job.path >>= finish job := by
  cases job <;> rfl

/-- Why a job breaks off with a failure that nobody expected. -/
inductive Breaks (environment : Environment) (general : General) (d : Desk) (job : Job) (f : Failure) : Prop where
  /-- The settings cannot be read, and no report tells why. -/
  | settings {file : FilePath} (located : Solution.locate d.outlets.site job.path = .ok file)
    (fails : Settings.load d.outlets.site (settingsRequest environment general file) = .error f)
    (unexpected : f.isReport = false)
  /-- An output of the journal cannot be opened. -/
  | journal {file : FilePath} {settings : Settings}
    (located : Solution.locate d.outlets.site job.path = .ok file)
    (loaded : Settings.load d.outlets.site (settingsRequest environment general file) = .ok settings)
    (fails : (journalSetUp general settings d).answer = .error f)
  /-- The solution file cannot be read as a text. -/
  | text {file : FilePath} {settings : Settings} (starts : Prepares environment general d job.path file settings)
    (fails : Solution.text (prepared general settings d).outlets.site file = .error f)
  /-- The first listed manifest that cannot be loaded is not just malformed. -/
  | manifest {file : FilePath} {settings : Settings} {s : Site} {content : String}
    (starts : Prepares environment general d job.path file settings)
    (hsite : s = (prepared general settings d).outlets.site) (read : Solution.text s file = .ok content)
    (fails : FirstError (fun l => Manifest.load s (s.normalize l.path)) (Solution.present s file content) f)
    (unexpected : f.isReport = false)
  /-- The first project whose packages cannot be listed has a manifest that is not just malformed, or a
  version that cannot be read. -/
  | packages {file path : FilePath} {settings : Settings} {sol : Solution} {json : Bool}
    (starts : Prepares environment general d job.path file settings)
    (opens : (opening general file settings d).outcome = .ok sol) (asked : job = .packages path json)
    (fails : FirstError (fun p => (p.packages (opened general file settings d).outlets.site).outcome)
      sol.projects f)
    (unexpected : f.isReportOrFile = false)
  /-- A source that is opened to look for declarations cannot be decoded, its text has halves, or one of the
  roles that its nodes are asked for has. -/
  | source {file path : FilePath} {settings : Settings} {sol : Solution} {names : List String}
    {limit : Option Int} (starts : Prepares environment general d job.path file settings)
    (opens : (opening general file settings d).outcome = .ok sol) (asked : job = .methods path names limit)
    (fails : SourceBreaks (listing settings sol (opened general file settings d)) settings.workspace.encoding
      limit (opened general file settings d) 0 (filesOf (wanted names sol.projects)) f)

/-- **A job breaks off** exactly for one of these reasons. -/
theorem crashes_perform (hpath : FilePath.holdsNull job.path.toText = false) :
    (perform environment general job).Crashes d f ↔ Breaks environment general d job f := by
  rw [perform_eq, crashes_openWorkspace_bind hpath]
  simp only [crashes_openFile_bind]
  constructor
  · rintro ⟨file, located, ⟨fails, unexpected⟩ | ⟨settings, loaded, fails | ⟨ready, h⟩⟩⟩
    · exact .settings located fails unexpected
    · exact .journal located loaded fails
    · have starts : Prepares environment general d job.path file settings := ⟨located, loaded, ready⟩
      obtain ⟨fails, unexpected⟩ | ⟨sol, opens, fails⟩ := h
      · obtain fails | ⟨content, read, fails⟩ := Solution.load_eq_error.mp fails
        · exact .text starts fails
        · exact .manifest starts rfl read fails unexpected
      · cases job with
        | packages path json =>
            obtain ⟨fails, unexpected⟩ := crashes_packages.mp fails
            exact .packages starts opens rfl (Solution.distinctPackages_eq_error.mp fails) unexpected
        | order path => exact absurd fails not_crashes_order
        | methods path names limit => exact .source starts opens rfl (crashes_methods.mp fails)
  · intro h
    cases h with
    | settings located fails unexpected => exact ⟨_, located, .inl ⟨fails, unexpected⟩⟩
    | journal located loaded fails => exact ⟨_, located, .inr ⟨_, loaded, .inl fails⟩⟩
    | text starts fails =>
        refine ⟨_, starts.located, .inr ⟨_, starts.loaded, .inr ⟨starts.ready, .inl ⟨?_, ?_⟩⟩⟩⟩
        · exact Solution.load_eq_error.mpr (.inl fails)
        · exact Solution.text_unexpected fails
    | manifest starts hsite read fails unexpected =>
        subst hsite
        refine ⟨_, starts.located, .inr ⟨_, starts.loaded, .inr ⟨starts.ready, .inl ⟨?_, unexpected⟩⟩⟩⟩
        exact Solution.load_eq_error.mpr (.inr ⟨_, read, fails⟩)
    | packages starts opens asked fails unexpected =>
        refine ⟨_, starts.located, .inr ⟨_, starts.loaded, .inr ⟨starts.ready, .inr ⟨_, opens, ?_⟩⟩⟩⟩
        subst asked
        exact crashes_packages.mpr ⟨Solution.distinctPackages_eq_error.mpr fails, unexpected⟩
    | source starts opens asked fails =>
        refine ⟨_, starts.located, .inr ⟨_, starts.loaded, .inr ⟨starts.ready, .inr ⟨_, opens, ?_⟩⟩⟩⟩
        subst asked
        exact crashes_methods.mpr fails

/-! ## Being refused -/

/-- How a job is refused: no solution file is found, or a failure is noted and told. -/
inductive Refused (d : Desk) (path : FilePath) (sentence : String) (d' : Desk) : Prop
  /-- The sentence tells what was found instead of one solution file. -/
  | nowhere (missing : Solution.locate d.outlets.site path = .error (.command sentence)) (same : d' = d)
  /-- The sentence tells of a failure that is expected. -/
  | failed {f : Failure} {before : Desk} (expected : f.isReportOrFile = true)
    (told : (fail f : Session Unit).runOn before = (.error (.refused sentence), d'))

theorem explains_finish (job : Job) (opened : Settings × Solution) : (finish job opened).Explains := by
  cases job with
  | packages path json => exact explains_packages _ _
  | order path => exact explains_order _
  | methods path names limit => exact explains_methods _ _ _ _

/-- **A job is refused** because no solution file is found, or for a failure that is noted as well. -/
theorem refused_perform (h : (perform environment general job).runOn d = (.error (.refused sentence), d')) :
    Refused d job.path sentence d' := by
  rw [perform_eq, openWorkspace, bind_assoc, runOn_bind_of_ok (runOn_site d)] at h
  cases hfile : Solution.locate d.outlets.site job.path with
  | ok file =>
      rw [hfile] at h
      obtain ⟨f, before, expected, told⟩ := (explains_openFile.bind (explains_finish job)) d sentence d' h
      exact .failed expected told
  | error f =>
      rw [hfile] at h
      cases f <;> cases h
      exact .nowhere hfile rfl

end Session

/-! ## Command lines -/

/-- How a command line ends by what its job gives and leaves. -/
def Ending.ofRun : Except Halt Unit × Desk → Ending
  | (.ok (), d) => { code := 0, outlets := d.outlets, journal := d.journal }
  | (.error (.refused sentence), d) =>
    { code := 1, outlets := d.outlets.complain (Misuse.errorLine sentence), journal := d.journal }
  | (.error (.crashed f), d) => { code := 1, outlets := d.outlets, journal := d.journal, crash := some f }

theorem crash_ofRun {run : Except Halt Unit × Desk} :
    (Ending.ofRun run).crash = some f ↔ run.1 = .error (.crashed f) := by
  obtain ⟨(sentence | g) | ⟨⟩, d⟩ := run
  · exact iff_of_false (fun h => nomatch h) (fun h => nomatch h)
  · simp [Ending.ofRun]
  · exact iff_of_false (fun h => nomatch h) (fun h => nomatch h)

variable {site : Site} {args : List String} {general : General} {job : Job}

theorem runCommand_eq (stamp : String) (environment : Environment)
    (hread : CommandLine.read site args = .ok (.work general job)) :
    runCommand stamp environment site args =
      Ending.ofRun ((Session.perform environment general job).runOn { outlets := { site }, stamp }) := by
  rw [runCommand, hread]
  rfl

/-- A solution file with one project. -/
def undecodableListing : String :=
  "Project(\"\x7bFAE04EC0-301F-11D3-BF4B-00C04F79EFBC\x7d\") = \"App\", \"App.csproj\", \"\x7bA\x7d\"\n"

/-- A manifest with one source. -/
def undecodableManifest : String :=
  "<Project><ItemGroup><Compile Include=\"A.cs\"/></ItemGroup></Project>"

/-- A solution with one project, whose only source is no text in UTF-8. -/
def undecodableSite : Site where
  tree := .dir [("w", .dir [
    ("s.sln", .file undecodableListing.toUTF8.toList),
    ("App.csproj", .file undecodableManifest.toUTF8.toList),
    ("A.cs", .file [0xff])])]
  here := ⟨1, ["w"]⟩
  home := ⟨1, ["w", "home"]⟩

theorem read_undecodableSite :
    CommandLine.read undecodableSite ["methods", "s.sln"] = .ok (.work {} (.methods ⟨0, ["s.sln"]⟩ [] none)) :=
  eq_ok_of_toOption (by decide +kernel)

theorem crash_undecodableSite : (runCommand "" [] undecodableSite ["methods", "s.sln"]).crash.isSome = true := by
  decide +kernel

end SolutionSurvey
