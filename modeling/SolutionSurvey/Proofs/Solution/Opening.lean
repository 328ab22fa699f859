import SolutionSurvey.Proofs.Solution.Listing
import SolutionSurvey.Proofs.Solution.Resolution
import SolutionSurvey.Proofs.Text.Casing

/-!
# Opening a listed solution

The entries of a solution file whose path ends in the suffix of manifests, in any case, are the listed
projects. Those of them whose manifest is a file are loaded, in the order in which they are listed and
under the names and identities that they are listed with.

## Main definitions

* `Listing.Entry.isListed`, `Listing.Entry.manifest` — the entries that can be loaded, and from where.
* `Solution.listed_layout` — the listed projects of a layout.
* `Solution.exists_loadListed` — what is listed can be loaded if the manifests that exist can be read.
* `Solution.load_layout` — the projects of a solution file that is laid out.
-/

namespace SolutionSurvey

/-! ## Listed projects -/

namespace Listing.Entry

/-- Whether the path of an entry, without surrounding blanks, ends in the suffix of manifests in any
case. -/
def isListed (e : Entry) : Bool :=
  manifestSuffix.toList.isSuffixOf ((Manifest.slashed e.path).toList.map Char.toLower)

/-- The manifest of an entry, read from the directory of the solution. -/
def manifest (s : Site) (directory : FilePath) (e : Entry) : FilePath :=
  s.normalize (directory.join (.ofText (Manifest.slashed e.path)))

/-- The project that an entry lists. -/
def project (s : Site) (directory : FilePath) (e : Entry) : ListedProject :=
  ⟨e.name, e.manifest s directory, .ofText e.guid⟩

end Listing.Entry

theorem ListedProject.ofEntry?_eq (s : Site) (directory : FilePath) (e : Listing.Entry) :
    ofEntry? s directory e = if e.isListed then some (e.project s directory) else none := by
  have hplain : ∀ d ∈ manifestSuffix.toList, Text.IsPlain d := by
    have hall : manifestSuffix.toList.all (Text.IsPlain ·) = true := by decide
    simpa only [List.all_eq_true, decide_eq_true_eq] using hall
  unfold ofEntry?
  simp only [Text.isSuffixOf_lower hplain]
  rfl

/-- The text of a file that is laid out. -/
theorem decodeFile_layout {bytes : List UInt8} {cs : List Char}
    (h : Encoding.decodeUtf8Signed bytes = .ok cs) :
    decodeFile "utf-8-sig" bytes = .ok (String.ofList (unifyNewlines cs)) := by
  rw [decodeFile_utf8Signed, h]
  rfl

namespace Solution

variable {s : Site} {rule : ScanRule}

/-- The listed projects of a layout are those of its entries with the suffix of manifests. -/
theorem listed_layout (s : Site) (directory : FilePath) (l : Listing.Layout) :
    listed s directory (String.ofList (unifyNewlines l.text)) =
      (l.entries.filter Listing.Entry.isListed).map (Listing.Entry.project s directory) := by
  rw [listed, Listing.entries, String.toList_ofList, l.entriesFrom_text]
  induction l.entries with
  | nil => rfl
  | cons e es ih =>
      rw [List.filterMap_cons, ListedProject.ofEntry?_eq, List.filter_cons]
      cases e.isListed with
      | true => simp [ih]
      | false => simp [ih]

/-! ## Loaded projects -/

/-- What is listed is loaded if all manifests that exist can be read. -/
theorem exists_loadListed (solution : FilePath) (known : KnownProjects) {ls : List ListedProject}
    (h : ∀ l ∈ ls, s.isFile l.path = true → ∃ root, Manifest.load s (s.normalize l.path) = .ok root) :
    ∃ ps, (loadListed s rule solution known ls).outcome = .ok ps := by
  induction ls with
  | nil => exact ⟨[], rfl⟩
  | cons l ls ih =>
      rw [List.forall_mem_cons] at h
      obtain ⟨ps, hps⟩ := ih h.2
      cases hfile : s.isFile l.path with
      | true =>
          obtain ⟨root, hroot⟩ := h.1 hfile
          let request : ProjectRequest := ⟨l.path, some l.id, some l.name, known⟩
          have hload : (Project.load s rule request).outcome =
              .ok (.ofManifest s rule request (s.normalize l.path) root) := by
            simp only [Project.load, request, hroot]
          rw [loadListed, if_pos hfile]
          exact ⟨_, Noted.bind_outcome_eq_ok.mpr ⟨_, hload, Noted.bind_outcome_eq_ok.mpr ⟨ps, hps, rfl⟩⟩⟩
      | false =>
          refine ⟨ps, ?_⟩
          rw [loadListed, if_neg (by simp [hfile]), Noted.bind_outcome_eq_ok]
          exact ⟨(), rfl, hps⟩

/-- A loaded project has the name and the identity that it is listed with. -/
theorem LoadedFrom.map_eq {known : KnownProjects} {ls : List ListedProject} {ps : List Project}
    (h : LoadedFrom s rule known ls ps) (hnames : ∀ l ∈ ls, l.name ≠ "") :
    ps.map (fun p => (p.name, p.id, p.path)) =
      (ls.filter fun l => s.isFile l.path).map fun l => (l.name, l.id, some (s.normalize l.path)) := by
  refine h.map_eq_map fun l hl p hload => ?_
  obtain ⟨root, -, rfl⟩ := hload
  simp [Project.ofManifest, hnames l hl]

/-- **The projects of a solution file.** A file whose text is a layout of entries lists exactly these
entries, in order. Those whose path ends in the suffix of manifests are the listed projects; if the
manifests of these that exist can be read, the solution is opened, and its projects are the listed ones
whose manifest is a file, in the same order, with their names and identities. -/
theorem load_layout (rule : ScanRule) {p : FilePath} {bytes : List UInt8} {l : Listing.Layout}
    (hfile : s.read (s.normalize p) = .ok bytes)
    (htext : Encoding.decodeUtf8Signed bytes = .ok l.text)
    (hmanifests : ∀ e ∈ l.entries, e.isListed = true →
      s.isFile (e.manifest s (s.normalize p).parent) = true →
      ∃ root, Manifest.load s (s.normalize (e.manifest s (s.normalize p).parent)) = .ok root) :
    ∃ text sol, (s.read (s.normalize p)).bind (decodeFile "utf-8-sig") = .ok text ∧
      Listing.entries text = l.entries ∧
      listed s (s.normalize p).parent text =
        (l.entries.filter Listing.Entry.isListed).map (Listing.Entry.project s (s.normalize p).parent) ∧
      (load s rule p).outcome = .ok sol ∧
      sol.projects.map (fun q => (q.name, q.id, q.path)) =
        ((l.entries.filter Listing.Entry.isListed).filter fun e =>
            s.isFile (e.manifest s (s.normalize p).parent)).map fun e =>
          (e.name, ProjectId.ofText e.guid,
            some (s.normalize (e.manifest s (s.normalize p).parent))) := by
  have hdecoded : (s.read (s.normalize p)).bind (decodeFile "utf-8-sig") =
      .ok (String.ofList (unifyNewlines l.text)) := by
    simp only [hfile, Except.bind]
    exact decodeFile_layout htext
  have hentries : Listing.entries (String.ofList (unifyNewlines l.text)) = l.entries := by
    rw [Listing.entries, String.toList_ofList, l.entriesFrom_text]
  have hlisted := listed_layout s (s.normalize p).parent l
  have hread : ∀ m ∈ listed s (s.normalize p).parent (String.ofList (unifyNewlines l.text)),
      s.isFile m.path = true → ∃ root, Manifest.load s (s.normalize m.path) = .ok root := by
    simp only [hlisted, List.forall_mem_map, List.mem_filter, and_imp]
    exact hmanifests
  obtain ⟨ps, hps⟩ := exists_loadListed (s.normalize p)
    (known (listed s (s.normalize p).parent (String.ofList (unifyNewlines l.text)))) hread
  have hsol : (load s rule p).outcome = .ok ⟨some (s.normalize p), ps⟩ := by
    refine Noted.bind_outcome_eq_ok.mpr ⟨_, hdecoded, ?_⟩
    refine Noted.bind_outcome_eq_ok.mpr ⟨ps, hps, ?_⟩
    exact Noted.bind_outcome_eq_ok.mpr ⟨(), rfl, rfl⟩
  refine ⟨_, _, hdecoded, hentries, hlisted, hsol, ?_⟩
  have hnames : ∀ m ∈ listed s (s.normalize p).parent (String.ofList (unifyNewlines l.text)),
      m.name ≠ "" := by
    simp only [hlisted, List.forall_mem_map, List.mem_filter, and_imp]
    intro e he _
    obtain ⟨b, hb, rfl⟩ := List.mem_map.mp he
    exact (l.placed b hb).writable.name.ne_empty
  rw [(loadListed_spec hps).map_eq hnames, hlisted, List.filter_map, List.map_map]
  simp only [Function.comp_def, Listing.Entry.project]

/-! ## A solution file in an odd style -/

/-- An entry whose name goes over a line end and has the word that starts an entry in it. -/
def oddBlock : Listing.Block :=
  ⟨"# Odd\r\n".toList, ['\t'], ⟨"P", "Odd\nProject(1)", " App\\App.CsProj", "\x7ba"⟩⟩

/-- An entry that is no project. -/
def folderBlock : Listing.Block :=
  ⟨"\r\nEndProject\r".toList, [], ⟨"F", "docs", "docs", "D"⟩⟩

/-- An entry whose manifest is not there. -/
def goneBlock : Listing.Block :=
  ⟨" \nEndProject\n\n".toList, [' ', ' '], ⟨"P", "Gone", "Gone\\Gone.csproj", "B"⟩⟩

/-- The three entries in one file. -/
def oddLayout : Listing.Layout where
  blocks := [oddBlock, folderBlock, goneBlock]
  tail := "\nEndProject\nGlobal".toList
  placed := by decide +kernel
  apart := by decide
  silent := by decide

/-- The solution file with the manifest of the first entry. -/
def oddSite : Site where
  tree := .dir [("s.sln", .file (String.ofList oddLayout.text).toUTF8.toList),
    ("App", .dir [("App.CsProj", .file "<Project/>".toUTF8.toList)])]
  here := ⟨1, []⟩
  home := ⟨1, []⟩

theorem read_oddSite : oddSite.read (oddSite.normalize (.ofText "s.sln")) =
    .ok (String.ofList oddLayout.text).toUTF8.toList := by
  rfl

theorem decode_oddSite :
    Encoding.decodeUtf8Signed (String.ofList oddLayout.text).toUTF8.toList = .ok oddLayout.text :=
  eq_ok_of_toOption (by decide +kernel)

/-- Of the three entries the first one is loaded, under its name and with its identity in upper case. -/
theorem load_layout_oddSite :
    oddSite.read (oddSite.normalize (.ofText "s.sln")) =
      .ok (String.ofList oddLayout.text).toUTF8.toList ∧
    Encoding.decodeUtf8Signed (String.ofList oddLayout.text).toUTF8.toList = .ok oddLayout.text ∧
    ∃ sol, (load oddSite ⟨["bin", "obj"], [".cs"]⟩ (.ofText "s.sln")).outcome = .ok sol ∧
      sol.projects.map (fun q => (q.name, q.id, q.path)) =
        [("Odd\nProject(1)", ⟨"A"⟩, some ⟨1, ["App", "App.CsProj"]⟩)] := by
  have hmanifests : ∀ e ∈ oddLayout.entries, e.isListed = true →
      oddSite.isFile (e.manifest oddSite (oddSite.normalize (.ofText "s.sln")).parent) = true →
      ((Manifest.load oddSite (oddSite.normalize (e.manifest oddSite
        (oddSite.normalize (.ofText "s.sln")).parent))).toOption).isSome = true := by
    decide +kernel
  obtain ⟨text, sol, -, -, -, hsol, hprojects⟩ :=
    load_layout ⟨["bin", "obj"], [".cs"]⟩ read_oddSite decode_oddSite
      fun e he hlisted hfile => by
        obtain ⟨root, hroot⟩ := Option.isSome_iff_exists.mp (hmanifests e he hlisted hfile)
        exact ⟨root, eq_ok_of_toOption hroot⟩
  refine ⟨read_oddSite, decode_oddSite, sol, hsol, ?_⟩
  rw [hprojects]
  decide +kernel

end Solution

end SolutionSurvey
