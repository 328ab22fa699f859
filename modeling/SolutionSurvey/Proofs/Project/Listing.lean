import SolutionSurvey.Proofs.Files.Expansion
import SolutionSurvey.Proofs.Project.Sources

/-!
# Projects in directories that are listed otherwise

A project is the same in any two file trees that differ only in the order in which directories list their
entries: the sources that its scan finds come in the order of the scan, and those of an item in the order of
their texts.

## Main definitions

* `Site.Relisted.sources_eq` — the sources of a project do not depend on listings.
* `Project.load_relisted` — what the scan of a project takes, and that nothing about the project depends on
  listings.
-/

namespace SolutionSurvey

namespace Site.Relisted

variable {s s' : Site} {rule : ScanRule} {directory : FilePath} {root : Xml.Element}

/-- What an item stands for does not depend on listings. -/
theorem paths_eq (h : s.Relisted s') (hs : s.Sound) (habsolute : directory.isAbsolute)
    (hdirectory : ∀ n ∈ directory.segments, FilePath.IsWritten n) (item : Manifest.Item) :
    item.paths s' directory = item.paths s directory := by
  have hnormalize : s'.normalize = s.normalize := funext h.normalize_eq
  cases item with
  | property written => rfl
  | file written => rw [Manifest.Item.paths, Manifest.Item.paths, hnormalize]
  | pattern written =>
      have hjoin : (directory.join (.ofText written)).isAbsolute ∧
          ∀ n ∈ (directory.join (.ofText written)).segments, FilePath.IsWritten n := by
        have hwritten := FilePath.isWritten_segmentsOf written
        rw [FilePath.join]
        split
        · next hroot => exact ⟨hroot, hwritten⟩
        · exact ⟨habsolute, List.forall_mem_append.mpr ⟨hdirectory, hwritten⟩⟩
      rw [Manifest.Item.paths, Manifest.Item.paths, hnormalize, h.expandFiles_eq hs hjoin.1 hjoin.2]

/-- **The sources of a project do not depend on listings.** -/
theorem sources_eq (h : s.Relisted s') (hs : s.Sound) (habsolute : directory.isAbsolute)
    (hdirectory : ∀ n ∈ directory.segments, FilePath.IsWritten n) :
    Manifest.sources s' rule directory root = Manifest.sources s rule directory root := by
  have hnormalize : s'.normalize = s.normalize := funext h.normalize_eq
  have hscan : Manifest.defaultSources s' rule directory root = Manifest.defaultSources s rule directory root := by
    rw [Manifest.defaultSources, Manifest.defaultSources, h.scan_eq hs, hnormalize]
  have hpaths : Manifest.Item.paths s' directory = Manifest.Item.paths s directory :=
    funext (h.paths_eq hs habsolute hdirectory)
  have hitem : Manifest.expandItem s' directory = Manifest.expandItem s directory := by
    funext raw
    rw [Manifest.expandItem, Manifest.expandItem, hpaths]
  rw [Manifest.sources, Manifest.sources, hscan, Manifest.includedSources, Manifest.includedSources,
    Manifest.removedSources, Manifest.removedSources, hitem, hnormalize]

theorem load_manifest_eq (h : s.Relisted s') (hs : s.Sound) (p : FilePath) :
    Manifest.load s' p = Manifest.load s p := by
  rw [Manifest.load, Manifest.load, h.read_eq hs]

/-- References are resolved along paths, without a look at the file tree. -/
theorem references_eq (h : s.Relisted s') (known : KnownProjects) (directory : FilePath) (root : Xml.Element) :
    Manifest.references s' known directory root = Manifest.references s known directory root ∧
      Manifest.unresolved s' known directory root = Manifest.unresolved s known directory root := by
  have hresolve : Manifest.resolve s' known directory = Manifest.resolve s known directory := by
    funext written
    rw [Manifest.resolve, Manifest.resolve, h.normalize_eq]
  exact ⟨by rw [Manifest.references, Manifest.references, hresolve],
    by rw [Manifest.unresolved, Manifest.unresolved, hresolve]⟩

end Site.Relisted

namespace Project

variable {s : Site}

/-- The directory of a manifest that is read has names that stand for themselves. -/
theorem isWritten_of_load (hs : s.Sound) {p : FilePath} {root : Xml.Element}
    (hroot : Manifest.load s (s.normalize p) = .ok root) :
    ∀ n ∈ (s.normalize p).segments, FilePath.IsWritten n := by
  obtain ⟨bytes, hread, -⟩ := bind_eq_ok.mp hroot
  obtain ⟨t, hfind⟩ : ∃ t, s.find (s.normalize p) = .ok t := by
    rw [Site.read] at hread
    split at hread
    · cases hread
    · cases hfind : s.find (s.normalize p) with
      | ok t => exact ⟨t, rfl⟩
      | error e => rw [hfind] at hread; cases hread
  have habsolute : (s.normalize p).isAbsolute := FilePath.isAbsolute_normalize hs.absolute p
  have hsegments : s.segments (s.normalize p) = (s.normalize p).segments := by
    rw [Site.segments, FilePath.join, if_pos habsolute]
  rw [Site.find, hsegments] at hfind
  exact hs.tree.isWritten (fun n hn => FilePath.isName_of_mem_resolveDots hn) hfind

/-- **What the scan of a project takes, and what listings have to do with it**: in a site with a sound file
tree, a scan of a directory takes each file with one of the extensions, if no directory on the way to it has an
excluded name, once and in the order of a scan; and in a site that differs only in the order in which
directories list their entries, a project is opened with the same outcome and the same notes. -/
theorem load_relisted (hs : s.Sound) (rule : ScanRule) :
    (∀ directory, ∃ xs, s.scan rule directory = xs.map directory.below ∧ s.Scanned rule directory xs) ∧
      ∀ s' q, s.Relisted s' → load s' rule q = load s rule q := by
  refine ⟨Site.scanned_scan hs.tree rule, fun s' q h => ?_⟩
  rw [load, load, h.normalize_eq, h.load_manifest_eq hs]
  cases hroot : Manifest.load s (s.normalize q.path) with
  | error f => rfl
  | ok root =>
      have habsolute : (s.normalize q.path).parent.isAbsolute := FilePath.isAbsolute_normalize hs.absolute q.path
      have hdirectory : ∀ n ∈ (s.normalize q.path).parent.segments, FilePath.IsWritten n := fun n hn =>
        isWritten_of_load hs hroot n (List.dropLast_subset _ hn)
      obtain ⟨hreferences, hunresolved⟩ := h.references_eq q.known (s.normalize q.path).parent root
      simp only [ofManifest, h.sources_eq hs habsolute hdirectory, hreferences, hunresolved]

/-- A manifest that finds its sources by a scan and by a pattern. -/
def patternManifest : String :=
  "<Project Sdk='K'><Compile Include='../Shared/**/*.cs' /></Project>"

/-- A directory with entries of a project and of one beside it. -/
def listedSite (app shared : List (String × FileTree)) : Site where
  tree := .dir [("w", .dir [("Shared", .dir shared), ("App", .dir app)])]
  here := ⟨1, ["w"]⟩
  home := ⟨1, ["w"]⟩

/-- The entries of a project with an excluded directory. -/
def appEntries : List (String × FileTree) :=
  [("App.csproj", .file patternManifest.toUTF8.toList), ("B.cs", .file []), ("obj", .dir [("X.cs", .file [])]),
    ("A.cs", .file [])]

/-- The entries of a directory of sources. -/
def sharedEntries : List (String × FileTree) :=
  [("D.cs", .file []), ("C.cs", .file [])]

/-- Two directories are listed backwards. -/
theorem load_relisted_backwards :
    (listedSite appEntries sharedEntries).Sound ∧
      (listedSite appEntries sharedEntries).Relisted (listedSite appEntries.reverse sharedEntries.reverse) ∧
      (∃ xs, (listedSite appEntries sharedEntries).scan ⟨["Obj"], [".cs"]⟩ ⟨1, ["w", "App"]⟩ =
          xs.map (⟨1, ["w", "App"]⟩ : FilePath).below ∧
        (listedSite appEntries sharedEntries).Scanned ⟨["Obj"], [".cs"]⟩ ⟨1, ["w", "App"]⟩ xs) ∧
      load (listedSite appEntries.reverse sharedEntries.reverse) ⟨["Obj"], [".cs"]⟩ mixedRequest =
        load (listedSite appEntries sharedEntries) ⟨["Obj"], [".cs"]⟩ mixedRequest := by
  have hsound : (listedSite appEntries sharedEntries).Sound := by
    refine ⟨?_, by decide⟩
    simp [listedSite, appEntries, sharedEntries, FileTree.WellFormed, FileTree.WellFormedEntries, IsName]
  have hrelisted : (listedSite appEntries sharedEntries).Relisted
      (listedSite appEntries.reverse sharedEntries.reverse) := by
    -- First the sources are listed otherwise, and then the project.
    let between : FileTree := .dir [("Shared", .dir sharedEntries.reverse), ("App", .dir appEntries)]
    refine ⟨.inside [] [] "w" (.trans (u := between) ?_ ?_), rfl, rfl⟩
    · exact .inside [] [("App", .dir appEntries)] "Shared" (.perm (List.reverse_perm _).symm)
    · exact .inside [("Shared", .dir sharedEntries.reverse)] [] "App" (.perm (List.reverse_perm _).symm)
  obtain ⟨hscan, hload⟩ := load_relisted hsound ⟨["Obj"], [".cs"]⟩
  exact ⟨hsound, hrelisted, hscan ⟨1, ["w", "App"]⟩, hload _ mixedRequest hrelisted⟩

end Project

end SolutionSurvey
