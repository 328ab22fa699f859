import SolutionSurvey.Project.Open
import SolutionSurvey.Proofs.Files.Copies
import SolutionSurvey.Proofs.Project.Sources

/-!
# Moving a project

A project whose items do not lead out of its directory has the same documents wherever a copy of the
directory stands, seen from there. The scan and the items that name files follow the directory wherever it
is. Items that are patterns do so only if no name on the way to the directory is a pattern itself: such a
name is read as one together with the item, and then stands for other directories.

## Main definitions

* `Manifest.StaysInside` — the items of a manifest do not lead out of its directory.
* `ProjectTree` — a directory with a manifest whose items stay inside.
* `Project.localPaths` — the documents of a project, seen from a directory.
* `Project.load_relocated` — the documents of two copies, with `Project.not_load_relocated` for a copy
  whose directory has a pattern for a name.
-/

namespace SolutionSurvey

/-! ## Items -/

namespace Manifest

/-- What an item stands for is relative and does not lead out of the directory. -/
def Item.Inside : Item → Prop
  | .property _ => True
  | .pattern written =>
    (FilePath.ofText written).slashes = 0 ∧ InsideFrom 0 (FilePath.ofText written).segments
  | .file written =>
    (FilePath.ofText written).slashes = 0 ∧ (climb 0 (FilePath.ofText written).segments).isSome

/-- Whether an item is a pattern. -/
def Item.isPattern : Item → Bool
  | .pattern _ => true
  | _ => false

instance : ∀ item : Item, Decidable item.Inside
  | .property _ => inferInstanceAs (Decidable True)
  | .pattern _ => inferInstanceAs (Decidable (_ ∧ _))
  | .file _ => inferInstanceAs (Decidable (_ ∧ _))

/-- All that the items of a manifest say, those that include sources before those that remove them. -/
def items (root : Xml.Element) : List Item :=
  (itemValues "Include" root ++ itemValues "Remove" root).flatMap itemParts

/-- The items of a manifest do not lead out of its directory. -/
def StaysInside (root : Xml.Element) : Prop :=
  ∀ item ∈ items root, item.Inside

instance (root : Xml.Element) : Decidable (StaysInside root) :=
  inferInstanceAs (Decidable (∀ item ∈ items root, item.Inside))

/-- Whether some item of a manifest is a pattern. -/
def hasPattern (root : Xml.Element) : Bool :=
  (items root).any Item.isPattern

end Manifest

/-! ## Project trees -/

/-- A directory with a manifest whose items do not lead out of it. -/
structure ProjectTree where
  entries : List (String × FileTree)
  manifest : String
  content : List UInt8
  root : Xml.Element
  proper : (FileTree.dir entries).Proper
  noNull : FilePath.holdsNull manifest = false
  found : entries.lookup manifest = some (.file content)
  parsed : Xml.parse content = .ok root
  inside : Manifest.StaysInside root

/-- No name of a directory is a pattern. -/
def FilePath.IsPlain (directory : FilePath) : Prop :=
  ∀ n ∈ directory.segments, Wild.isPattern n = false

instance (directory : FilePath) : Decidable directory.IsPlain :=
  inferInstanceAs (Decidable (∀ n ∈ directory.segments, Wild.isPattern n = false))

/-- The documents of a project as they are seen from a directory, nothing for one that is not below it. -/
def Project.localPaths (directory : FilePath) (p : Project) : List (Option FilePath) :=
  p.documents.map fun document => document.path.bind fun path => path.relativeTo? directory

section Copies

variable {t : ProjectTree} {s s' : Site} {d d' : FilePath}

/-! ## The manifest -/

theorem ProjectTree.manifest_isName (t : ProjectTree) : IsName t.manifest :=
  (t.proper.of_lookup t.found).1

/-- The manifest of a copy is the one of the tree. -/
theorem Site.Holds.load_manifest (h : s.Holds d t.entries) :
    Manifest.load s (d.child t.manifest) = .ok t.root := by
  have hname := t.manifest_isName
  have hfind : s.find (d.child t.manifest) = .ok (.file t.content) := by
    have hbelow := h.find_below (Stays.nil.append_segment ⟨hname.1, hname.2.1⟩ hname.2.2)
    rw [List.nil_append] at hbelow
    refine hbelow.trans ?_
    simp [FileTree.find, FileTree.descend, hname.2.1, hname.2.2, t.found, Except.map]
  have hnull : FilePath.holdsNull (d.child t.manifest).toText = false :=
    FilePath.holdsNull_toText (List.forall_mem_append.mpr ⟨h.noNull, by simpa using t.noNull⟩)
  simp [Manifest.load, Site.read, hnull, hfind, t.parsed, bind, Except.bind]

/-! ## Sources -/

namespace Manifest

theorem segmentsOf_plain (written : String) :
    ∀ n ∈ (FilePath.ofText written).segments, n ≠ "" ∧ n ≠ "." := by
  intro n hn
  simpa using (List.mem_filter.mp hn).2

theorem join_ofText {written : String} (h : (FilePath.ofText written).slashes = 0) (d : FilePath) :
    d.join (.ofText written) = d.below (FilePath.ofText written).segments := by
  simp [FilePath.join, FilePath.isAbsolute, h, FilePath.below]

/-- **What one item stands for** is alike in two copies. -/
theorem alike_paths (h : s.Holds d t.entries) (h' : s'.Holds d' t.entries) {item : Item}
    (hinside : item.Inside) (hplain : item.isPattern → d.IsPlain ∧ d'.IsPlain) :
    Alike d d' (fun _ => True) (item.paths s d) (item.paths s' d') := by
  cases item with
  | property written => exact Alike.nil
  | pattern written =>
      obtain ⟨hrelative, hinside⟩ := hinside
      obtain ⟨hd, hd'⟩ := hplain rfl
      rw [Item.paths, Item.paths, join_ofText hrelative, join_ofText hrelative]
      exact (h.alike_expandFiles h' t.proper hd hd' (segmentsOf_plain written) hinside).map
        (fun x hx => h.normalize_below hx) fun x hx => h'.normalize_below hx
  | file written =>
      obtain ⟨hrelative, hinside⟩ := hinside
      obtain ⟨k, hk⟩ := Option.isSome_iff_exists.mp hinside
      have hstays : Stays 0 (FilePath.ofText written).segments :=
        ⟨segmentsOf_plain written, k, hk, Nat.zero_le k⟩
      rw [Item.paths, Item.paths, join_ofText hrelative, join_ofText hrelative, h.normalize_below hstays,
        h'.normalize_below hstays]
      exact Alike.single trivial

/-- What a list of values stands for, part by part. -/
theorem alike_expandItem (h : s.Holds d t.entries) (h' : s'.Holds d' t.entries) {raws : List String}
    (hitems : ∀ item ∈ raws.flatMap itemParts, item.Inside ∧ (item.isPattern → d.IsPlain ∧ d'.IsPlain)) :
    Alike d d' (fun _ => True) (raws.flatMap (expandItem s d)) (raws.flatMap (expandItem s' d')) := by
  refine Alike.flatMap_items fun raw hraw => Alike.flatMap_items fun item hitem => ?_
  obtain ⟨hinside, hplain⟩ := hitems item (List.mem_flatMap.mpr ⟨raw, hraw, hitem⟩)
  exact alike_paths h h' hinside hplain

theorem alike_defaultSources (h : s.Holds d t.entries) (h' : s'.Holds d' t.entries) (rule : ScanRule) :
    Alike d d' (fun _ => True) (defaultSources s rule d t.root) (defaultSources s' rule d' t.root) := by
  rw [defaultSources, defaultSources]
  split
  · exact (h.alike_scan h' t.proper rule).map (fun x hx => h.normalize_below hx) fun x hx =>
      h'.normalize_below hx
  · exact Alike.nil

/-- **The sources of two copies are alike**, if no directory is a pattern together with an item. -/
theorem alike_sources (h : s.Holds d t.entries) (h' : s'.Holds d' t.entries) (rule : ScanRule)
    (hplain : hasPattern t.root → d.IsPlain ∧ d'.IsPlain) :
    Alike d d' (fun _ => True) (sources s rule d t.root) (sources s' rule d' t.root) := by
  have hitems : ∀ item ∈ items t.root, item.Inside ∧ (item.isPattern → d.IsPlain ∧ d'.IsPlain) :=
    fun item hitem => ⟨t.inside item hitem, fun hpattern =>
      hplain (List.any_eq_true.mpr ⟨item, hitem, hpattern⟩)⟩
  rw [items, List.flatMap_append] at hitems
  obtain ⟨hincluded, hremoved⟩ := List.forall_mem_append.mp hitems
  have hdefault := alike_defaultSources h h' rule
  have hincluded := alike_expandItem h h' hincluded
  have hremoved := alike_expandItem h h' hremoved
  rw [sources_eq (hdefault.isAbsolute_left h.absolute) (hincluded.isAbsolute_left h.absolute)
      (hremoved.isAbsolute_left h.absolute),
    sources_eq (hdefault.isAbsolute_right h'.absolute) (hincluded.isAbsolute_right h'.absolute)
      (hremoved.isAbsolute_right h'.absolute)]
  exact (hdefault.append hincluded).eraseDups.filter_not_contains hremoved

end Manifest

/-! ## Documents -/

namespace Project

theorem localPaths_ofManifest (rule : ScanRule) (q : ProjectRequest) (d : FilePath) (manifest : String)
    (root : Xml.Element) :
    (ofManifest s rule q (d.child manifest) root).localPaths d =
      (Manifest.sources s rule d root).map fun path => path.relativeTo? d := by
  simp [localPaths, ofManifest, FilePath.child, FilePath.parent, Document.ofPath, Function.comp_def]

theorem load_of_holds (h : s.Holds d t.entries) (rule : ScanRule) {q : ProjectRequest}
    (hq : s.normalize q.path = d.child t.manifest) :
    (load s rule q).outcome = .ok (ofManifest s rule q (d.child t.manifest) t.root) := by
  simp only [load, hq, h.load_manifest]

/-- **A project has the same documents wherever it stands**: two copies of a project tree both open, all
documents stand below the directory, and they are the same seen from there. Where an item is a pattern, no
name of the directories may be one. -/
theorem load_relocated (t : ProjectTree) (h : s.Holds d t.entries) (h' : s'.Holds d' t.entries)
    (hplain : Manifest.hasPattern t.root → d.IsPlain ∧ d'.IsPlain) (rule : ScanRule)
    {q q' : ProjectRequest} (hq : s.normalize q.path = d.child t.manifest)
    (hq' : s'.normalize q'.path = d'.child t.manifest) :
    ∃ p p', (load s rule q).outcome = .ok p ∧ (load s' rule q').outcome = .ok p' ∧
      p.localPaths d = p'.localPaths d' ∧ none ∉ p.localPaths d := by
  have halike := Manifest.alike_sources h h' rule hplain
  refine ⟨_, _, load_of_holds h rule hq, load_of_holds h' rule hq', ?_, ?_⟩
  · rw [localPaths_ofManifest, localPaths_ofManifest]
    exact halike.map_relativeTo?
  · rw [localPaths_ofManifest]
    exact halike.none_notMem_map_relativeTo?

end Project

end Copies

/-! ## Copies of one tree -/

namespace Project

/-- A manifest that includes all sources below its directory and one more, less one. -/
def gatheringManifest : String :=
  "<Project><Compile Include='**/*.cs;Model/../Late.cs' /><Compile Remove='Old.cs' /></Project>"

/-- The entries of a directory with that manifest. -/
def gatheringEntries : List (String × FileTree) :=
  [("App.csproj", .file gatheringManifest.toUTF8.toList),
    ("Model", .dir [("A.cs", .file []), ("notes.txt", .file [])])]

theorem proper_gatheringEntries : (FileTree.dir gatheringEntries).Proper := by
  simp [FileTree.Proper, FileTree.ProperEntries, gatheringEntries, IsName]

/-- The root element of that manifest. -/
def gatheringRoot : Xml.Element :=
  (Xml.parse gatheringManifest.toUTF8.toList).toOption.getD default

theorem parse_gatheringManifest : Xml.parse gatheringManifest.toUTF8.toList = .ok gatheringRoot :=
  eq_ok_getD (by decide +kernel)

/-- The tree of that directory. -/
def gatheringTree : ProjectTree where
  entries := gatheringEntries
  manifest := "App.csproj"
  content := gatheringManifest.toUTF8.toList
  root := gatheringRoot
  proper := proper_gatheringEntries
  noNull := by decide
  found := rfl
  parsed := parse_gatheringManifest
  inside := by decide +kernel

/-- Three copies of the tree, one of them in a directory with a pattern for a name. -/
def gatheringSite : Site where
  tree := .dir [("w", .dir [("first", .dir gatheringEntries), ("second", .dir gatheringEntries),
    ("a[b]", .dir gatheringEntries)])]
  here := ⟨1, ["w"]⟩
  home := ⟨1, ["w"]⟩

theorem holds_gatheringSite {name : String} (hname : name ∈ ["first", "second", "a[b]"]) :
    gatheringSite.Holds ⟨1, ["w", name]⟩ gatheringTree.entries := by
  simp only [List.mem_cons, List.not_mem_nil, or_false] at hname
  obtain rfl | rfl | rfl := hname
  all_goals exact ⟨rfl, by simp [IsName], by decide, rfl⟩

/-- The request to open one of the copies. -/
def gatheringRequest (name : String) : ProjectRequest :=
  ⟨⟨0, [name, "App.csproj"]⟩, none, none, []⟩

theorem load_relocated_gatheringSite :
    ∃ p p', (load gatheringSite ⟨[], []⟩ (gatheringRequest "first")).outcome = .ok p ∧
      (load gatheringSite ⟨[], []⟩ (gatheringRequest "second")).outcome = .ok p' ∧
      p.localPaths ⟨1, ["w", "first"]⟩ = p'.localPaths ⟨1, ["w", "second"]⟩ ∧
      none ∉ p.localPaths ⟨1, ["w", "first"]⟩ :=
  load_relocated gatheringTree (holds_gatheringSite (by decide)) (holds_gatheringSite (by decide))
    (fun _ => ⟨by decide, by decide⟩) ⟨[], []⟩ (by decide +kernel) (by decide +kernel)

/-- A copy whose directory has a pattern for a name need not have the documents of the others. -/
theorem not_load_relocated :
    ¬ ∀ (t : ProjectTree) (s s' : Site) (d d' : FilePath) (rule : ScanRule) (q q' : ProjectRequest),
      s.Holds d t.entries → s'.Holds d' t.entries → s.normalize q.path = d.child t.manifest →
      s'.normalize q'.path = d'.child t.manifest →
      ∀ p p', (load s rule q).outcome = .ok p → (load s' rule q').outcome = .ok p' →
        p.localPaths d = p'.localPaths d' := by
  intro hall
  have hfirst : gatheringSite.Holds ⟨1, ["w", "first"]⟩ gatheringTree.entries :=
    holds_gatheringSite (by decide)
  have hnamed : gatheringSite.Holds ⟨1, ["w", "a[b]"]⟩ gatheringTree.entries :=
    holds_gatheringSite (by decide)
  have hq : gatheringSite.normalize (gatheringRequest "first").path =
      FilePath.child ⟨1, ["w", "first"]⟩ gatheringTree.manifest := by decide +kernel
  have hq' : gatheringSite.normalize (gatheringRequest "a[b]").path =
      FilePath.child ⟨1, ["w", "a[b]"]⟩ gatheringTree.manifest := by decide +kernel
  have hsame := hall gatheringTree _ _ _ _ ⟨[], []⟩ _ _ hfirst hnamed hq hq' _ _
    (load_of_holds hfirst _ hq) (load_of_holds hnamed _ hq')
  rw [localPaths_ofManifest, localPaths_ofManifest] at hsame
  exact absurd hsame (by decide +kernel)

end Project

end SolutionSurvey
