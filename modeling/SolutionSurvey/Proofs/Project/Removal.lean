import SolutionSurvey.Proofs.Files.Expansion
import SolutionSurvey.Proofs.Project.Relocation
import SolutionSurvey.Proofs.Project.References

/-!
# Removing all sources below a directory

A project whose sources are found by a scan can remove those below one of its directories again, by an item
that ends with two stars. The scan enters hidden directories and takes hidden files, and two stars pass them
over: so the item removes exactly the sources that are reached along names that are not hidden.

## Main definitions

* `Manifest.IsFolder` — the directories that an item can write, and `Manifest.allBelow`, the item for all that
  is below one of them.
* `Manifest.IsFolder.mem_expandItem`, `Manifest.IsFolder.mem_sources` — which sources the item stands for, and
  which of them are left.
* `Project.load_removed` — which of the sources that a scan finds below the directory are left, with
  `Project.not_load_removed` for a hidden one.
-/

namespace SolutionSurvey

/-! ## Joined texts -/

/-- Characters of joined names stand in a name or between two. -/
theorem mem_intercalate (separator : Char) {names : List String} {c : Char}
    (h : c ∈ ((String.singleton separator).intercalate names).toList) :
    c = separator ∨ ∃ n ∈ names, c ∈ n.toList := by
  induction names with
  | nil => cases h
  | cons first rest ih =>
      cases rest with
      | nil => exact .inr ⟨first, List.mem_cons_self, by simpa using h⟩
      | cons second rest =>
          simp only [String.intercalate_cons_cons, String.toList_append, String.toList_singleton, List.mem_append,
            List.mem_singleton] at h
          obtain (hfirst | hbetween) | hlater := h
          · exact .inr ⟨first, List.mem_cons_self, hfirst⟩
          · exact .inl hbetween
          · exact (ih hlater).imp_right fun ⟨n, hn, hc⟩ => ⟨n, List.mem_cons_of_mem first hn, hc⟩

namespace Manifest

/-- A text starts with another one as far as a character goes that the other one does not hold. -/
theorem isPrefixOf_append_cons {part : List Char} {c : Char} (hc : c ∉ part) (before after : List Char) :
    part.isPrefixOf (before ++ c :: after) = part.isPrefixOf before := by
  induction part generalizing before with
  | nil => cases before <;> rfl
  | cons d part ih =>
      obtain ⟨hd, hpart⟩ := not_or.mp (mt List.mem_cons.mpr hc)
      cases before with
      | nil => rw [List.nil_append, List.isPrefixOf_cons_cons, beq_false_of_ne (Ne.symm hd), Bool.false_and]; rfl
      | cons b before => rw [List.cons_append, List.isPrefixOf_cons_cons, ih hpart, List.isPrefixOf_cons_cons]

/-- What does not hold a character is part of a text with that character if it is on one side of it. -/
theorem hasPart_append_cons {part : List Char} {c : Char} (hc : c ∉ part) (hne : part ≠ [])
    (before after : List Char) :
    hasPart part (before ++ c :: after) = (hasPart part before || hasPart part after) := by
  induction before with
  | nil =>
      have hhead := isPrefixOf_append_cons hc [] after
      rw [List.nil_append] at hhead
      obtain ⟨d, part, rfl⟩ := List.exists_cons_of_ne_nil hne
      change ((d :: part).isPrefixOf (c :: after) || hasPart (d :: part) after) = _
      rw [hhead]
      rfl
  | cons b before ih =>
      have hhead := isPrefixOf_append_cons hc (b :: before) after
      rw [List.cons_append] at hhead
      rw [List.cons_append, hasPart, hhead, ih, hasPart, Bool.or_assoc]

theorem hasPart_intercalate (separator : Char) {part : List Char} (hc : separator ∉ part) (hne : part ≠ [])
    {names : List String} (h : ∀ n ∈ names, hasPart part n.toList = false) :
    hasPart part ((String.singleton separator).intercalate names).toList = false := by
  induction names with
  | nil =>
      obtain ⟨d, part, rfl⟩ := List.exists_cons_of_ne_nil hne
      rfl
  | cons first rest ih =>
      obtain ⟨hfirst, hrest⟩ := List.forall_mem_cons.mp h
      cases rest with
      | nil => simpa using hfirst
      | cons second rest =>
          have hchars : ((String.singleton separator).intercalate (first :: second :: rest)).toList =
              first.toList ++ separator :: ((String.singleton separator).intercalate (second :: rest)).toList := by
            simp [String.intercalate_cons_cons]
          rw [hchars, hasPart_append_cons hc hne, hfirst, ih hrest]
          rfl

/-- With slashes for what separates names, slashes separate them. -/
theorem map_slash_intercalate {names : List String} (h : ∀ n ∈ names, '\\' ∉ n.toList) :
    ("\\".intercalate names).toList.map slash = ("/".intercalate names).toList := by
  have hname {n : String} (hn : '\\' ∉ n.toList) : n.toList.map slash = n.toList := by
    have hkeep : ∀ c ∈ n.toList, slash c = c := fun c hc => if_neg fun heq : c = '\\' => hn (heq ▸ hc)
    rw [List.map_congr_left hkeep, List.map_id']
  induction names with
  | nil => rfl
  | cons first rest ih =>
      obtain ⟨hfirst, hrest⟩ := List.forall_mem_cons.mp h
      cases rest with
      | nil => simpa using hname hfirst
      | cons second rest =>
          simp only [String.intercalate_cons_cons, String.toList_append, List.map_append, hname hfirst, ih hrest]
          rfl

/-- A way down from the directory of a project that an item can write: no name on it is a pattern, and none
holds a character that separates names or items or starts a property. -/
structure IsFolder (folder : List String) : Prop where
  ne_nil : folder ≠ []
  names : ∀ n ∈ folder, IsName n
  plain : ∀ n ∈ folder, Wild.isPattern n = false
  unseparated : ∀ n ∈ folder, '/' ∉ n.toList ∧ '\\' ∉ n.toList ∧ ';' ∉ n.toList
  noProperty : ∀ n ∈ folder, hasPart ['$', '('] n.toList = false
  start : ∀ n ∈ folder.head?, ∀ c ∈ n.toList.head?, Text.isBlank c = false

/-- The text of an item for all that is below a directory. -/
def allBelow (folder : List String) : String :=
  "\\".intercalate (folder ++ [anyDepth])

namespace IsFolder

variable {folder : List String}

theorem isWritten (h : IsFolder folder) : ∀ n ∈ folder ++ [anyDepth], FilePath.IsWritten n := by
  refine List.forall_mem_append.mpr ⟨fun n hn => ?_, List.forall_mem_singleton.mpr (by decide)⟩
  exact ⟨(h.names n hn).1, (h.names n hn).2.1, (h.unseparated n hn).1⟩

/-- The item starts with the first name. -/
theorem head_allBelow (h : IsFolder folder) {c : Char} (hc : c ∈ (allBelow folder).toList.head?) :
    isSeparator c = false ∧ Text.isBlank c = false := by
  obtain ⟨first, rest, rfl⟩ := List.exists_cons_of_ne_nil h.ne_nil
  have hsplit : allBelow (first :: rest) = first ++ "\\" ++ "\\".intercalate (rest ++ [anyDepth]) :=
    String.intercalate_append_of_ne_nil (l := [first]) (by simp) (by simp)
  have hfirst : first.toList ≠ [] := by simpa using (h.names first List.mem_cons_self).1
  rw [hsplit, String.toList_append, String.toList_append, List.append_assoc,
    List.head?_append_of_ne_nil _ hfirst] at hc
  obtain ⟨hslash, hbackslash, -⟩ := h.unseparated first List.mem_cons_self
  have hmem : c ∈ first.toList := List.mem_of_mem_head? hc
  refine ⟨?_, h.start first rfl c hc⟩
  rw [isSeparator, Bool.or_eq_false_iff]
  exact ⟨beq_false_of_ne fun heq => hslash (heq ▸ hmem), beq_false_of_ne fun heq => hbackslash (heq ▸ hmem)⟩

theorem isTrimmed_allBelow (h : IsFolder folder) : Text.IsTrimmed (allBelow folder).toList := by
  refine ⟨fun c hc => (h.head_allBelow hc).2, fun c hc => ?_⟩
  have hsplit : allBelow folder = "\\".intercalate folder ++ "\\" ++ anyDepth := by
    rw [allBelow, String.intercalate_append_of_ne_nil h.ne_nil (by simp)]
    rfl
  rw [hsplit, String.toList_append, List.getLast?_append_of_ne_nil _ (by decide)] at hc
  obtain rfl : '*' = c := by simpa [anyDepth] using hc
  decide

/-- The item is relative. -/
theorem isRelative_allBelow (h : IsFolder folder) : IsRelative (allBelow folder) := by
  intro c hc
  rw [Text.trimChars_of_isTrimmed h.isTrimmed_allBelow] at hc
  exact (h.head_allBelow hc).1

/-- The item stands for the pattern with slashes. -/
theorem slashed_allBelow (h : IsFolder folder) :
    slashed (allBelow folder) = "/".intercalate (folder ++ [anyDepth]) := by
  rw [← String.toList_inj, toList_slashed, Text.trimChars_of_isTrimmed h.isTrimmed_allBelow, allBelow]
  refine map_slash_intercalate (List.forall_mem_append.mpr ⟨fun n hn => (h.unseparated n hn).2.1, ?_⟩)
  exact List.forall_mem_singleton.mpr (by decide)

/-- The item says one thing. -/
theorem itemParts_allBelow (h : IsFolder folder) :
    itemParts (allBelow folder) = [.pattern ("/".intercalate (folder ++ [anyDepth]))] := by
  have hone : splitText ';' (allBelow folder) = [allBelow folder] := by
    have hnone : ∀ c ∈ (allBelow folder).toList, (c == ';') = false := by
      intro c hc
      obtain rfl | ⟨n, hn, hcn⟩ := mem_intercalate '\\' hc
      · rfl
      · refine beq_false_of_ne ?_
        rintro rfl
        obtain hn | hn := List.mem_append.mp hn
        · exact (h.unseparated n hn).2.2 hcn
        · obtain rfl := List.mem_singleton.mp hn
          exact absurd hcn (by decide)
    rw [splitText, splitChars, List.splitOn_eq_splitOnP, List.splitOnP_eq_singleton hnone]
    simp
  have hlast : "/".intercalate (folder ++ [anyDepth]) = "/".intercalate folder ++ "/" ++ anyDepth := by
    rw [String.intercalate_append_of_ne_nil h.ne_nil (by simp)]
    rfl
  have hnonempty : "/".intercalate (folder ++ [anyDepth]) ≠ "" := by
    rw [hlast]
    simp [anyDepth]
  have hproperty : hasPart ['$', '('] ("/".intercalate (folder ++ [anyDepth])).toList = false := by
    refine hasPart_intercalate '/' (by decide) (by decide) ?_
    exact List.forall_mem_append.mpr ⟨h.noProperty, List.forall_mem_singleton.mpr (by decide)⟩
  have hpattern : Wild.isPattern ("/".intercalate (folder ++ [anyDepth])) = true := by
    rw [hlast]
    simp [Wild.isPattern, anyDepth]
  rw [itemParts, hone, List.filterMap_cons, Item.ofText?, h.slashed_allBelow]
  simp only [hnonempty, hproperty, hpattern, Bool.false_eq_true, if_false, if_true]
  rfl

end IsFolder

section Sources

variable {s : Site} {rule : ScanRule} {d : FilePath} {root : Xml.Element} {folder x : List String}

/-- What the scan of a project finds below its directory stands there under names. -/
theorem IsDefault.exists_below (hs : s.Sound) (habsolute : d.isAbsolute) (hnames : ∀ n ∈ d.segments, IsName n)
    {p : FilePath} (h : IsDefault s rule d root p) :
    ∃ z, p = d.below z ∧ (∀ n ∈ z, IsName n) ∧ s.isFile p := by
  obtain ⟨-, found, hfound, rfl⟩ := h
  obtain ⟨z, rfl, -, -, -, hzs, hfile, -⟩ := (Site.mem_scan hs.tree).mp hfound
  have hnormal : s.normalize (d.below z) = d.below z :=
    FilePath.normalize_of_names habsolute (List.forall_mem_append.mpr ⟨hnames, hzs⟩)
  rw [hnormal]
  exact ⟨z, rfl, hzs, hfile⟩

/-- A file below the directory is found by the scan if it has one of the extensions and is in no excluded
directory. -/
theorem isDefault_below (hs : s.Sound) (habsolute : d.isAbsolute) (hnames : ∀ n ∈ d.segments, IsName n)
    {above : List String} {name : String} (hscans : scans root) (hx : ∀ n ∈ above ++ [name], IsName n)
    (hfile : s.isFile (d.below (above ++ [name]))) (htaken : Text.lower (FilePath.suffixOf name) ∈ rule.extensions)
    (hentered : ∀ n ∈ above, ∀ excluded ∈ rule.excluded, Text.lower n ≠ Text.lower excluded) :
    IsDefault s rule d root (d.below (above ++ [name])) := by
  have hfound : d.below (above ++ [name]) ∈ s.scan rule d :=
    (Site.mem_scan hs.tree).mpr ⟨_, rfl, above, name, rfl, hx, hfile, htaken, hentered⟩
  exact ⟨hscans, _, hfound, FilePath.normalize_of_names habsolute (List.forall_mem_append.mpr ⟨hnames, hx⟩)⟩

/-- The paths of the item, before they are sorted. -/
theorem IsFolder.expand_allBelow (h : IsFolder folder) (hplain : d.IsPlain) :
    s.expand (d.below (folder ++ [anyDepth])) =
      (s.reach (d.below folder)).visible.map fun e => (d.below folder).below e.1 := by
  have htake : (folder ++ [anyDepth]).takeWhile (fun n => !Wild.isPattern n) = folder := by
    rw [List.takeWhile_append_of_pos fun n hn => by simp [h.plain n hn],
      List.takeWhile_cons_of_neg (by decide), List.append_nil]
  have hdrop : (folder ++ [anyDepth]).dropWhile (fun n => !Wild.isPattern n) = [anyDepth] := by
    rw [List.dropWhile_append_of_pos fun n hn => by simp [h.plain n hn],
      List.dropWhile_cons_of_neg (by decide)]
  have hall (l : List (List String × FileTree)) : (l.filter fun e => !false || e.2.isDir) = l :=
    List.filter_eq_self.mpr fun _ _ => rfl
  rw [Site.Holds.expand_below hplain, htake, hdrop, Site.expandFrom, Site.expandFrom, List.flatMap_singleton,
    Site.steps, if_pos rfl]
  change [] ++ ((s.reach (d.below folder)).visible.filter fun e => !false || e.2.isDir).map _ = _
  rw [hall]
  rfl

/-- **Which sources an item for all below a directory stands for**: those that are reached along names that are
not hidden. -/
theorem IsFolder.mem_expandItem (h : IsFolder folder) (hs : s.Sound) (habsolute : d.isAbsolute)
    (hnames : ∀ n ∈ d.segments, IsName n) (hplain : d.IsPlain) (hne : x ≠ []) (hx : ∀ n ∈ x, IsName n)
    (hfile : s.isFile (d.below (folder ++ x))) :
    d.below (folder ++ x) ∈ expandItem s d (allBelow folder) ↔ ∀ n ∈ x, isHidden n = false := by
  have hsegments : (FilePath.ofText ("/".intercalate (folder ++ [anyDepth]))).segments = folder ++ [anyDepth] :=
    FilePath.segmentsOf_intercalate h.isWritten
  have hslashes : (FilePath.ofText ("/".intercalate (folder ++ [anyDepth]))).slashes = 0 := by
    rw [← h.slashed_allBelow]
    exact slashes_ofText_slashed h.isRelative_allBelow
  have hbelow (y : List String) : (d.below folder).below y = d.below (folder ++ y) := by
    simp [FilePath.below]
  have hnormal {y : List String} (hy : ∀ n ∈ y, IsName n) :
      s.normalize (d.below (folder ++ y)) = d.below (folder ++ y) := by
    refine FilePath.normalize_of_names habsolute ?_
    exact List.forall_mem_append.mpr ⟨hnames, List.forall_mem_append.mpr ⟨h.names, hy⟩⟩
  rw [expandItem, h.itemParts_allBelow, List.flatMap_singleton, Item.paths, join_ofText hslashes, hsegments]
  simp only [Site.expandFiles, List.mem_map, List.mem_mergeSort, List.mem_filter, h.expand_allBelow hplain]
  constructor
  · rintro ⟨-, ⟨⟨⟨y, u⟩, hvisible, rfl⟩, -⟩, hsame⟩
    obtain ⟨-, hy, -⟩ := (Site.mem_visible_reach hs.tree).mp hvisible
    rw [hbelow, hnormal fun n hn => (hy n hn).1, Alike.below_inj, List.append_cancel_left_eq] at hsame
    exact fun n hn => (hy n (hsame ▸ hn)).2
  · intro hshown
    obtain ⟨content, hfind⟩ := Site.isFile_iff.mp hfile
    have hvisible : (x, FileTree.file content) ∈ (s.reach (d.below folder)).visible :=
      (Site.mem_visible_reach hs.tree).mpr ⟨hne, fun n hn => ⟨hx n hn, hshown n hn⟩, hbelow x ▸ hfind⟩
    exact ⟨_, ⟨⟨_, hvisible, hbelow x⟩, hfile⟩, hnormal hx⟩

/-- **Which sources are left below the directory** of an item for all below it: those that are hidden there and
that no other item removes. -/
theorem IsFolder.mem_sources (h : IsFolder folder) (hs : s.Sound) (habsolute : d.isAbsolute)
    (hnames : ∀ n ∈ d.segments, IsName n) (hplain : d.IsPlain) (hitem : allBelow folder ∈ itemValues "Remove" root)
    (hne : x ≠ []) (hdefault : IsDefault s rule d root (d.below (folder ++ x))) :
    d.below (folder ++ x) ∈ sources s rule d root ↔
      (∃ n ∈ x, isHidden n) ∧ ∀ other ∈ itemValues "Remove" root, other ≠ allBelow folder →
        d.below (folder ++ x) ∉ expandItem s d other := by
  obtain ⟨z, hz, hzs, hfile⟩ := hdefault.exists_below hs habsolute hnames
  obtain rfl : folder ++ x = z := Alike.below_inj.mp hz
  have hx : ∀ n ∈ x, IsName n := fun n hn => hzs n (List.mem_append_right folder hn)
  have hstands := h.mem_expandItem hs habsolute hnames hplain hne hx hfile
  rw [Manifest.mem_sources hs.absolute, and_iff_right (.inl hdefault), ← mem_itemValues_expanded,
    List.mem_flatMap]
  constructor
  · intro hnone
    refine ⟨?_, fun other hother _ hmem => hnone ⟨other, hother, hmem⟩⟩
    by_contra hshown
    refine hnone ⟨_, hitem, hstands.mpr fun n hn => ?_⟩
    exact Bool.eq_false_iff.mpr fun hhidden => hshown ⟨n, hn, hhidden⟩
  · rintro ⟨⟨n, hn, hhidden⟩, hothers⟩ ⟨other, hother, hmem⟩
    by_cases heq : other = allBelow folder
    · rw [heq, hstands] at hmem
      rw [hmem n hn] at hhidden
      cases hhidden
    · exact hothers other hother heq hmem

end Sources

end Manifest

/-! ## Documents -/

namespace Project

open Manifest

variable {s : Site} {q : ProjectRequest} {root : Xml.Element} {folder : List String}

/-- A file is a document of a project if it is one of the sources. -/
theorem mem_documents {rule : ScanRule} {path file : FilePath} :
    Document.ofPath file ∈ (ofManifest s rule q path root).documents ↔ file ∈ sources s rule path.parent root := by
  have hinj : Function.Injective Document.ofPath := fun a b hab => Option.some.inj (congrArg Document.path hab)
  exact List.mem_map_of_injective hinj

/-- **An item for all below a directory** removes the sources that a scan finds there and that are reached along
names that are not hidden; the others are left unless another item removes them. -/
theorem load_removed (hs : s.Sound) (rule : ScanRule) (hroot : Manifest.load s (s.normalize q.path) = .ok root)
    (hplain : (s.normalize q.path).parent.IsPlain) (hfolder : IsFolder folder)
    (hitem : allBelow folder ∈ itemValues "Remove" root) :
    ∃ p, (load s rule q).outcome = .ok p ∧
      ∀ x, x ≠ [] →
        IsDefault s rule (s.normalize q.path).parent root ((s.normalize q.path).parent.below (folder ++ x)) →
        (Document.ofPath ((s.normalize q.path).parent.below (folder ++ x)) ∈ p.documents ↔
          (∃ n ∈ x, isHidden n) ∧ ∀ other ∈ itemValues "Remove" root, other ≠ allBelow folder →
            (s.normalize q.path).parent.below (folder ++ x) ∉ expandItem s (s.normalize q.path).parent other) := by
  have habsolute : (s.normalize q.path).parent.isAbsolute := FilePath.isAbsolute_normalize hs.absolute q.path
  refine ⟨_, load_outcome rule rfl hroot, fun x hne hdefault => ?_⟩
  rw [mem_documents]
  exact hfolder.mem_sources hs habsolute (fun _ => FilePath.isName_of_mem_parent) hplain hitem hne hdefault

/-- A manifest that removes all sources below a directory. -/
def removingManifest : String :=
  "<Project Sdk='K'><Compile Remove='Gen\\**' /></Project>"

/-- A directory with that manifest and two sources below the directory, one of them below a hidden one. -/
def hiddenSite : Site where
  tree := .dir [("w", .dir [("App", .dir [("App.csproj", .file removingManifest.toUTF8.toList), ("A.cs", .file []),
    ("Gen", .dir [("B.cs", .file []), (".cache", .dir [("C.cs", .file [])])])])])]
  here := ⟨1, ["w"]⟩
  home := ⟨1, ["w"]⟩

theorem sound_hiddenSite : hiddenSite.Sound := by
  refine ⟨?_, by decide⟩
  simp [hiddenSite, FileTree.WellFormed, FileTree.WellFormedEntries, IsName]

theorem load_hiddenSite :
    Manifest.load hiddenSite (hiddenSite.normalize mixedRequest.path) = .ok (rootOf removingManifest) :=
  load_rootOf rfl (by decide +kernel)

theorem isFolder_gen : IsFolder ["Gen"] where
  ne_nil := by decide
  names := by simp [IsName]
  plain := by decide
  unseparated := by decide
  noProperty := by decide
  start := by
    rintro n ⟨⟩ c ⟨⟩
    rfl

theorem directory_hiddenSite : (hiddenSite.normalize mixedRequest.path).parent = ⟨1, ["w", "App"]⟩ :=
  rfl

theorem isPlain_hiddenSite : (hiddenSite.normalize mixedRequest.path).parent.IsPlain := by
  rw [directory_hiddenSite]
  decide

/-- The manifest asks for a scan, and removes one item. -/
theorem scans_removingManifest : scans (rootOf removingManifest) = true ∧
    itemValues "Remove" (rootOf removingManifest) = [allBelow ["Gen"]] := by
  decide +kernel

theorem allBelow_mem_removingManifest : allBelow ["Gen"] ∈ itemValues "Remove" (rootOf removingManifest) :=
  scans_removingManifest.2 ▸ List.mem_singleton_self _

theorem lower_suffixOf_hiddenSite : ∀ name ∈ ["B.cs", "C.cs"], Text.lower (FilePath.suffixOf name) = ".cs" := by
  decide +kernel

/-- The two sources are found by the scan there. -/
theorem isDefault_hiddenSite (above : List String) {name : String} (hname : name ∈ ["B.cs", "C.cs"])
    (hx : ∀ n ∈ above ++ [name], IsName n)
    (hfile : hiddenSite.isFile ((⟨1, ["w", "App"]⟩ : FilePath).below (above ++ [name]))) :
    IsDefault hiddenSite ⟨[], [".cs"]⟩ ⟨1, ["w", "App"]⟩ (rootOf removingManifest)
      ((⟨1, ["w", "App"]⟩ : FilePath).below (above ++ [name])) := by
  have hnames : ∀ n ∈ ["w", "App"], IsName n := by simp [IsName]
  have htaken : Text.lower (FilePath.suffixOf name) ∈ [".cs"] :=
    List.mem_singleton.mpr (lower_suffixOf_hiddenSite name hname)
  exact isDefault_below sound_hiddenSite rfl hnames scans_removingManifest.1 hx hfile htaken fun _ _ _ hnone =>
    absurd hnone List.not_mem_nil

theorem isDefault_shown :
    IsDefault hiddenSite ⟨[], [".cs"]⟩ ⟨1, ["w", "App"]⟩ (rootOf removingManifest)
      ((⟨1, ["w", "App"]⟩ : FilePath).below (["Gen"] ++ ["B.cs"])) :=
  isDefault_hiddenSite ["Gen"] (by simp) (by simp [IsName]) rfl

theorem isDefault_hidden :
    IsDefault hiddenSite ⟨[], [".cs"]⟩ ⟨1, ["w", "App"]⟩ (rootOf removingManifest)
      ((⟨1, ["w", "App"]⟩ : FilePath).below (["Gen"] ++ [".cache", "C.cs"])) :=
  isDefault_hiddenSite ["Gen", ".cache"] (by simp) (by simp [IsName]) rfl

/-- Of two sources below the directory, the hidden one is left. -/
theorem load_removed_hiddenSite :
    hiddenSite.Sound ∧
      Manifest.load hiddenSite (hiddenSite.normalize mixedRequest.path) = .ok (rootOf removingManifest) ∧
      (hiddenSite.normalize mixedRequest.path).parent.IsPlain ∧ IsFolder ["Gen"] ∧
      allBelow ["Gen"] ∈ itemValues "Remove" (rootOf removingManifest) ∧
      ∃ p, (load hiddenSite ⟨[], [".cs"]⟩ mixedRequest).outcome = .ok p ∧
        Document.ofPath ⟨1, ["w", "App", "Gen", "B.cs"]⟩ ∉ p.documents ∧
        Document.ofPath ⟨1, ["w", "App", "Gen", ".cache", "C.cs"]⟩ ∈ p.documents := by
  obtain ⟨p, hload, hleft⟩ := load_removed sound_hiddenSite ⟨[], [".cs"]⟩ load_hiddenSite isPlain_hiddenSite
    isFolder_gen allBelow_mem_removingManifest
  rw [directory_hiddenSite] at hleft
  have hshown := hleft ["B.cs"] (by decide) isDefault_shown
  have hhidden := hleft [".cache", "C.cs"] (by decide) isDefault_hidden
  refine ⟨sound_hiddenSite, load_hiddenSite, isPlain_hiddenSite, isFolder_gen, allBelow_mem_removingManifest, p,
    hload, ?_, ?_⟩
  · exact fun hmem => absurd (hshown.mp hmem).1 (by decide)
  · refine hhidden.mpr ⟨by decide, fun other hother hne => ?_⟩
    rw [scans_removingManifest.2, List.mem_singleton] at hother
    exact absurd hother hne

/-- Not all sources below the directory are removed. -/
theorem not_load_removed :
    ¬ ∀ (s : Site) (rule : ScanRule) (q : ProjectRequest) (root : Xml.Element) (folder : List String), s.Sound →
      Manifest.load s (s.normalize q.path) = .ok root → (s.normalize q.path).parent.IsPlain → IsFolder folder →
      allBelow folder ∈ itemValues "Remove" root → ∀ p, (load s rule q).outcome = .ok p →
        ∀ x, x ≠ [] →
          IsDefault s rule (s.normalize q.path).parent root ((s.normalize q.path).parent.below (folder ++ x)) →
          Document.ofPath ((s.normalize q.path).parent.below (folder ++ x)) ∉ p.documents := by
  intro hall
  have hnone := hall hiddenSite ⟨[], [".cs"]⟩ mixedRequest (rootOf removingManifest) ["Gen"] sound_hiddenSite
    load_hiddenSite isPlain_hiddenSite isFolder_gen allBelow_mem_removingManifest _
    (load_outcome _ rfl load_hiddenSite) [".cache", "C.cs"] (by decide)
  have hnames : ∀ n ∈ ["w", "App"], IsName n := by simp [IsName]
  have hplain : (⟨1, ["w", "App"]⟩ : FilePath).IsPlain := by decide
  rw [mem_documents, directory_hiddenSite] at hnone
  refine hnone isDefault_hidden ((isFolder_gen.mem_sources sound_hiddenSite rfl hnames hplain
    allBelow_mem_removingManifest (by decide) isDefault_hidden).mpr ⟨by decide, fun other hother hne => ?_⟩)
  rw [scans_removingManifest.2, List.mem_singleton] at hother
  exact absurd hother hne

end Project

end SolutionSurvey
