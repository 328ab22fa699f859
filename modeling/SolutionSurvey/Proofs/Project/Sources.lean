import SolutionSurvey.Project.Open
import SolutionSurvey.Proofs.Files.Place
import Mathlib.Data.List.Induction
import Mathlib.Data.List.Nodup
import Mathlib.Logic.Relation

/-!
# Which files are the sources of a project

Sources are gathered in three passes: a scan puts files under their keys, items add those whose key is new,
and items take files away. What is left are the files found or included and not removed, each once: those
found in the order of the scan, then the others in the order in which they are first included. So it makes
no difference where removals stand, and whether an item is written in one part or in several.

## Main definitions

* `Manifest.Gathered.plain` — files that are their own keys.
* `Manifest.sources_eq` — what the three passes leave.
* `Manifest.IsDefault`, `Manifest.Names` — what the scan finds and what items name.
* `Manifest.Gathers` — which files are sources, and in which order.
* `Manifest.Rearranges` — other ways to write the same items.
* `Project.load_documents` — the documents of a project.
-/

namespace SolutionSurvey

/-! ## First occurrences -/

section FirstOccurrences

variable {α : Type} [DecidableEq α]

theorem eraseDups_concat (l : List α) (a : α) :
    (l ++ [a]).eraseDups = if a ∈ l then l.eraseDups else l.eraseDups ++ [a] := by
  rw [List.eraseDups_append]
  split
  · next hmem => simp [List.removeAll, hmem]
  · next hnew => simp [List.removeAll, hnew, List.eraseDups_cons]

theorem eraseDups_filter (p : α → Bool) (l : List α) :
    (l.filter p).eraseDups = l.eraseDups.filter p := by
  induction l using List.reverseRecOn with
  | nil => rfl
  | append_singleton l a ih =>
      rw [List.filter_append, eraseDups_concat]
      by_cases hp : p a
      · have hone : [a].filter p = [a] := by simp [hp]
        rw [hone, eraseDups_concat, ih]
        by_cases hmem : a ∈ l <;> simp [hmem, hp]
      · have hnone : [a].filter p = [] := by simp [hp]
        rw [hnone, List.append_nil, ih]
        by_cases hmem : a ∈ l <;> simp [hmem, hp]

/-- The members of a list come in the order of their first places in another one. -/
def InOrderOf (l members : List α) : Prop :=
  members.Pairwise fun a b => l.idxOf a < l.idxOf b

theorem inOrderOf_eraseDups (l : List α) : InOrderOf l l.eraseDups := by
  induction l using List.reverseRecOn with
  | nil => exact List.Pairwise.nil
  | append_singleton l a ih =>
      have hfirst : ∀ b ∈ l, (l ++ [a]).idxOf b = l.idxOf b := fun b hb => by
        rw [List.idxOf_append, if_pos hb]
      have hl : InOrderOf (l ++ [a]) l.eraseDups := ih.imp_of_mem fun hb hc hlt => by
        rw [hfirst _ (List.mem_eraseDups.mp hb), hfirst _ (List.mem_eraseDups.mp hc)]
        exact hlt
      rw [eraseDups_concat]
      split
      · exact hl
      · next hnew =>
        refine List.pairwise_append.mpr ⟨hl, List.pairwise_singleton _ a, fun b hb c hc => ?_⟩
        obtain rfl := List.mem_singleton.mp hc
        have hb := List.mem_eraseDups.mp hb
        rw [hfirst b hb, List.idxOf_append, if_neg hnew]
        exact Nat.lt_of_lt_of_le (List.idxOf_lt_length_of_mem hb) (Nat.le_add_left _ _)

theorem InOrderOf.sublist {l ms ns : List α} (h : InOrderOf l ns) (hsub : ms.Sublist ns) : InOrderOf l ms :=
  List.Pairwise.sublist hsub h

theorem nodup_eraseDups (l : List α) : l.eraseDups.Nodup :=
  (inOrderOf_eraseDups l).imp fun hlt heq => by
    rw [heq] at hlt
    exact Nat.lt_irrefl _ hlt

end FirstOccurrences

namespace Manifest

/-! ## Gathering -/

namespace Gathered

/-- Files that are their own keys. -/
def plain (ps : List FilePath) : Gathered :=
  ps.map fun p => (p, p)

theorem files_plain (ps : List FilePath) : (plain ps).files = ps := by
  simp [files, plain, Function.comp_def]

theorem put_plain (p : FilePath) (ps : List FilePath) :
    put p p (plain ps) = plain (if p ∈ ps then ps else ps ++ [p]) := by
  induction ps with
  | nil => rfl
  | cons q rest ih =>
      rw [plain, List.map_cons, put]
      by_cases hq : q = p
      · simp [hq, plain]
      · have hne : p ≠ q := Ne.symm hq
        change (if q = p then _ else (q, q) :: put p p (plain rest)) = _
        rw [if_neg hq, ih]
        by_cases hmem : p ∈ rest
        · simp [hmem, plain]
        · simp [hmem, hne, plain]

theorem putNew_plain (p : FilePath) (ps : List FilePath) :
    putNew p p (plain ps) = plain (if p ∈ ps then ps else ps ++ [p]) := by
  have hany : ((plain ps).any fun e => e.1 == p) = decide (p ∈ ps) := by
    rw [Bool.eq_iff_iff]
    simp [plain]
  rw [putNew, hany]
  by_cases hmem : p ∈ ps
  · simp [hmem]
  · simp [hmem, plain]

theorem remove_plain (p : FilePath) (ps : List FilePath) : remove p (plain ps) = plain (ps.erase p) := by
  rw [remove, plain, List.eraseP_map, List.erase_eq_eraseP, plain]
  congr 2
  funext q
  exact Bool.beq_comm

variable {s : Site}

/-- A pass that adds files, when each file is its own key. -/
theorem foldl_adding {step : FilePath → FilePath → Gathered → Gathered}
    (hstep : ∀ p ps, step p p (plain ps) = plain (if p ∈ ps then ps else ps ++ [p])) {ps : List FilePath}
    (hps : ∀ p ∈ ps, s.normalize p = p) (before : List FilePath) :
    ps.foldl (fun g p => step (s.normalize p) p g) (plain before.eraseDups) =
      plain (before ++ ps).eraseDups := by
  induction ps generalizing before with
  | nil => simp
  | cons p rest ih =>
      obtain ⟨hp, hrest⟩ := List.forall_mem_cons.mp hps
      have hput : step (s.normalize p) p (plain before.eraseDups) = plain (before ++ [p]).eraseDups := by
        rw [hp, hstep, eraseDups_concat]
        simp only [List.mem_eraseDups]
      rw [List.foldl_cons, hput, ih hrest, List.append_assoc, List.singleton_append]

/-- The pass that takes files away. -/
theorem foldl_removing {ps : List FilePath} (hps : ∀ p ∈ ps, s.normalize p = p) {before : List FilePath}
    (hnodup : before.Nodup) :
    ps.foldl (fun g p => remove (s.normalize p) g) (plain before) =
      plain (before.filter fun p => !ps.contains p) := by
  induction ps generalizing before with
  | nil => simp
  | cons p rest ih =>
      obtain ⟨hp, hrest⟩ := List.forall_mem_cons.mp hps
      rw [List.foldl_cons, hp, remove_plain, ih hrest (hnodup.erase p), hnodup.erase_eq_filter,
        List.filter_filter]
      congr 1
      refine List.filter_congr fun q _ => ?_
      rw [List.contains_cons, Bool.not_or, Bool.and_comm]
      rfl

end Gathered

/-! ## The three passes -/

section Passes

variable {s : Site} {rule : ScanRule} {directory : FilePath} {root : Xml.Element}

theorem normal_of_mem_defaultSources {p : FilePath} (hp : p ∈ defaultSources s rule directory root)
    (habsolute : p.isAbsolute) : s.normalize p = p := by
  rw [defaultSources] at hp
  split at hp
  · obtain ⟨f, -, rfl⟩ := List.mem_map.mp hp
    exact FilePath.normalize_normalize habsolute
  · cases hp

/-- What an item stands for is in normal form. -/
theorem Item.normal_of_mem_paths {item : Item} {p : FilePath} (hp : p ∈ item.paths s directory)
    (habsolute : p.isAbsolute) : s.normalize p = p := by
  cases item with
  | property written => cases hp
  | pattern written =>
      obtain ⟨f, -, rfl⟩ := List.mem_map.mp hp
      exact FilePath.normalize_normalize habsolute
  | file written =>
      obtain rfl := List.mem_singleton.mp hp
      exact FilePath.normalize_normalize habsolute

theorem normal_of_mem_expandItems {raws : List String} {p : FilePath}
    (hp : p ∈ raws.flatMap (expandItem s directory)) (habsolute : p.isAbsolute) : s.normalize p = p := by
  obtain ⟨raw, -, hraw⟩ := List.mem_flatMap.mp hp
  obtain ⟨item, -, hitem⟩ := List.mem_flatMap.mp hraw
  exact item.normal_of_mem_paths hitem habsolute

/-- **What the three passes leave**, where all paths are absolute: what was found or included and not
removed, each file once and where it first came. -/
theorem sources_eq (hfound : ∀ p ∈ defaultSources s rule directory root, p.isAbsolute)
    (hincluded : ∀ p ∈ includedSources s directory root, p.isAbsolute)
    (hremoved : ∀ p ∈ removedSources s directory root, p.isAbsolute) :
    sources s rule directory root =
      (defaultSources s rule directory root ++ includedSources s directory root).eraseDups.filter fun p =>
        !(removedSources s directory root).contains p := by
  have hfound : ∀ p ∈ defaultSources s rule directory root, s.normalize p = p :=
    fun p hp => normal_of_mem_defaultSources hp (hfound p hp)
  have hincluded : ∀ p ∈ includedSources s directory root, s.normalize p = p :=
    fun p hp => normal_of_mem_expandItems hp (hincluded p hp)
  have hremoved : ∀ p ∈ removedSources s directory root, s.normalize p = p :=
    fun p hp => normal_of_mem_expandItems hp (hremoved p hp)
  have hput := Gathered.foldl_adding Gathered.put_plain hfound []
  rw [List.eraseDups_nil, List.nil_append] at hput
  have hputNew := Gathered.foldl_adding Gathered.putNew_plain hincluded (defaultSources s rule directory root)
  have hremove := Gathered.foldl_removing hremoved
    (nodup_eraseDups (defaultSources s rule directory root ++ includedSources s directory root))
  have hempty : Gathered.plain [] = [] := rfl
  rw [hempty] at hput
  rw [sources, hput, hputNew, hremove]
  exact Gathered.files_plain _

end Passes

/-! ## Which files are sources -/

/-- A scan finds a path, and the manifest leaves that switched on. -/
def IsDefault (s : Site) (rule : ScanRule) (directory : FilePath) (root : Xml.Element) (p : FilePath) : Prop :=
  scans root ∧ ∃ found ∈ s.scan rule directory, s.normalize found = p

/-- Some item for sources names a path in an attribute. -/
def Names (attribute_ : String) (s : Site) (directory : FilePath) (root : Xml.Element) (p : FilePath) : Prop :=
  ∃ e ∈ compileItems root, ∃ written, e.attribute? attribute_ = some written ∧
    p ∈ expandItem s directory written

/-- The paths are the sources of a project: each file that is found or included and not removed, once. The
files found come first, in the order of the scan, and then the others, in the order in which they are first
included. -/
structure Gathers (s : Site) (rule : ScanRule) (directory : FilePath) (root : Xml.Element)
    (paths : List FilePath) : Prop where
  normal : ∀ p ∈ paths, s.normalize p = p
  nodup : (paths.map s.normalize).Nodup
  mem_iff : ∀ p, p ∈ paths ↔
    (IsDefault s rule directory root p ∨ Names "Include" s directory root p) ∧
      ¬ Names "Remove" s directory root p
  order : ∃ found others, paths = found ++ others ∧
    (∀ p ∈ found, IsDefault s rule directory root p) ∧
    (∀ p ∈ others, ¬ IsDefault s rule directory root p) ∧
    InOrderOf (defaultSources s rule directory root) found ∧
    InOrderOf (includedSources s directory root) others

theorem mem_defaultSources {s : Site} {rule : ScanRule} {directory : FilePath} {root : Xml.Element}
    {p : FilePath} : p ∈ defaultSources s rule directory root ↔ IsDefault s rule directory root p := by
  rw [defaultSources, IsDefault]
  split
  · next hscans => simp [hscans]
  · next hscans => simp [hscans]

/-- An attribute that is missing names nothing. -/
theorem expandItem_empty (s : Site) (directory : FilePath) : expandItem s directory "" = [] := by
  rfl

theorem mem_itemValues_expanded {s : Site} {directory : FilePath} {root : Xml.Element} {p : FilePath}
    (attribute_ : String) :
    p ∈ (itemValues attribute_ root).flatMap (expandItem s directory) ↔
      Names attribute_ s directory root p := by
  simp only [itemValues, Names, List.flatMap_map, List.mem_flatMap]
  refine exists_congr fun e => and_congr_right fun _ => ?_
  cases e.attribute? attribute_ with
  | none => simp [expandItem_empty]
  | some written => simp

section Spec

variable {s : Site} {rule : ScanRule} {directory : FilePath} {root : Xml.Element}

theorem isAbsolute_of_mem_defaultSources (hhere : s.here.isAbsolute) :
    ∀ p ∈ defaultSources s rule directory root, p.isAbsolute := by
  intro p hp
  obtain ⟨-, f, -, rfl⟩ := mem_defaultSources.mp hp
  exact FilePath.isAbsolute_normalize hhere f

theorem isAbsolute_of_mem_expandItems (hhere : s.here.isAbsolute) (raws : List String) :
    ∀ p ∈ raws.flatMap (expandItem s directory), p.isAbsolute := by
  intro p hp
  obtain ⟨raw, -, hraw⟩ := List.mem_flatMap.mp hp
  obtain ⟨item, -, hitem⟩ := List.mem_flatMap.mp hraw
  cases item with
  | property written => cases hitem
  | pattern written =>
      obtain ⟨f, -, rfl⟩ := List.mem_map.mp hitem
      exact FilePath.isAbsolute_normalize hhere f
  | file written =>
      obtain rfl := List.mem_singleton.mp hitem
      exact FilePath.isAbsolute_normalize hhere _

theorem sources_eq_of_here (hhere : s.here.isAbsolute) :
    sources s rule directory root =
      (defaultSources s rule directory root ++ includedSources s directory root).eraseDups.filter fun p =>
        !(removedSources s directory root).contains p :=
  sources_eq (isAbsolute_of_mem_defaultSources hhere) (isAbsolute_of_mem_expandItems hhere _)
    (isAbsolute_of_mem_expandItems hhere _)

theorem mem_sources (hhere : s.here.isAbsolute) {p : FilePath} :
    p ∈ sources s rule directory root ↔
      (IsDefault s rule directory root p ∨ Names "Include" s directory root p) ∧
        ¬ Names "Remove" s directory root p := by
  rw [sources_eq_of_here hhere, List.mem_filter, List.mem_eraseDups, List.mem_append, mem_defaultSources,
    includedSources, mem_itemValues_expanded, ← mem_itemValues_expanded "Remove"]
  simp [removedSources]

theorem normal_of_mem_sources (hhere : s.here.isAbsolute) {p : FilePath}
    (hp : p ∈ sources s rule directory root) : s.normalize p = p := by
  obtain ⟨hdefault | hnamed, -⟩ := (mem_sources hhere).mp hp
  · have hp := mem_defaultSources.mpr hdefault
    exact normal_of_mem_defaultSources hp (isAbsolute_of_mem_defaultSources hhere p hp)
  · have hp := (mem_itemValues_expanded "Include").mpr hnamed
    exact normal_of_mem_expandItems hp (isAbsolute_of_mem_expandItems hhere _ p hp)

/-- The sources that a scan finds, and then the other ones that are included. -/
theorem sources_split (hhere : s.here.isAbsolute) :
    sources s rule directory root =
      (defaultSources s rule directory root).eraseDups.filter
          (fun p => !(removedSources s directory root).contains p) ++
        ((includedSources s directory root).eraseDups.filter
          fun p => !(defaultSources s rule directory root).contains p).filter
            fun p => !(removedSources s directory root).contains p := by
  have hothers : ((includedSources s directory root).removeAll
      (defaultSources s rule directory root)).eraseDups =
      (includedSources s directory root).eraseDups.filter
        fun p => !(defaultSources s rule directory root).contains p := eraseDups_filter _ _
  rw [sources_eq_of_here hhere, List.eraseDups_append, List.filter_append, hothers]

/-- **Which files are the sources of a project**, and in which order. -/
theorem gathers_sources (hhere : s.here.isAbsolute) :
    Gathers s rule directory root (sources s rule directory root) where
  normal p hp := normal_of_mem_sources hhere hp
  nodup := by
    have hsame : (sources s rule directory root).map s.normalize = sources s rule directory root := by
      rw [List.map_congr_left fun p hp => normal_of_mem_sources hhere hp, List.map_id']
    rw [hsame, sources_eq_of_here hhere]
    exact (nodup_eraseDups _).filter _
  mem_iff p := mem_sources hhere
  order := by
    refine ⟨_, _, sources_split hhere, ?_, ?_, ?_, ?_⟩
    · intro p hp
      exact mem_defaultSources.mp (List.mem_eraseDups.mp (List.mem_filter.mp hp).1)
    · intro p hp hdefault
      have hnot := (List.mem_filter.mp (List.mem_filter.mp hp).1).2
      simp [mem_defaultSources.mpr hdefault] at hnot
    · exact (inOrderOf_eraseDups _).sublist List.filter_sublist
    · exact (inOrderOf_eraseDups _).sublist (List.filter_sublist.trans List.filter_sublist)

end Spec

/-! ## Other ways to write the same items -/

/-- What an item for sources includes and what it removes, as far as it does. -/
structure CompileItem where
  included : Option String
  removed : Option String
  deriving Repr, DecidableEq, Inhabited

/-- The items for sources of a manifest, in document order. -/
def compileList (root : Xml.Element) : List CompileItem :=
  (compileItems root).map fun e => ⟨e.attribute? "Include", e.attribute? "Remove"⟩

/-- Another way to write some items. -/
inductive Rearranges : List CompileItem → List CompileItem → Prop
  /-- What one item removes is removed by a later one. -/
  | move (before between after : List CompileItem) (i j : Option String) (written : String) :
      Rearranges (before ++ ⟨i, some written⟩ :: between ++ ⟨j, none⟩ :: after)
        (before ++ ⟨i, none⟩ :: between ++ ⟨j, some written⟩ :: after)
  /-- Two items that only remove change places. -/
  | swap (before between after : List CompileItem) (a b : Option String) :
      Rearranges (before ++ ⟨none, a⟩ :: between ++ ⟨none, b⟩ :: after)
        (before ++ ⟨none, b⟩ :: between ++ ⟨none, a⟩ :: after)
  /-- What an item includes is written as two items. -/
  | splitIncluded (before after : List CompileItem) (a b : String) (removed : Option String) :
      Rearranges (before ++ ⟨some (a ++ ";" ++ b), removed⟩ :: after)
        (before ++ ⟨some a, removed⟩ :: ⟨some b, none⟩ :: after)
  /-- What an item removes is written as two items. -/
  | splitRemoved (before after : List CompileItem) (included : Option String) (a b : String) :
      Rearranges (before ++ ⟨included, some (a ++ ";" ++ b)⟩ :: after)
        (before ++ ⟨included, some a⟩ :: ⟨none, some b⟩ :: after)
  /-- An item that says nothing is left out. -/
  | blank (before after : List CompileItem) : Rearranges (before ++ ⟨none, none⟩ :: after) (before ++ after)

/-- What some items say, part by part. -/
def partsOf (value : CompileItem → Option String) (items : List CompileItem) : List Item :=
  items.flatMap fun i => itemParts ((value i).getD "")

theorem partsOf_append (value : CompileItem → Option String) (xs ys : List CompileItem) :
    partsOf value (xs ++ ys) = partsOf value xs ++ partsOf value ys :=
  List.flatMap_append

theorem partsOf_cons (value : CompileItem → Option String) (i : CompileItem) (rest : List CompileItem) :
    partsOf value (i :: rest) = itemParts ((value i).getD "") ++ partsOf value rest :=
  List.flatMap_cons

theorem itemParts_empty : itemParts "" = [] := by
  rfl

/-- A semicolon ends one part and starts another one. -/
theorem itemParts_semicolon (a b : String) : itemParts (a ++ ";" ++ b) = itemParts a ++ itemParts b := by
  have hchars : (a ++ ";" ++ b).toList = a.toList ++ ';' :: b.toList := by simp
  have hsplit : splitText ';' (a ++ ";" ++ b) = splitText ';' a ++ splitText ';' b := by
    have hcut := List.splitOnP_append_cons (p := (· == ';')) a.toList b.toList (beq_self_eq_true ';')
    rw [splitText, splitChars, hchars, List.splitOn_eq_splitOnP, hcut, List.map_append]
    rfl
  rw [itemParts, hsplit, List.filterMap_append]
  rfl

/-- **An item written as two stands for the paths of both**, one after the other. -/
theorem expandItem_semicolon (s : Site) (directory : FilePath) (a b : String) :
    expandItem s directory (a ++ ";" ++ b) = expandItem s directory a ++ expandItem s directory b := by
  rw [expandItem, itemParts_semicolon, List.flatMap_append]
  rfl

/-- Items written otherwise include the same, in the same order. -/
theorem Rearranges.included {xs ys : List CompileItem} (h : Rearranges xs ys) :
    partsOf CompileItem.included xs = partsOf CompileItem.included ys := by
  cases h with
  | move => simp [partsOf_append, partsOf_cons]
  | swap => simp [partsOf_append, partsOf_cons]
  | splitIncluded => simp [partsOf_append, partsOf_cons, itemParts_semicolon]
  | splitRemoved => simp [partsOf_append, partsOf_cons, itemParts_empty]
  | blank => simp [partsOf_append, partsOf_cons, itemParts_empty]

/-- Items written otherwise remove the same, in whatever order. -/
theorem Rearranges.mem_removed {xs ys : List CompileItem} (h : Rearranges xs ys) (item : Item) :
    item ∈ partsOf CompileItem.removed xs ↔ item ∈ partsOf CompileItem.removed ys := by
  cases h with
  | move =>
      simp only [partsOf_append, partsOf_cons, itemParts_empty, Option.getD_some, Option.getD_none,
        List.mem_append, List.not_mem_nil, false_or]
      tauto
  | swap =>
      simp only [partsOf_append, partsOf_cons, List.mem_append]
      tauto
  | splitIncluded => simp [partsOf_append, partsOf_cons, itemParts_empty]
  | splitRemoved => simp [partsOf_append, partsOf_cons, itemParts_semicolon]
  | blank => simp [partsOf_append, partsOf_cons, itemParts_empty]

/-- The same after any number of steps, in either direction. -/
theorem parts_of_rearranged {xs ys : List CompileItem} (h : Relation.EqvGen Rearranges xs ys) :
    partsOf CompileItem.included xs = partsOf CompileItem.included ys ∧
      ∀ item, item ∈ partsOf CompileItem.removed xs ↔ item ∈ partsOf CompileItem.removed ys := by
  induction h with
  | rel _ _ hstep => exact ⟨hstep.included, hstep.mem_removed⟩
  | refl => exact ⟨rfl, fun _ => Iff.rfl⟩
  | symm _ _ _ ih => exact ⟨ih.1.symm, fun item => (ih.2 item).symm⟩
  | trans _ _ _ _ _ ih ih' => exact ⟨ih.1.trans ih'.1, fun item => (ih.2 item).trans (ih'.2 item)⟩

section Rearranged

variable {s : Site} {rule : ScanRule} {directory : FilePath} {root root' : Xml.Element}

theorem includedSources_eq (root : Xml.Element) :
    includedSources s directory root =
      (partsOf CompileItem.included (compileList root)).flatMap (Item.paths s directory) := by
  simp [includedSources, itemValues, partsOf, compileList, List.flatMap_map, List.flatMap_assoc, expandItem]

theorem removedSources_eq (root : Xml.Element) :
    removedSources s directory root =
      (partsOf CompileItem.removed (compileList root)).flatMap (Item.paths s directory) := by
  simp [removedSources, itemValues, partsOf, compileList, List.flatMap_map, List.flatMap_assoc, expandItem]

/-- **Manifests that write the same items otherwise have the same sources.** -/
theorem sources_of_rearranged (hhere : s.here.isAbsolute) (hscans : scans root' = scans root)
    (h : Relation.EqvGen Rearranges (compileList root) (compileList root')) :
    sources s rule directory root' = sources s rule directory root := by
  obtain ⟨hincluded, hremoved⟩ := parts_of_rearranged h
  have hdefault : defaultSources s rule directory root' = defaultSources s rule directory root := by
    rw [defaultSources, hscans, defaultSources]
  have hcontains (p : FilePath) : (removedSources s directory root').contains p =
      (removedSources s directory root).contains p := by
    rw [Bool.eq_iff_iff, List.contains_iff_mem, List.contains_iff_mem, removedSources_eq, removedSources_eq,
      List.mem_flatMap, List.mem_flatMap]
    simp only [hremoved]
  rw [sources_eq_of_here hhere, sources_eq_of_here hhere, hdefault, includedSources_eq root', ← hincluded,
    ← includedSources_eq]
  simp only [hcontains]

end Rearranged

end Manifest

/-! ## Documents -/

namespace Project

variable {s : Site} {q : ProjectRequest} {root : Xml.Element}

/-- **The documents of a project** are the files that are found or included and not removed, each once:
those found in the order of the scan, then the others in the order in which they are first included. An item
may be written as two, and all manifests that write the same items otherwise lead to the same documents. -/
theorem load_documents (rule : ScanRule) (hhere : s.here.isAbsolute)
    (hroot : Manifest.load s (s.normalize q.path) = .ok root) :
    ∃ p paths, (load s rule q).outcome = .ok p ∧ p.documents = paths.map Document.ofPath ∧
      Manifest.Gathers s rule (s.normalize q.path).parent root paths ∧
      (∀ a b, Manifest.expandItem s (s.normalize q.path).parent (a ++ ";" ++ b) =
        Manifest.expandItem s (s.normalize q.path).parent a ++
          Manifest.expandItem s (s.normalize q.path).parent b) ∧
      ∀ root', Manifest.scans root' = Manifest.scans root →
        Relation.EqvGen Manifest.Rearranges (Manifest.compileList root) (Manifest.compileList root') →
        (ofManifest s rule q (s.normalize q.path) root').documents = p.documents := by
  have hload : (load s rule q).outcome = .ok (ofManifest s rule q (s.normalize q.path) root) := by
    simp only [load, hroot]
  refine ⟨_, _, hload, rfl, Manifest.gathers_sources hhere, Manifest.expandItem_semicolon s _, ?_⟩
  intro root' hscans hrearranged
  exact congrArg (List.map Document.ofPath) (Manifest.sources_of_rearranged hhere hscans hrearranged)

/-- A manifest that finds its sources by a scan, includes some of them again, and removes one. -/
def mixedManifest : String :=
  "<Project Sdk='K'><Compile Include='B.cs;../Shared/C.cs' Remove='A.cs' /><Compile Include='B.cs' /></Project>"

/-- The same with the removal at the other item. -/
def turnedManifest : String :=
  "<Project Sdk='K'><Compile Include='B.cs;../Shared/C.cs' /><Compile Include='B.cs' Remove='A.cs' /></Project>"

/-- The root element of a manifest in a text. -/
def rootOf (manifest : String) : Xml.Element :=
  (Xml.parse manifest.toUTF8.toList).toOption.getD default

/-- A manifest that is read and well formed is loaded. -/
theorem load_rootOf {s : Site} {path : FilePath} {manifest : String}
    (hread : s.read path = .ok manifest.toUTF8.toList)
    (hparse : (Xml.parse manifest.toUTF8.toList).toOption.isSome) :
    Manifest.load s path = .ok (rootOf manifest) := by
  have hroot : Xml.parse manifest.toUTF8.toList = .ok (rootOf manifest) := eq_ok_getD hparse
  simp only [Manifest.load, hread, hroot, bind, Except.bind]

/-- A directory with that manifest and two sources. -/
def mixedSite : Site where
  tree := .dir [("w", .dir [("App", .dir [("App.csproj", .file mixedManifest.toUTF8.toList),
    ("B.cs", .file []), ("A.cs", .file [])])])]
  here := ⟨1, ["w"]⟩
  home := ⟨1, ["w"]⟩

/-- The request to open that manifest. -/
def mixedRequest : ProjectRequest :=
  ⟨⟨0, ["App", "App.csproj"]⟩, none, none, []⟩

theorem load_mixedSite :
    Manifest.load mixedSite (mixedSite.normalize mixedRequest.path) = .ok (rootOf mixedManifest) :=
  load_rootOf rfl (by decide +kernel)

/-- One source is found, one is included, and one is removed; it makes no difference where. -/
theorem load_documents_mixedSite :
    mixedSite.here.isAbsolute ∧
      Manifest.load mixedSite (mixedSite.normalize mixedRequest.path) = .ok (rootOf mixedManifest) ∧
      ∃ p paths, (load mixedSite ⟨[], [".cs"]⟩ mixedRequest).outcome = .ok p ∧
        p.documents = paths.map Document.ofPath ∧
        Manifest.Gathers mixedSite ⟨[], [".cs"]⟩ ⟨1, ["w", "App"]⟩ (rootOf mixedManifest) paths ∧
        (ofManifest mixedSite ⟨[], [".cs"]⟩ mixedRequest ⟨1, ["w", "App", "App.csproj"]⟩
          (rootOf turnedManifest)).documents = p.documents := by
  have hpath : mixedSite.normalize mixedRequest.path = ⟨1, ["w", "App", "App.csproj"]⟩ := by decide +kernel
  have hlist : Manifest.compileList (rootOf mixedManifest) =
      [⟨some "B.cs;../Shared/C.cs", some "A.cs"⟩, ⟨some "B.cs", none⟩] := by decide +kernel
  have hturned : Manifest.compileList (rootOf turnedManifest) =
      [⟨some "B.cs;../Shared/C.cs", none⟩, ⟨some "B.cs", some "A.cs"⟩] := by decide +kernel
  obtain ⟨p, paths, hload, hdocuments, hgathers, -, hsame⟩ :=
    load_documents ⟨[], [".cs"]⟩ (by decide : mixedSite.here.isAbsolute) load_mixedSite
  rw [hpath] at hgathers hsame
  refine ⟨by decide, load_mixedSite, p, paths, hload, hdocuments, hgathers,
    hsame (rootOf turnedManifest) (by decide +kernel) ?_⟩
  rw [hlist, hturned]
  exact .rel _ _ (.move [] [] [] (some "B.cs;../Shared/C.cs") (some "B.cs") "A.cs")

end Project

end SolutionSurvey
