import SolutionSurvey.Files.Scan
import SolutionSurvey.Proofs.Files.Change
import Mathlib.Data.List.Nodup

/-!
# The order in which a directory lists its entries

Names find the entries of a directory, and no two entries have the same name. So nothing that is found in a
tree depends on the order in which its directories list their entries: with all entries in the order of their
names, trees that differ only in that order are the same tree.

## Main definitions

* `FileTree.WellFormed` — the trees that a file system holds.
* `FileTree.Relisted` — trees that differ only in the order of their entries.
* `FileTree.arrange` — a tree with its entries in the order of their names.
* `FileTree.find_arrange` — what is found there.
* `Site.Relisted` — sites that differ only in that order, and what is found in both.
-/

namespace SolutionSurvey

/-! ## Sorting by texts -/

section Texts

variable {α : Type} (text : α → String)

theorem pairwise_mergeSort_text (l : List α) :
    (l.mergeSort fun a b => decide (text a ≤ text b)).Pairwise fun a b => text a ≤ text b := by
  have htrans (a b c : α) (hab : decide (text a ≤ text b) = true) (hbc : decide (text b ≤ text c) = true) :
      decide (text a ≤ text c) = true :=
    decide_eq_true (String.le_trans (of_decide_eq_true hab) (of_decide_eq_true hbc))
  have htotal (a b : α) : (decide (text a ≤ text b) || decide (text b ≤ text a)) = true := by
    simpa using String.le_total (text a) (text b)
  exact (List.pairwise_mergeSort htrans htotal l).imp of_decide_eq_true

/-- Sorting forgets the order, where the text tells members apart. -/
theorem mergeSort_text_of_perm {l l' : List α} (hperm : l'.Perm l)
    (hinj : ∀ a ∈ l, ∀ b ∈ l, text a = text b → a = b) :
    (l'.mergeSort fun a b => decide (text a ≤ text b)) = l.mergeSort fun a b => decide (text a ≤ text b) := by
  have hsame : (l'.mergeSort fun a b => decide (text a ≤ text b)).Perm
      (l.mergeSort fun a b => decide (text a ≤ text b)) :=
    (List.mergeSort_perm l' _).trans (hperm.trans (List.mergeSort_perm l _).symm)
  refine hsame.eq_of_pairwise (fun a b ha hb hab hba => ?_) (pairwise_mergeSort_text text l')
    (pairwise_mergeSort_text text l)
  exact hinj a (hperm.mem_iff.mp (List.mem_mergeSort.mp ha)) b (List.mem_mergeSort.mp hb)
    (String.le_antisymm hab hba)

end Texts

/-! ## Entries without repetition -/

section Keys

variable {α : Type} {es es' : List (String × α)}

/-- Without repetition, the entry of a name is the one that is looked up. -/
theorem lookup_eq_some_iff_mem (h : (es.map Prod.fst).Nodup) {name : String} {a : α} :
    es.lookup name = some a ↔ (name, a) ∈ es := by
  induction es with
  | nil => simp
  | cons e rest ih =>
      obtain ⟨key, b⟩ := e
      obtain ⟨hkey, hrest⟩ := List.nodup_cons.mp h
      rw [List.lookup_cons, List.mem_cons]
      by_cases hname : name = key
      · subst hname
        have hnot : (name, a) ∉ rest := fun hmem => hkey (List.mem_map.mpr ⟨(name, a), hmem, rfl⟩)
        simp [hnot, eq_comm]
      · simp [beq_false_of_ne hname, hname, ih hrest]

/-- Without repetition, the order of entries makes no difference to what is looked up. -/
theorem lookup_of_perm (h : (es.map Prod.fst).Nodup) (hperm : es.Perm es') (name : String) :
    es'.lookup name = es.lookup name := by
  have h' : (es'.map Prod.fst).Nodup := (hperm.map Prod.fst).nodup_iff.mp h
  refine Option.ext fun a => ?_
  rw [lookup_eq_some_iff_mem h, lookup_eq_some_iff_mem h', hperm.mem_iff]

theorem sortedByName_perm (es : List (String × α)) : (sortedByName es).Perm es :=
  List.mergeSort_perm es _

/-- Without repetition, sorted names increase. -/
theorem pairwise_sortedByName (h : (es.map Prod.fst).Nodup) :
    (sortedByName es).Pairwise fun a b => a.1 < b.1 := by
  have hnodup : ((sortedByName es).map Prod.fst).Nodup := ((sortedByName_perm es).map Prod.fst).nodup_iff.mpr h
  have hne : (sortedByName es).Pairwise fun a b => a.1 ≠ b.1 := List.pairwise_map.mp hnodup
  refine (pairwise_mergeSort_text Prod.fst es).imp₂ (fun a b hle hne => ?_) hne
  by_contra hlt
  exact hne (String.le_antisymm hle (String.not_lt.mp hlt))

/-- Without repetition, sorting by names forgets the order. -/
theorem sortedByName_of_perm (h : (es.map Prod.fst).Nodup) (hperm : es.Perm es') :
    sortedByName es' = sortedByName es :=
  mergeSort_text_of_perm Prod.fst hperm.symm fun _ ha _ hb heq => List.inj_on_of_nodup_map h ha hb heq

end Keys

namespace FileTree

/-- What holds of files, and of a directory if it does of its entries, holds of all trees. -/
@[elab_as_elim]
theorem induct {motive : FileTree → Prop} (file : ∀ content, motive (.file content))
    (dir : ∀ entries : List (String × FileTree), (∀ e ∈ entries, motive e.2) → motive (.dir entries)) :
    ∀ t, motive t
  | .file content => file content
  | .dir entries => dir entries fun e he => by
      have hsize := List.sizeOf_lt_of_mem he
      have hsecond : sizeOf e.2 < sizeOf e := by
        obtain ⟨name, t⟩ := e
        change sizeOf t < 1 + sizeOf name + sizeOf t
        omega
      exact induct file dir e.2

/-! ## Well-formed trees -/

mutual

/-- The trees that a file system holds: no two entries of a directory have the same name, and no name holds a
slash. -/
def WellFormed : FileTree → Prop
  | .file _ => True
  | .dir entries => (entries.map Prod.fst).Nodup ∧ WellFormedEntries entries

/-- The same for some entries. -/
def WellFormedEntries : List (String × FileTree) → Prop
  | [] => True
  | (name, t) :: rest => (IsName name ∧ '/' ∉ name.toList) ∧ WellFormed t ∧ WellFormedEntries rest

end

theorem wellFormedEntries_iff {entries : List (String × FileTree)} :
    WellFormedEntries entries ↔ ∀ e ∈ entries, (IsName e.1 ∧ '/' ∉ e.1.toList) ∧ e.2.WellFormed := by
  induction entries with
  | nil => simp [WellFormedEntries]
  | cons e rest ih => rw [WellFormedEntries, ih, List.forall_mem_cons, and_assoc (c := ∀ e ∈ rest, _)]

theorem wellFormed_dir {entries : List (String × FileTree)} :
    (dir entries).WellFormed ↔ (entries.map Prod.fst).Nodup ∧
      ∀ e ∈ entries, (IsName e.1 ∧ '/' ∉ e.1.toList) ∧ e.2.WellFormed := by
  rw [WellFormed, wellFormedEntries_iff]

theorem WellFormed.of_lookup {entries : List (String × FileTree)} (h : (dir entries).WellFormed)
    {name : String} {u : FileTree} (hu : entries.lookup name = some u) :
    (IsName name ∧ '/' ∉ name.toList) ∧ u.WellFormed := by
  obtain ⟨hnodup, hentries⟩ := wellFormed_dir.mp h
  exact hentries (name, u) ((lookup_eq_some_iff_mem hnodup).mp hu)

/-- What is found in a well-formed tree is well formed. -/
theorem WellFormed.of_find {t u : FileTree} (h : t.WellFormed) {segments : List String}
    (hu : t.find segments = .ok u) : u.WellFormed :=
  find_of_hereditary (fun _ _ _ ht hv => (ht.of_lookup hv).2) h hu

theorem straight_of_names {names : List String} (h : ∀ n ∈ names, IsName n) : Straight names :=
  fun n hn => (h n hn).2

/-- Names are followed from where the segments before them lead. -/
theorem find_append_names (t : FileTree) (directory : List String) {names : List String}
    (h : ∀ n ∈ names, IsName n) : t.find (directory ++ names) = t.find directory >>= fun u => u.find names := by
  cases hfind : t.find directory with
  | ok u => exact (straight_of_names h).find_append hfind
  | error e =>
      have hdescend : descend t [] (directory ++ names) = _ := descend_append t [] directory names
      rw [find] at hfind
      cases hway : descend t [] directory with
      | ok trail => rw [hway] at hfind; cases hfind
      | error e' =>
          rw [hway] at hfind
          rw [find, hdescend, hway]
          exact hfind

/-- Names lead through an entry of the first of them. -/
theorem WellFormed.find_cons_eq_ok {entries : List (String × FileTree)} (h : (dir entries).WellFormed)
    {name : String} {x : List String} (hx : ∀ n ∈ name :: x, IsName n) {u : FileTree} :
    (dir entries).find (name :: x) = .ok u ↔ ∃ t, (name, t) ∈ entries ∧ t.find x = .ok u := by
  have hlookup (t : FileTree) : entries.lookup name = some t ↔ (name, t) ∈ entries :=
    lookup_eq_some_iff_mem (wellFormed_dir.mp h).1
  rw [find_cons (straight_of_names hx)]
  simp only [← hlookup]
  cases entries.lookup name with
  | none => simp
  | some t => simp

/-! ## Other listings -/

/-- Trees that differ only in the order in which their directories list their entries. -/
inductive Relisted : FileTree → FileTree → Prop
  | refl (t : FileTree) : Relisted t t
  /-- A directory lists its entries in another order. -/
  | perm {entries entries' : List (String × FileTree)} (h : entries.Perm entries') :
      Relisted (.dir entries) (.dir entries')
  /-- An entry of a directory is listed otherwise. -/
  | inside {t t' : FileTree} (before after : List (String × FileTree)) (name : String) (h : Relisted t t') :
      Relisted (.dir (before ++ (name, t) :: after)) (.dir (before ++ (name, t') :: after))
  | trans {t u v : FileTree} (h : Relisted t u) (h' : Relisted u v) : Relisted t v

mutual

/-- A tree with its entries in the order of their names, at any depth. -/
def arrange : FileTree → FileTree
  | .file content => .file content
  | .dir entries => .dir (sortedByName (arrangeEntries entries))

/-- Entries with those below each of them in order. -/
def arrangeEntries : List (String × FileTree) → List (String × FileTree)
  | [] => []
  | (name, t) :: rest => (name, arrange t) :: arrangeEntries rest

end

theorem arrangeEntries_eq (entries : List (String × FileTree)) :
    arrangeEntries entries = entries.map (Prod.map id arrange) := by
  induction entries with
  | nil => rfl
  | cons e rest ih => rw [arrangeEntries, ih, List.map_cons]; rfl

theorem map_fst_arrangeEntries (entries : List (String × FileTree)) :
    (arrangeEntries entries).map Prod.fst = entries.map Prod.fst := by
  simp [arrangeEntries_eq]

theorem Relisted.wellFormed {t t' : FileTree} (h : t.Relisted t') (ht : t.WellFormed) : t'.WellFormed := by
  induction h with
  | refl => exact ht
  | perm hperm =>
      obtain ⟨hnodup, hentries⟩ := wellFormed_dir.mp ht
      exact wellFormed_dir.mpr
        ⟨(hperm.map Prod.fst).nodup_iff.mp hnodup, fun e he => hentries e (hperm.mem_iff.mpr he)⟩
  | inside before after name _ ih =>
      rw [wellFormed_dir, List.map_append, List.map_cons, List.forall_mem_append, List.forall_mem_cons] at *
      obtain ⟨hnodup, hbefore, ⟨hname, ht⟩, hafter⟩ := ht
      exact ⟨hnodup, hbefore, ⟨hname, ih ht⟩, hafter⟩
  | trans _ _ ih ih' => exact ih' (ih ht)

/-- **Listings do not count** for trees whose entries are in the order of their names. -/
theorem Relisted.arrange_eq {t t' : FileTree} (h : t.Relisted t') (ht : t.WellFormed) :
    t'.arrange = t.arrange := by
  induction h with
  | refl => rfl
  | @perm entries entries' hperm =>
      have hnodup : ((arrangeEntries entries).map Prod.fst).Nodup :=
        map_fst_arrangeEntries entries ▸ (wellFormed_dir.mp ht).1
      have hsame : (arrangeEntries entries).Perm (arrangeEntries entries') := by
        rw [arrangeEntries_eq, arrangeEntries_eq]
        exact hperm.map _
      rw [arrange, arrange, sortedByName_of_perm hnodup hsame]
  | inside before after name _ ih =>
      have hentry := (wellFormed_dir.mp ht).2 (name, _) (List.mem_append_right before List.mem_cons_self)
      simp [arrange, arrangeEntries_eq, ih hentry.2]
  | trans h _ ih ih' => rw [ih' (h.wellFormed ht), ih ht]

/-! ## What is found -/

/-- A step of a trail with the tree that it leads to in order. -/
def arrangeStep (e : String × FileTree) : String × FileTree :=
  (e.1, e.2.arrange)

theorem lookup_arrangeEntries (entries : List (String × FileTree)) (name : String) :
    (arrangeEntries entries).lookup name = (entries.lookup name).map arrange := by
  induction entries with
  | nil => rfl
  | cons e rest ih =>
      obtain ⟨key, t⟩ := e
      rw [arrangeEntries, List.lookup_cons, List.lookup_cons, ih]
      cases name == key <;> rfl

theorem lookup_arranged {entries : List (String × FileTree)} (h : (dir entries).WellFormed) (name : String) :
    (sortedByName (arrangeEntries entries)).lookup name = (entries.lookup name).map arrange := by
  have hnodup : ((arrangeEntries entries).map Prod.fst).Nodup :=
    map_fst_arrangeEntries entries ▸ (wellFormed_dir.mp h).1
  rw [lookup_of_perm hnodup (sortedByName_perm _).symm, lookup_arrangeEntries]

theorem ending_arrange (root : FileTree) (trail : List (String × FileTree)) :
    ending root.arrange (trail.map arrangeStep) = (ending root trail).arrange := by
  cases trail <;> rfl

/-- The way along some segments is the same, tree by tree. -/
theorem descend_arrange {root : FileTree} (h : root.WellFormed) {trail : List (String × FileTree)}
    (htrail : ∀ e ∈ trail, e.2.WellFormed) (segments : List String) :
    descend root.arrange (trail.map arrangeStep) segments =
      (descend root trail segments).map (List.map arrangeStep) := by
  induction segments generalizing trail with
  | nil => rfl
  | cons segment rest ih =>
      have hhere := ending_of_hereditary h htrail
      have hending : ((trail.map arrangeStep).head?.map Prod.snd).getD root.arrange =
          (ending root trail).arrange := ending_arrange root trail
      have hending' : (trail.head?.map Prod.snd).getD root = ending root trail := rfl
      rw [descend, descend, hending, hending']
      cases hdir : ending root trail with
      | file content => rfl
      | dir entries =>
          rw [hdir] at hhere
          rw [arrange]
          dsimp only
          split
          · rw [← List.map_tail]
            exact ih fun e he => htrail e (List.mem_of_mem_tail he)
          · split
            · exact ih htrail
            · rw [lookup_arranged hhere]
              cases hlookup : entries.lookup segment with
              | none => rfl
              | some u => exact ih (List.forall_mem_cons.mpr ⟨(hhere.of_lookup hlookup).2, htrail⟩ :
                  ∀ e ∈ (segment, u) :: trail, e.2.WellFormed)

/-- **What is found with entries in order** is what is found, with entries in order. -/
theorem find_arrange {t : FileTree} (h : t.WellFormed) (segments : List String) :
    t.arrange.find segments = (t.find segments).map arrange := by
  have hstart : ∀ e ∈ ([] : List (String × FileTree)), e.2.WellFormed := nofun
  have hdescend : descend t.arrange [] segments = _ := descend_arrange h hstart segments
  rw [find, find, hdescend]
  cases descend t [] segments with
  | error e => rfl
  | ok trail => exact congrArg Except.ok (ending_arrange t trail)

/-- Two outcomes of a search are the same up to the entries of a directory. -/
inductive Agree : Except FileFaultKind FileTree → Except FileFaultKind FileTree → Prop
  | error (e : FileFaultKind) : Agree (.error e) (.error e)
  | file (content : List UInt8) : Agree (.ok (.file content)) (.ok (.file content))
  | dir (entries entries' : List (String × FileTree)) : Agree (.ok (.dir entries)) (.ok (.dir entries'))

theorem agree_of_arrange : ∀ {x y : Except FileFaultKind FileTree}, x.map arrange = y.map arrange → Agree x y
  | .error e, .error e', h => by
      obtain rfl : e = e' := by simpa [Except.map] using h
      exact .error e
  | .error _, .ok _, h => by cases h
  | .ok _, .error _, h => by cases h
  | .ok (.file content), .ok (.file content'), h => by
      obtain rfl : content = content' := by simpa [Except.map, arrange] using h
      exact .file content
  | .ok (.file _), .ok (.dir _), h => by simp [Except.map, arrange] at h
  | .ok (.dir _), .ok (.file _), h => by simp [Except.map, arrange] at h
  | .ok (.dir entries), .ok (.dir entries'), _ => .dir entries entries'

/-- **What is found does not depend on listings**, up to the entries of a directory. -/
theorem Relisted.agree {t t' : FileTree} (h : t.Relisted t') (ht : t.WellFormed) (segments : List String) :
    Agree (t.find segments) (t'.find segments) := by
  refine agree_of_arrange ?_
  rw [← find_arrange ht, ← find_arrange (h.wellFormed ht), h.arrange_eq ht]

end FileTree

/-! ## Sites -/

namespace Site

/-- A site with a tree that a file system holds and a directory to start from in it. -/
structure Sound (s : Site) : Prop where
  tree : s.tree.WellFormed
  absolute : s.here.isAbsolute

/-- Sites that differ only in the order in which directories list their entries. -/
structure Relisted (s s' : Site) : Prop where
  tree : s.tree.Relisted s'.tree
  here : s'.here = s.here
  home : s'.home = s.home

namespace Relisted

variable {s s' : Site}

theorem sound (h : s.Relisted s') (hs : s.Sound) : s'.Sound :=
  ⟨h.tree.wellFormed hs.tree, h.here ▸ hs.absolute⟩

theorem agree (h : s.Relisted s') (hs : s.Sound) (p : FilePath) : FileTree.Agree (s.find p) (s'.find p) := by
  rw [find, find, segments, segments, h.here]
  exact h.tree.agree hs.tree _

theorem isFile_eq (h : s.Relisted s') (hs : s.Sound) (p : FilePath) : s'.isFile p = s.isFile p := by
  rw [isFile, isFile]
  match s.find p, s'.find p, h.agree hs p with
  | _, _, .error _ => rfl
  | _, _, .file _ => rfl
  | _, _, .dir _ _ => rfl

theorem pathExists_eq (h : s.Relisted s') (hs : s.Sound) (p : FilePath) : s'.pathExists p = s.pathExists p := by
  rw [pathExists, pathExists]
  match s.find p, s'.find p, h.agree hs p with
  | _, _, .error _ => rfl
  | _, _, .file _ => rfl
  | _, _, .dir _ _ => rfl

theorem read_eq (h : s.Relisted s') (hs : s.Sound) (p : FilePath) : s'.read p = s.read p := by
  rw [read, read]
  match s.find p, s'.find p, h.agree hs p with
  | _, _, .error _ => rfl
  | _, _, .file _ => rfl
  | _, _, .dir _ _ => rfl

theorem normalize_eq (h : s.Relisted s') (p : FilePath) : s'.normalize p = s.normalize p := by
  rw [normalize, normalize, h.here]

end Relisted

end Site

end SolutionSurvey
