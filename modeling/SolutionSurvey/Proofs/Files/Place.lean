import SolutionSurvey.Files.Tree
import SolutionSurvey.Proofs.Outcome
import Mathlib.Data.List.Basic

/-!
# Places below a directory

Segments that never lead above the directory they are read from lead to the same place wherever that
directory is: following them stays below the trail of the directory, and the normal form of the whole path
is the path of the directory with the normal form of the segments.

## Main definitions

* `climb` — how deep some segments lead, if they never lead above where they start.
* `IsName` — the names that entries of a directory have; `FileTree.Proper` — trees with such names.
* `FileTree.find_below` — what is found below a directory.
* `resolveDots_below` — the normal form of segments below a directory.
* `FilePath.normalize_normalize` — normal forms are their own normal forms.
* `FilePath.forall_mem_toText`, `FilePath.forall_mem_segmentsOf` — the characters of paths, with
  `FilePath.holdsNull_toText` for the null character.
-/

namespace SolutionSurvey

/-- A name that an entry of a directory has: it is not empty, and it is neither of the two that stand for
directories themselves. -/
def IsName (segment : String) : Prop :=
  segment ≠ "" ∧ segment ≠ "." ∧ segment ≠ ".."

/-- How deep segments lead from a depth, nothing if they lead above the start. -/
def climb : ℕ → List String → Option ℕ
  | depth, [] => some depth
  | depth, segment :: rest =>
    if segment = ".." then if depth = 0 then none else climb (depth - 1) rest
    else climb (depth + 1) rest

theorem climb_append (depth : ℕ) (a b : List String) :
    climb depth (a ++ b) = (climb depth a).bind fun depth => climb depth b := by
  induction a generalizing depth with
  | nil => rfl
  | cons segment rest ih =>
      rw [List.cons_append, climb, climb]
      split
      · split
        · rfl
        · exact ih (depth - 1)
      · exact ih (depth + 1)

/-- Names lead deeper, one by one. -/
theorem climb_of_names {names : List String} (h : ∀ n ∈ names, IsName n) (depth : ℕ) :
    climb depth names = some (depth + names.length) := by
  induction names generalizing depth with
  | nil => rfl
  | cons n rest ih =>
      obtain ⟨hn, hrest⟩ := List.forall_mem_cons.mp h
      rw [climb, if_neg hn.2.2, ih hrest, List.length_cons]
      congr 1
      omega

/-! ## Trees -/

namespace FileTree

mutual

/-- All entries of a tree have proper names. -/
def Proper : FileTree → Prop
  | .file _ => True
  | .dir entries => ProperEntries entries

/-- The same for some entries. -/
def ProperEntries : List (String × FileTree) → Prop
  | [] => True
  | (name, t) :: rest => IsName name ∧ Proper t ∧ ProperEntries rest

end

theorem properEntries_iff {entries : List (String × FileTree)} :
    ProperEntries entries ↔ ∀ e ∈ entries, IsName e.1 ∧ e.2.Proper := by
  induction entries with
  | nil => simp [ProperEntries]
  | cons e rest ih => rw [ProperEntries, ih, List.forall_mem_cons, and_assoc]

theorem Proper.entries {t : FileTree} (h : t.Proper) : ∀ e ∈ t.entries, IsName e.1 ∧ e.2.Proper := by
  cases t with
  | file content => exact nofun
  | dir entries => exact properEntries_iff.mp h

/-! ## Following segments -/

/-- The tree at the end of a trail. -/
def ending (root : FileTree) (trail : List (String × FileTree)) : FileTree :=
  trail.head?.map Prod.snd |>.getD root

theorem descend_append (root : FileTree) (trail : List (String × FileTree)) (a b : List String) :
    descend root trail (a ++ b) = descend root trail a >>= fun trail => descend root trail b := by
  induction a generalizing trail with
  | nil => rfl
  | cons segment rest ih =>
      rw [List.cons_append, descend, descend]
      split
      · rfl
      · split
        · exact ih _
        · split
          · exact ih _
          · split
            · rfl
            · exact ih _

/-- **Segments that do not lead above the end of a trail are followed below it** as they are from the tree
at its end. -/
theorem descend_below (root : FileTree) (base trail : List (String × FileTree)) {segments : List String}
    (h : (climb trail.length segments).isSome) (hnames : ∀ s ∈ segments, s ≠ ".") :
    descend root (trail ++ base) segments =
      (descend (ending root base) trail segments).map fun trail => trail ++ base := by
  induction segments generalizing trail with
  | nil => rfl
  | cons segment rest ih =>
      obtain ⟨hsegment, hrest⟩ := List.forall_mem_cons.mp hnames
      have hending : ((trail ++ base).head?.map Prod.snd).getD root =
          (trail.head?.map Prod.snd).getD (ending root base) := by
        cases trail <;> rfl
      rw [descend, descend, hending]
      rw [climb] at h
      cases (trail.head?.map Prod.snd).getD (ending root base) with
      | file content => rfl
      | dir entries =>
          dsimp only
          split
          · next hup =>
            rw [if_pos hup] at h
            cases trail with
            | nil => simp at h
            | cons e trail => exact ih trail h hrest
          · next hup =>
            rw [if_neg hup] at h
            cases entries.lookup segment with
            | none => rfl
            | some t => exact ih ((segment, t) :: trail) h hrest

/-- **What is found below a directory** is what is found from it. -/
theorem find_below {root t : FileTree} {directory segments : List String}
    (ht : root.find directory = .ok t) (h : (climb 0 segments).isSome) (hnames : ∀ s ∈ segments, s ≠ ".") :
    root.find (directory ++ segments) = t.find segments := by
  obtain ⟨base, hbase, hending⟩ := map_eq_ok.mp ht
  have hdescend : descend root [] (directory ++ segments) = _ :=
    descend_append root [] directory segments
  have hbelow : descend root base segments = _ := descend_below root base [] h hnames
  have hend : ending root base = t := hending
  rw [find, hdescend, hbase]
  change Except.map _ (descend root base segments) = _
  rw [hbelow, hend, find]
  cases descend t [] segments with
  | error e => rfl
  | ok trail => cases trail <;> simp [Except.map, ← hend, ending]

/-- Entries of a proper directory have proper names and are proper. -/
theorem Proper.of_lookup {entries : List (String × FileTree)} (h : (FileTree.dir entries).Proper)
    {name : String} {u : FileTree} (hu : entries.lookup name = some u) : IsName name ∧ u.Proper := by
  obtain ⟨before, after, hsplit, -⟩ := List.lookup_eq_some_iff.mp hu
  have hmem : (name, u) ∈ entries := by simp [hsplit]
  exact h.entries (name, u) hmem

section Hereditary

variable {P : FileTree → Prop}
  (hentry : ∀ entries name u, P (.dir entries) → entries.lookup name = some u → P u)

theorem ending_of_hereditary {root : FileTree} (h : P root) {trail : List (String × FileTree)}
    (htrail : ∀ e ∈ trail, P e.2) : P (ending root trail) := by
  cases trail with
  | nil => exact h
  | cons e trail => exact htrail e List.mem_cons_self

include hentry

/-- What passes from a directory to its entries holds of all trees along a way. -/
theorem descend_of_hereditary {root : FileTree} (h : P root) {segments : List String}
    {trail trail' : List (String × FileTree)} (htrail : ∀ e ∈ trail, P e.2)
    (h' : descend root trail segments = .ok trail') : ∀ e ∈ trail', P e.2 := by
  induction segments generalizing trail with
  | nil =>
      cases h'
      exact htrail
  | cons segment rest ih =>
      have hhere := ending_of_hereditary h htrail
      rw [descend] at h'
      split at h'
      · cases h'
      · next entries hentries =>
        change FileTree.ending root trail = .dir entries at hentries
        split at h'
        · exact ih (fun e he => htrail e (List.mem_of_mem_tail he)) h'
        · split at h'
          · exact ih htrail h'
          · split at h'
            · cases h'
            · next u hu =>
              rw [hentries] at hhere
              exact ih (List.forall_mem_cons.mpr ⟨hentry _ _ _ hhere hu, htrail⟩) h'

/-- What passes from a directory to its entries holds of all that is found below it. -/
theorem find_of_hereditary {t u : FileTree} (h : P t) {segments : List String} (hu : t.find segments = .ok u) :
    P u := by
  obtain ⟨trail, htrail, hending⟩ := map_eq_ok.mp hu
  have hstart : ∀ e ∈ ([] : List (String × FileTree)), P e.2 := nofun
  exact hending ▸ ending_of_hereditary h (descend_of_hereditary hentry h hstart htrail)

end Hereditary

/-- What is found in a proper tree is proper. -/
theorem Proper.of_find {t u : FileTree} (h : t.Proper) {segments : List String}
    (hu : t.find segments = .ok u) : u.Proper :=
  find_of_hereditary (fun _ _ _ ht hv => (ht.of_lookup hv).2) h hu

end FileTree

/-! ## Normal forms -/

theorem foldl_dotStep_below (base done : List String) {segments : List String}
    (h : (climb done.length segments).isSome)
    (hnames : ∀ s ∈ segments, s ≠ "" ∧ s ≠ ".") :
    segments.foldl FilePath.dotStep (done ++ base) = segments.foldl FilePath.dotStep done ++ base := by
  induction segments generalizing done with
  | nil => rfl
  | cons segment rest ih =>
      obtain ⟨hsegment, hrest⟩ := List.forall_mem_cons.mp hnames
      rw [climb] at h
      rw [List.foldl_cons, List.foldl_cons, FilePath.dotStep, FilePath.dotStep,
        if_neg (not_or.mpr hsegment), if_neg (not_or.mpr hsegment)]
      by_cases hup : segment = ".."
      · rw [if_pos hup] at h
        rw [if_pos hup, if_pos hup]
        cases done with
        | nil => simp at h
        | cons name done => exact ih done h hrest
      · rw [if_neg hup] at h
        rw [if_neg hup, if_neg hup]
        exact ih (segment :: done) h hrest

/-- Names are in normal form. -/
theorem foldl_dotStep_names {names : List String} (h : ∀ n ∈ names, IsName n) (done : List String) :
    names.foldl FilePath.dotStep done = names.reverse ++ done := by
  induction names generalizing done with
  | nil => rfl
  | cons n rest ih =>
      obtain ⟨⟨hempty, hpoint, hup⟩, hrest⟩ := List.forall_mem_cons.mp h
      rw [List.foldl_cons, FilePath.dotStep, if_neg (not_or.mpr ⟨hempty, hpoint⟩), if_neg hup, ih hrest,
        List.reverse_cons, List.append_assoc, List.singleton_append]

/-- **The normal form of segments below a directory** that they do not leave. -/
theorem resolveDots_below {directory segments : List String} (hdirectory : ∀ n ∈ directory, IsName n)
    (h : (climb 0 segments).isSome) (hnames : ∀ s ∈ segments, s ≠ "" ∧ s ≠ ".") :
    FilePath.resolveDots (directory ++ segments) = directory ++ FilePath.resolveDots segments := by
  have hbelow := foldl_dotStep_below directory.reverse [] h hnames
  rw [List.nil_append] at hbelow
  rw [FilePath.resolveDots, List.foldl_append, foldl_dotStep_names hdirectory, List.append_nil, hbelow,
    List.reverse_append, List.reverse_reverse, FilePath.resolveDots]

namespace FilePath

theorem isName_of_mem_foldl_dotStep {done : List String} (hdone : ∀ n ∈ done, IsName n) (segments : List String) :
    ∀ n ∈ segments.foldl dotStep done, IsName n := by
  induction segments generalizing done with
  | nil => exact hdone
  | cons segment rest ih =>
      rw [List.foldl_cons]
      apply ih
      rw [dotStep]
      split
      · exact hdone
      · next hplain =>
        split
        · exact fun n hn => hdone n (List.mem_of_mem_tail hn)
        · next hup =>
          obtain ⟨hempty, hpoint⟩ := not_or.mp hplain
          exact List.forall_mem_cons.mpr ⟨⟨hempty, hpoint, hup⟩, hdone⟩

/-- All segments of a normal form are names. -/
theorem isName_of_mem_resolveDots {segments : List String} {n : String} (hn : n ∈ resolveDots segments) :
    IsName n :=
  isName_of_mem_foldl_dotStep (List.forall_mem_nil IsName) segments n (List.mem_reverse.mp hn)

/-- All segments of the directory of a normal form are names. -/
theorem isName_of_mem_parent {here p : FilePath} {n : String} (hn : n ∈ (normalize here p).parent.segments) :
    IsName n :=
  isName_of_mem_resolveDots (List.dropLast_subset _ hn)

theorem resolveDots_names {names : List String} (h : ∀ n ∈ names, IsName n) : resolveDots names = names := by
  rw [resolveDots, foldl_dotStep_names h, List.append_nil, List.reverse_reverse]

/-- An absolute path of names is in normal form. -/
theorem normalize_of_names {here p : FilePath} (habsolute : p.isAbsolute) (h : ∀ n ∈ p.segments, IsName n) :
    normalize here p = p := by
  have hwhole : here.join p = p := if_pos habsolute
  rw [normalize, hwhole]
  simp only [resolveDots_names h]

/-- The normal form of an absolute path is absolute, and so is that of any path read from one. -/
theorem isAbsolute_normalize {here : FilePath} (h : here.isAbsolute) (p : FilePath) :
    (normalize here p).isAbsolute := by
  rw [normalize, join]
  split
  · assumption
  · exact h

/-- An absolute normal form is its own normal form. -/
theorem normalize_normalize {here p : FilePath} (h : (normalize here p).isAbsolute) :
    normalize here (normalize here p) = normalize here p :=
  normalize_of_names h fun _ => isName_of_mem_resolveDots

end FilePath

/-! ## Texts -/

/-- What stands between two separators is a part of the whole, and holds no separator. -/
theorem mem_of_mem_splitOnP {α : Type} {p : α → Bool} {cs piece : List α} (hpiece : piece ∈ cs.splitOnP p)
    {c : α} (hc : c ∈ piece) : c ∈ cs ∧ p c = false := by
  induction cs generalizing piece with
  | nil =>
      rw [List.splitOnP_nil, List.mem_singleton] at hpiece
      subst hpiece
      cases hc
  | cons first rest ih =>
      have hlater {piece : List α} (hpiece : piece ∈ rest.splitOnP p) (hc : c ∈ piece) :
          c ∈ first :: rest ∧ p c = false :=
        (ih hpiece hc).imp_left (List.mem_cons_of_mem first)
      rw [List.splitOnP_cons_eq_if_modifyHead] at hpiece
      split at hpiece
      · obtain rfl | hpiece := List.mem_cons.mp hpiece
        · cases hc
        · exact hlater hpiece hc
      · next hfirst =>
        cases hrest : rest.splitOnP p with
        | nil => rw [hrest] at hpiece; cases hpiece
        | cons head tail =>
            rw [hrest] at hlater
            rw [hrest, List.modifyHead_cons, List.mem_cons] at hpiece
            obtain rfl | hpiece := hpiece
            · obtain rfl | hhead := List.mem_cons.mp hc
              · exact ⟨List.mem_cons_self, by simpa using hfirst⟩
              · exact hlater List.mem_cons_self hhead
            · exact hlater (List.mem_cons_of_mem head hpiece) hc

namespace FilePath

theorem toList_slashes (count : ℕ) : ("".pushn '/' count).toList = List.replicate count '/' := by
  induction count with
  | zero => rfl
  | succ count ih =>
      have hpush : "".pushn '/' (count + 1) = ("".pushn '/' count).push '/' := rfl
      rw [hpush, String.toList_push, ih, List.replicate_succ']

section Characters

variable {P : Char → Prop}

/-- What holds of slashes, points and the characters of all segments holds of those of the whole text. -/
theorem forall_mem_toText {p : FilePath} (hslash : P '/') (hpoint : P '.')
    (h : ∀ n ∈ p.segments, ∀ c ∈ n.toList, P c) : ∀ c ∈ p.toText.toList, P c := by
  have hjoined : ∀ names : List String, (∀ n ∈ names, ∀ c ∈ n.toList, P c) →
      ∀ c ∈ ("/".intercalate names).toList, P c := by
    intro names hnames
    induction names with
    | nil => exact nofun
    | cons n rest ih =>
        obtain ⟨hn, hrest⟩ := List.forall_mem_cons.mp hnames
        cases rest with
        | nil => simpa using hn
        | cons m rest =>
            rw [String.intercalate_cons_cons, String.toList_append, String.toList_append,
              List.forall_mem_append, List.forall_mem_append]
            exact ⟨⟨hn, by simpa using hslash⟩, ih hrest⟩
  rw [toText]
  split
  · simpa using hpoint
  · rw [String.toList_append, toList_slashes, List.forall_mem_append]
    exact ⟨fun c hc => List.eq_of_mem_replicate hc ▸ hslash, hjoined _ h⟩

/-- What holds of all characters of a text holds of those of its segments. -/
theorem forall_mem_segmentsOf {text : String} (h : ∀ c ∈ text.toList, P c) :
    ∀ n ∈ segmentsOf text, ∀ c ∈ n.toList, P c := by
  intro n hn c hc
  obtain ⟨piece, hpiece, rfl⟩ := List.mem_map.mp (List.mem_filter.mp hn).1
  rw [splitChars, List.splitOn_eq_splitOnP] at hpiece
  rw [String.toList_ofList] at hc
  exact h c (mem_of_mem_splitOnP hpiece hc).1

end Characters

theorem holdsNull_eq_false_iff {text : String} : holdsNull text = false ↔ ∀ c ∈ text.toList, c ≠ Char.ofNat 0 := by
  rw [holdsNull, List.contains_eq_mem, decide_eq_false_iff_not]
  exact List.forall_mem_ne'.symm

/-- The text of a path of names holds no null character. -/
theorem holdsNull_toText {p : FilePath} (h : ∀ n ∈ p.segments, holdsNull n = false) :
    holdsNull p.toText = false :=
  holdsNull_eq_false_iff.mpr <|
    forall_mem_toText (by decide) (by decide) fun n hn => holdsNull_eq_false_iff.mp (h n hn)

/-- The path of a text without a null character has none. -/
theorem holdsNull_ofText {text : String} (h : holdsNull text = false) : holdsNull (ofText text).toText = false :=
  holdsNull_toText fun n hn =>
    holdsNull_eq_false_iff.mpr (forall_mem_segmentsOf (holdsNull_eq_false_iff.mp h) n hn)

end FilePath

end SolutionSurvey
