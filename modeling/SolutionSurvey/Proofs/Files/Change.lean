import SolutionSurvey.Proofs.Files.Place

/-!
# Changes of a tree

What changes leave as it was. Making directories keeps all files, and adding to a file keeps all other
ones; the file then holds what it held before and what was added.

## Main definitions

* `FileTree.Straight` — segments that lead down only.
* `FileTree.HasFile` — what a file at straight segments holds.
* `FileTree.Keeps` — all files of a tree, but perhaps one, are in another tree.
* `FileTree.keeps_makeDirs` — making directories keeps all files.
* `FileTree.append_of_hasFile`, `FileTree.append_eq_ok` — adding to a file.
-/

namespace SolutionSurvey.FileTree

variable {t t' u : FileTree} {entries : List (String × FileTree)} {segments above : List String}
  {name : String} {content : List UInt8}

/-- Segments that lead down only. -/
def Straight (segments : List String) : Prop :=
  ∀ s ∈ segments, s ≠ "." ∧ s ≠ ".."

theorem Straight.climb (h : Straight segments) (depth : ℕ) : (climb depth segments).isSome := by
  induction segments generalizing depth with
  | nil => rfl
  | cons s rest ih =>
      obtain ⟨hs, hrest⟩ := List.forall_mem_cons.mp h
      rw [SolutionSurvey.climb, if_neg hs.2]
      exact ih hrest (depth + 1)

/-- Straight segments below a directory. -/
theorem Straight.find_append {directory : List String} (h : Straight segments) (ht : t.find directory = .ok u) :
    t.find (directory ++ segments) = u.find segments :=
  find_below ht (h.climb 0) fun s hs => (h s hs).1

/-- One segment leads to an entry. -/
theorem find_name (h : name ≠ "." ∧ name ≠ "..") :
    (dir entries).find [name] = (entries.lookup name).elim (.error .notFound) .ok := by
  simp only [find, descend, List.head?_nil, Option.map_none, Option.getD_none, if_neg h.1, if_neg h.2]
  cases entries.lookup name <;> rfl

/-- Straight segments lead to an entry first. -/
theorem find_cons (h : Straight (name :: segments)) :
    (dir entries).find (name :: segments) =
      (entries.lookup name).elim (.error .notFound) fun u => u.find segments := by
  obtain ⟨hname, hrest⟩ := List.forall_mem_cons.mp h
  have hone : (dir entries).find [name] = _ := find_name hname
  cases hlookup : entries.lookup name with
  | some u =>
      rw [hlookup] at hone
      exact Straight.find_append hrest hone
  | none =>
      simp only [find, descend, List.head?_nil, Option.map_none, Option.getD_none, if_neg hname.1,
        if_neg hname.2, hlookup]
      rfl

/-- What is found in a directory is one of its entries. -/
theorem find_concat (hname : name ≠ "." ∧ name ≠ "..") (h : t.find (above ++ [name]) = .ok u) :
    ∃ entries, t.find above = .ok (.dir entries) ∧ entries.lookup name = some u := by
  obtain ⟨trail, htrail, -⟩ := map_eq_ok.mp h
  obtain ⟨first, hfirst, -⟩ := bind_eq_ok.mp ((descend_append t [] above [name]).symm.trans htrail)
  have habove : t.find above = .ok (ending t first) := map_eq_ok.mpr ⟨first, hfirst, rfl⟩
  have hstraight : Straight [name] := List.forall_mem_singleton.mpr hname
  rw [hstraight.find_append habove] at h
  cases hending : ending t first with
  | file content => rw [hending] at h; cases h
  | dir entries =>
      refine ⟨entries, hending ▸ habove, ?_⟩
      rw [hending, find_name hname] at h
      cases hlookup : entries.lookup name with
      | none => rw [hlookup] at h; cases h
      | some v => rw [hlookup] at h; cases h; rfl

/-! ## Ways -/

/-- A trail that leads down from a root, one entry after the other. -/
inductive Way (root : FileTree) : List (String × FileTree) → Prop where
  | nil : Way root []
  | cons {trail es : List (String × FileTree)} {s : String} {v : FileTree} (h : Way root trail)
    (hs : s ≠ "." ∧ s ≠ "..") (hdir : ending root trail = .dir es) (hlookup : es.lookup s = some v) :
    Way root ((s, v) :: trail)

/-- Following segments from the end of a way leads along a way. -/
theorem Way.of_descend {root : FileTree} {trail trail' : List (String × FileTree)} (h : Way root trail)
    (h' : descend root trail segments = .ok trail') : Way root trail' := by
  induction segments generalizing trail with
  | nil =>
      cases h'
      exact h
  | cons segment rest ih =>
      rw [descend] at h'
      split at h'
      · cases h'
      · next entries hentries =>
        change ending root trail = .dir entries at hentries
        split at h'
        · refine ih ?_ h'
          cases h with
          | nil => exact .nil
          | cons htail => exact htail
        · next hup =>
          split at h'
          · exact ih h h'
          · next hpoint =>
            split at h'
            · cases h'
            · next hlookup => exact ih (h.cons ⟨hpoint, hup⟩ hentries hlookup) h'

theorem Way.straight {root : FileTree} {trail : List (String × FileTree)} (h : Way root trail) :
    Straight (trail.map Prod.fst).reverse := by
  intro s hs
  rw [List.mem_reverse] at hs
  induction h with
  | nil => cases hs
  | cons _ hname _ _ ih =>
      rw [List.map_cons, List.mem_cons] at hs
      obtain rfl | hs := hs
      · exact hname
      · exact ih hs

/-- The names along a way lead to its end. -/
theorem Way.find {root : FileTree} {trail : List (String × FileTree)} (h : Way root trail) :
    root.find (trail.map Prod.fst).reverse = .ok (ending root trail) := by
  induction h with
  | nil => rfl
  | cons _ hname hdir hlookup ih =>
      have hstraight : Straight [_] := List.forall_mem_singleton.mpr hname
      rw [List.map_cons, List.reverse_cons, hstraight.find_append ih, hdir, find_name hname, hlookup]
      rfl

/-- A place is reached by straight segments, and it is what the segments it comes from lead to. -/
theorem place_eq_ok (h : t.place segments = .ok above) : Straight above ∧ t.find above = t.find segments := by
  obtain ⟨trail, htrail, rfl⟩ := map_eq_ok.mp h
  have hway : Way t trail := Way.nil.of_descend htrail
  refine ⟨hway.straight, hway.find.trans ?_⟩
  rw [FileTree.find, htrail]
  rfl

/-- Straight segments are the names along the way that they lead. -/
theorem Straight.map_fst_descend {root : FileTree} {trail trail' : List (String × FileTree)}
    (h : Straight segments) (h' : descend root trail segments = .ok trail') :
    trail'.map Prod.fst = segments.reverse ++ trail.map Prod.fst := by
  induction segments generalizing trail with
  | nil =>
      cases h'
      rfl
  | cons s rest ih =>
      obtain ⟨hs, hrest⟩ := List.forall_mem_cons.mp h
      rw [descend] at h'
      split at h'
      · cases h'
      · rw [if_neg hs.2, if_neg hs.1] at h'
        split at h'
        · cases h'
        · rw [ih hrest h', List.reverse_cons, List.append_assoc]
          rfl

/-- Straight segments are their own place. -/
theorem Straight.place (h : Straight segments) (hfind : t.find segments = .ok u) :
    t.place segments = .ok segments := by
  obtain ⟨trail, htrail, -⟩ := map_eq_ok.mp hfind
  refine map_eq_ok.mpr ⟨trail, htrail, ?_⟩
  rw [h.map_fst_descend htrail, List.map_nil, List.append_nil, List.reverse_reverse]

/-! ## Changing one place -/

theorem lookup_setEntry (new : FileTree) (other : String) :
    (setEntry name (some new) entries).lookup other =
      if other = name then some new else entries.lookup other := by
  induction entries with
  | nil =>
      rw [setEntry, List.lookup_cons]
      by_cases h : other = name
      · simp [h]
      · simp [h, beq_false_of_ne h]
  | cons e rest ih =>
      obtain ⟨n, t⟩ := e
      rw [setEntry]
      by_cases hn : n = name
      · rw [if_pos hn, List.lookup_cons, List.lookup_cons, hn]
        by_cases h : other = name
        · simp [h]
        · simp [h, beq_false_of_ne h]
      · rw [if_neg hn, List.lookup_cons, List.lookup_cons, ih]
        by_cases h : other = n
        · simp [h, hn]
        · simp [beq_false_of_ne h]

theorem update_cons (new : Option FileTree) (h : segments ≠ []) :
    update new (name :: segments) t =
      .dir (setEntry name (some (update new segments ((t.named? name).getD (.dir [])))) t.entries) := by
  cases segments with
  | nil => exact absurd rfl h
  | cons s rest => rw [update]; exact nofun

/-- What was put in a directory is found there. -/
theorem find_update_self (new : FileTree) (h : Straight (above ++ [name]))
    (hdir : t.find above = .ok (.dir entries)) :
    (update (some new) (above ++ [name]) t).find (above ++ [name]) = .ok new := by
  induction above generalizing t with
  | nil =>
      cases hdir
      rw [List.nil_append, update, find_cons h, FileTree.entries, lookup_setEntry, if_pos rfl]
      rfl
  | cons s rest ih =>
      cases t with
      | file content => cases hdir
      | dir es =>
          obtain ⟨hs, hrest⟩ := List.forall_mem_cons.mp h
          have hstraight : Straight (s :: rest) := fun n hn => h n (List.mem_append_left _ hn)
          rw [find_cons hstraight] at hdir
          cases hlookup : es.lookup s with
          | none => rw [hlookup] at hdir; cases hdir
          | some u =>
              rw [hlookup] at hdir
              rw [List.cons_append] at h ⊢
              rw [update_cons (some new) (by simp), find_cons h, lookup_setEntry, if_pos rfl, named?, hlookup]
              exact ih hrest hdir

/-- A change in a directory keeps what is not below it. -/
theorem find_update_other (new : FileTree) (h : Straight above) (hdir : t.find above = .ok (.dir entries))
    (hsegments : Straight segments) (hfind : t.find segments = .ok (.file content))
    (hother : ¬ above ++ [name] <+: segments) :
    (update (some new) (above ++ [name]) t).find segments = .ok (.file content) := by
  induction above generalizing t segments with
  | nil =>
      cases hdir
      cases segments with
      | nil => cases hfind
      | cons s rest =>
          have hne : s ≠ name := by
            rintro rfl
            exact hother ⟨rest, rfl⟩
          rw [find_cons hsegments] at hfind
          rw [List.nil_append, update, find_cons hsegments, FileTree.entries, lookup_setEntry, if_neg hne]
          exact hfind
  | cons a above ih =>
      cases t with
      | file content => cases hdir
      | dir es =>
          rw [find_cons h] at hdir
          cases segments with
          | nil => cases hfind
          | cons s rest =>
              rw [find_cons hsegments] at hfind
              rw [List.cons_append, update_cons (some new) (by simp), find_cons hsegments, lookup_setEntry,
                named?, FileTree.entries]
              by_cases hs : s = a
              · subst hs
                rw [if_pos rfl]
                cases hlookup : es.lookup s with
                | none => rw [hlookup] at hdir; cases hdir
                | some u =>
                    rw [hlookup] at hdir hfind
                    refine ih (List.forall_mem_cons.mp h).2 hdir (List.forall_mem_cons.mp hsegments).2 hfind
                      fun hprefix => ?_
                    exact hother (List.cons_prefix_cons.mpr ⟨rfl, hprefix⟩)
              · rw [if_neg hs]
                exact hfind

/-! ## Files that are kept -/

/-- What the file at some straight segments holds. -/
structure HasFile (t : FileTree) (segments : List String) (content : List UInt8) : Prop where
  straight : Straight segments
  find : t.find segments = .ok (.file content)

theorem HasFile.unique {old : List UInt8} (h : t.HasFile segments old) (h' : t.HasFile segments content) :
    old = content := by
  cases h.find.symm.trans h'.find
  rfl

/-- All files of a tree, but perhaps the one at some segments, are in another tree. -/
def KeepsBut (segments : List String) (t t' : FileTree) : Prop :=
  ∀ other, other ≠ segments → ∀ content, t.HasFile other content → t'.HasFile other content

/-- All files of a tree are in another tree. -/
def Keeps (t t' : FileTree) : Prop :=
  ∀ segments content, t.HasFile segments content → t'.HasFile segments content

theorem Keeps.refl (t : FileTree) : Keeps t t :=
  fun _ _ h => h

theorem Keeps.trans {t'' : FileTree} (h : Keeps t t') (h' : Keeps t' t'') : Keeps t t'' :=
  fun segments content hfile => h' segments content (h segments content hfile)

/-- A change keeps all files but the one in its place, if there is no directory in that place. -/
theorem keepsBut_update (new : FileTree) (name : String) (h : Straight above)
    (hdir : t.find above = .ok (.dir entries)) (hfile : ∀ es, entries.lookup name ≠ some (.dir es)) :
    KeepsBut (above ++ [name]) t (update (some new) (above ++ [name]) t) := by
  intro other hne content hother
  refine ⟨hother.straight, find_update_other new h hdir hother.straight hother.find ?_⟩
  rintro ⟨rest, rfl⟩
  have hbelow : Straight (name :: rest) := fun s hs => hother.straight s (by simp_all)
  have hfind := hother.find
  rw [List.append_assoc, List.singleton_append, hbelow.find_append hdir, find_cons hbelow] at hfind
  cases hlookup : entries.lookup name with
  | none => rw [hlookup] at hfind; cases hfind
  | some v =>
      rw [hlookup] at hfind
      cases v with
      | dir es => exact hfile es hlookup
      | file old =>
          cases rest with
          | nil => exact hne (List.append_nil _)
          | cons s rest => cases hfind

/-! ## Making directories -/

/-- Making a directory keeps all files. -/
theorem keeps_makeDir (h : makeDir segments t = .ok t') : Keeps t t' := by
  rw [makeDir] at h
  split at h
  · cases h
  · next name hlast =>
    split at h
    · next es above hfind hplace =>
      split at h
      · cases h
      · next hfree =>
        cases h
        obtain ⟨hstraight, hsame⟩ := place_eq_ok hplace
        have hdir := hsame.trans hfind
        have hnone : es.lookup name = none := by
          rw [← Option.not_isSome_iff_eq_none]
          exact fun hsome => hfree (.inr hsome)
        intro other content hother
        refine keepsBut_update _ name hstraight hdir (by simp [hnone]) other ?_ content hother
        rintro rfl
        have hname := hother.straight name (by simp)
        obtain ⟨es', hdir', hlookup⟩ := find_concat hname hother.find
        rw [hdir] at hdir'
        cases hdir'
        rw [hnone] at hlookup
        cases hlookup
    all_goals cases h

/-- **Making directories keeps all files.** -/
theorem keeps_makeDirs {segments : List Wording} {count : ℕ} (h : makeDirs segments count t = .ok t') :
    Keeps t t' := by
  induction count generalizing t t' with
  | zero =>
      cases h
      exact .refl t
  | succ count ih =>
      simp only [makeDirs] at h
      split at h
      · next hmake =>
        cases h
        exact keeps_makeDir hmake
      · split at h
        · cases h
        · next t₁ hdirs =>
          split at h
          · next hmake =>
            cases h
            exact (ih hdirs).trans (keeps_makeDir hmake)
          · split at h
            · cases h
              exact ih hdirs
            · cases h
      · split at h
        · cases h
          exact .refl t
        · cases h

/-! ## Adding to a file -/

/-- A file can be added to, and then it holds what it held before and what was added. -/
theorem append_of_hasFile {old : List UInt8} (h : t.HasFile segments old) (content : List UInt8) :
    ∃ t', append segments content t = .ok t' ∧ t'.HasFile segments (old ++ content) ∧
      KeepsBut segments t t' := by
  refine ⟨write segments (old ++ content) t, ?_, ?_⟩
  · simp only [append, h.find, h.straight.place h.find]
  · obtain rfl | ⟨above, name, rfl⟩ := List.eq_nil_or_concat' segments
    · have hroot : t = .file old := by simpa [find, descend, Except.map] using h.find
      refine ⟨⟨h.straight, rfl⟩, fun other hne content hother => ?_⟩
      cases other with
      | nil => exact absurd rfl hne
      | cons s rest =>
          have hfind := hother.find
          rw [hroot] at hfind
          cases hfind
    · have habove : Straight above := fun s hs => h.straight s (List.mem_append_left _ hs)
      obtain ⟨es, hdir, hlookup⟩ := find_concat (h.straight name (by simp)) h.find
      exact ⟨⟨h.straight, find_update_self _ h.straight hdir⟩,
        keepsBut_update _ name habove hdir (by simp [hlookup])⟩

/-- After something was added at straight segments, there is a file, and all other files are kept. -/
theorem append_eq_ok (hstraight : Straight segments) (h : append segments content t = .ok t') :
    (∃ now, t'.HasFile segments now) ∧ KeepsBut segments t t' := by
  by_cases hold : ∃ old, t.find segments = .ok (.file old)
  · obtain ⟨old, hfind⟩ := hold
    obtain ⟨t₁, hadd, hfile, hkeeps⟩ := append_of_hasFile ⟨hstraight, hfind⟩ content
    rw [hadd] at h
    cases h
    exact ⟨⟨_, hfile⟩, hkeeps⟩
  · rw [append] at h
    split at h
    · cases h
    · next old hfind => exact absurd ⟨old, hfind⟩ hold
    · next hmissing =>
      split at h
      · next es above name hdir hplace hlast =>
        cases h
        have hwhole : segments.dropLast ++ [name] = segments := List.dropLast_append_getLast? name hlast
        have habove : Straight segments.dropLast := fun s hs => hstraight s (List.dropLast_subset segments hs)
        rw [habove.place hdir] at hplace
        cases hplace
        have hnone : es.lookup name = none := by
          have hname : Straight [name] := fun s hs => hstraight s (hwhole ▸ List.mem_append_right _ hs)
          rw [← hwhole, hname.find_append hdir, find_cons hname] at hmissing
          cases hlookup : es.lookup name with
          | none => rfl
          | some v => rw [hlookup] at hmissing; cases hmissing
        have hself := find_update_self (.file content) (hwhole.symm ▸ hstraight) hdir
        have hkeeps := keepsBut_update (.file content) name habove hdir (by simp [hnone])
        rw [hwhole] at hself hkeeps
        rw [hwhole]
        exact ⟨⟨content, hstraight, hself⟩, hkeeps⟩
      all_goals cases h
    · cases h

end SolutionSurvey.FileTree
