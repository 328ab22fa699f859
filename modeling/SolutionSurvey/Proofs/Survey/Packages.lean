import SolutionSurvey.Proofs.Package.Order
import SolutionSurvey.Proofs.Solution.Resolution
import SolutionSurvey.Proofs.Survey.Stream
import SolutionSurvey.Survey.Packages

/-!
# The packages of a solution

The packages of projects come one by one, manifest after manifest, up to the first manifest that cannot
be read or the first element that gives no identity. Where everything can be read they are the identities
of all manifests in order. Their set in order is then determined by their classes alone, so that neither
the order of the projects nor the order of the elements in a manifest matters to it.

## Main definitions

* `PackageStream.course` — the packages of some projects, one by one.
* `PackageStream.replies_ofProjects` — the stream of packages takes this course.
* `Project.Readable` — the manifest can be read, and all its references give identities.
* `Project.identities`, `Solution.identities` — the packages of a readable project and solution.
* `Solution.Rearranges` — the projects and the references in their manifests come in another order.
* `Solution.distinctPackages_spec` — each package of a readable solution once, in strict order.
-/

namespace SolutionSurvey

variable {s : Site}

/-! ## One by one -/

namespace PackageStream

/-- The packages of some elements of a manifest after `count` others, then what comes after it. -/
def below (p : Project) (after : Course PackageReference) :
    List Xml.Element → ℕ → Course PackageReference
  | [], count => after.note [.packagesRead p.name count]
  | e :: rest, count =>
    match packageOf? e with
    | none => below p after rest count
    | some (.ok package) => .gives [] ⟨p, package⟩ (below p after rest (count + 1))
    | some (.error f) => .ends [] (some f)

/-- The packages of some projects. -/
def course (s : Site) : List Project → Course PackageReference
  | [] => .ends [] none
  | p :: rest =>
    match p.path with
    | none => course s rest
    | some path =>
      match Manifest.load s path with
      | .error f => .ends [] (some f)
      | .ok root => below p (course s rest) (Manifest.packageReferences root) 0

/-- A stream without anything to come is at its end. -/
theorem next_done : next s done = ([], .finished, done) := rfl

/-- A project under way gives the packages of its elements, and then what the others give. -/
theorem follows_advance (p : Project) {c : Course PackageReference} {pending : List Project}
    (h : c.Follows (next s) (nextOf s pending)) (elements : List Xml.Element) (count : ℕ) :
    (below p c elements count).Follows (next s) (advance p elements count pending (nextOf s pending)) := by
  induction elements generalizing count with
  | nil => exact h.note [.packagesRead p.name count]
  | cons e rest ih =>
      rcases hpackage : packageOf? e with _ | f | package
      · have hsame : advance p (e :: rest) count pending (nextOf s pending) =
            advance p rest count pending (nextOf s pending) := by
          simp only [advance, seek, hpackage]
        simp only [below, hpackage, hsame]
        exact ih count
      · simp only [below, advance, seek, hpackage]
        exact ⟨rfl, rfl, next_done⟩
      · simp only [below, advance, seek, hpackage]
        exact ⟨rfl, rfl, ih (count + 1)⟩

theorem follows_nextOf (ps : List Project) : (course s ps).Follows (next s) (nextOf s ps) := by
  induction ps with
  | nil => exact ⟨rfl, rfl, next_done⟩
  | cons p rest ih =>
      rcases hpath : p.path with _ | path
      · simp only [course, nextOf, hpath]
        exact ih
      · rcases hroot : Manifest.load s path with f | root
        · simp only [course, nextOf, hpath, hroot]
          exact ⟨rfl, rfl, next_done⟩
        · simp only [course, nextOf, hpath, hroot]
          exact follows_advance p ih _ 0

/-- The stream of the packages of some projects takes their course. -/
theorem replies_ofProjects (s : Site) (ps : List Project) (n : ℕ) :
    replies (next s) n (ofProjects ps) = (course s ps).replies n :=
  (follows_nextOf ps).replies_eq n

end PackageStream

/-! ## Readable manifests -/

/-- What an element writes about a package: a name and a version. -/
def Xml.Element.packageParts (e : Xml.Element) : Option String × Option String :=
  (e.attribute? "Include", e.attribute? "Version")

/-- What the references of a project to packages write, if it has a manifest that can be read. -/
def Project.packageParts? (s : Site) (p : Project) : Option (List (Option String × Option String)) :=
  p.path.bind fun path => (Manifest.load s path).toOption.map fun root =>
    (Manifest.packageReferences root).map Xml.Element.packageParts

/-- The identity of a written name and version, if there is one. -/
def identityFrom? (parts : Option String × Option String) : Option PackageIdentity :=
  (packageFrom? parts.1 parts.2).bind Except.toOption

/-- A written name and version give an identity, or one of them is missing. -/
def Resolves (parts : Option String × Option String) : Prop :=
  ∀ r ∈ packageFrom? parts.1 parts.2, r.isOk

instance : DecidablePred Resolves :=
  fun parts => inferInstanceAs (Decidable (∀ r ∈ packageFrom? parts.1 parts.2, r.isOk))

/-- The manifest of a project, if there is one, can be read, and its references to packages give
identities. -/
def Project.Readable (s : Site) (p : Project) : Prop :=
  p.path = none ∨ ∃ parts, p.packageParts? s = some parts ∧ ∀ t ∈ parts, Resolves t

/-- The packages of a project, as far as they can be read. -/
def Project.identities (s : Site) (p : Project) : List PackageIdentity :=
  ((p.packageParts? s).getD []).filterMap identityFrom?

/-- The packages of the projects of a solution, as far as they can be read. -/
def Solution.identities (s : Site) (sol : Solution) : List PackageIdentity :=
  sol.projects.flatMap (Project.identities s)

/-- A readable project has no manifest and no identities, or a manifest whose elements give them. -/
theorem Project.Readable.cases {p : Project} (h : p.Readable s) :
    (p.path = none ∧ p.identities s = []) ∨
      ∃ path root, p.path = some path ∧ Manifest.load s path = .ok root ∧
        (∀ e ∈ Manifest.packageReferences root, Resolves e.packageParts) ∧
        p.identities s = (Manifest.packageReferences root).filterMap fun e =>
          identityFrom? e.packageParts := by
  rcases h with hnone | ⟨parts, hparts, hall⟩
  · exact .inl ⟨hnone, by simp [identities, packageParts?, hnone]⟩
  · have hidentities : p.identities s = parts.filterMap identityFrom? := by
      rw [identities, hparts, Option.getD_some]
    simp only [packageParts?, Option.bind_eq_some_iff, Option.map_eq_some_iff] at hparts
    obtain ⟨path, hpath, root, hroot, rfl⟩ := hparts
    rw [List.filterMap_map] at hidentities
    exact .inr ⟨path, root, hpath, eq_ok_of_toOption hroot, List.forall_mem_map.mp hall, hidentities⟩

/-- A reference that resolves is passed over or gives an identity. -/
theorem packageOf?_cases {e : Xml.Element} (h : Resolves e.packageParts) :
    (packageOf? e = none ∧ identityFrom? e.packageParts = none) ∨
      ∃ package, packageOf? e = some (.ok package) ∧ identityFrom? e.packageParts = some package := by
  have hparts : identityFrom? e.packageParts = (packageOf? e).bind Except.toOption := rfl
  rcases hpackage : packageOf? e with _ | f | package
  · exact .inl ⟨rfl, by rw [hparts, hpackage]; rfl⟩
  · exact absurd (h _ hpackage) (by simp [Except.isOk, Except.toBool])
  · exact .inr ⟨package, rfl, by rw [hparts, hpackage]; rfl⟩

namespace PackageStream

/-- Where all elements resolve, a project gives its identities. -/
theorem below_of_resolves (p : Project) (c : Course PackageReference) {elements : List Xml.Element}
    (h : ∀ e ∈ elements, Resolves e.packageParts) (count : ℕ) :
    (below p c elements count).items =
        (elements.filterMap fun e => identityFrom? e.packageParts).map (⟨p, ·⟩) ++ c.items ∧
      (below p c elements count).failure = c.failure := by
  induction elements generalizing count with
  | nil => simp [below]
  | cons e rest ih =>
      rw [List.forall_mem_cons] at h
      rcases packageOf?_cases h.1 with ⟨hpackage, hparts⟩ | ⟨package, hpackage, hparts⟩
      · simp only [below, hpackage, List.filterMap_cons, hparts]
        exact ih h.2 count
      · obtain ⟨hitems, hfailure⟩ := ih h.2 (count + 1)
        simp only [below, hpackage, List.filterMap_cons, hparts]
        exact ⟨by rw [Course.items, hitems]; rfl, hfailure⟩

/-- The packages of readable projects are their identities, and they come to an end. -/
theorem course_of_readable {ps : List Project} (h : ∀ p ∈ ps, p.Readable s) :
    (course s ps).items = ps.flatMap (fun p => (p.identities s).map (⟨p, ·⟩)) ∧
      (course s ps).failure = none := by
  induction ps with
  | nil => exact ⟨rfl, rfl⟩
  | cons p rest ih =>
      rw [List.forall_mem_cons] at h
      obtain ⟨hitems, hfailure⟩ := ih h.2
      rcases h.1.cases with ⟨hpath, hnone⟩ | ⟨path, root, hpath, hroot, hresolves, hidentities⟩
      · simp [course, hpath, hitems, hfailure, hnone]
      · obtain ⟨hbelow, hend⟩ := below_of_resolves p (course s rest) hresolves 0
        simp only [course, hpath, hroot]
        rw [hbelow, hend, hitems, List.flatMap_cons, hidentities]
        exact ⟨rfl, hfailure⟩

end PackageStream

/-! ## At once -/

theorem mapM_of_resolves {elements : List Xml.Element}
    (h : ∀ e ∈ elements, Resolves e.packageParts) :
    ((elements.filterMap packageOf?).mapM fun r => r) =
      .ok (elements.filterMap fun e => identityFrom? e.packageParts) := by
  induction elements with
  | nil => rfl
  | cons e rest ih =>
      rw [List.forall_mem_cons] at h
      rcases packageOf?_cases h.1 with ⟨hpackage, hparts⟩ | ⟨package, hpackage, hparts⟩
      · simp only [List.filterMap_cons, hpackage, hparts]
        exact ih h.2
      · simp only [List.filterMap_cons, hpackage, hparts, List.mapM_cons, ih h.2]
        rfl

theorem Project.packages_of_readable {p : Project} (h : p.Readable s) :
    (p.packages s).outcome = .ok (p.identities s) := by
  rcases h.cases with ⟨hpath, hnone⟩ | ⟨path, root, hpath, hroot, hresolves, hidentities⟩
  · simp [Project.packages, hpath, hnone]
  · simp only [Project.packages, hpath, hroot, Noted.bind_outcome, Noted.ofExcept,
      mapM_of_resolves hresolves, Except.bind, hidentities]
    rfl

theorem packagesOfAll_of_readable {ps : List Project} (h : ∀ p ∈ ps, p.Readable s) :
    (packagesOfAll s ps).outcome = .ok (ps.flatMap (Project.identities s)) := by
  induction ps with
  | nil => rfl
  | cons p rest ih =>
      rw [List.forall_mem_cons] at h
      simp only [packagesOfAll, Noted.bind_outcome, Project.packages_of_readable h.1, ih h.2,
        Except.bind, Noted.pure_outcome, List.flatMap_cons]

/-- The identities of written versions can be compared with each other. -/
theorem isSome_of_identityFrom? {parts : Option String × Option String} {package : PackageIdentity}
    (h : identityFrom? parts = some package) :
    package.version.major.isSome ∧ package.version.minor.isSome := by
  obtain ⟨_ | name, _ | raw⟩ := parts <;> try simp [identityFrom?, packageFrom?] at h
  rcases hversion : Version.tryParse raw with f | version
  · simp [hversion, Except.toOption] at h
  · simp only [hversion, PackageIdentity.ofVersion, PackageIdentity.make] at h
    split at h
    · simp [Except.mapError, Except.toOption] at h
    · simp only [Except.mapError, Except.toOption, Option.some.injEq] at h
      rw [← h]
      cases version with
      | none => exact ⟨rfl, rfl⟩
      | some v => exact Version.isSome_of_tryParse hversion

namespace Solution

variable {sol : Solution}

theorem distinctPackages_of_readable (h : ∀ p ∈ sol.projects, p.Readable s) :
    (sol.distinctPackages s).outcome =
      .ok (PackageIdentity.sort (PackageIdentity.distinct (sol.identities s))) := by
  simp only [distinctPackages, packages, Noted.bind_outcome, packagesOfAll_of_readable h, Except.bind,
    Noted.pure_outcome, identities]

theorem clash?_eq_none_of_mem_identities {p q : PackageIdentity} (hp : p ∈ sol.identities s)
    (hq : q ∈ sol.identities s) : p.clash? q = none := by
  have hparts : ∀ {r}, r ∈ sol.identities s → r.version.major.isSome ∧ r.version.minor.isSome := by
    intro r hr
    obtain ⟨project, -, hproject⟩ := List.mem_flatMap.mp hr
    obtain ⟨parts, -, hidentity⟩ := List.mem_filterMap.mp hproject
    exact isSome_of_identityFrom? hidentity
  unfold PackageIdentity.clash?
  split
  · exact Version.clash?_eq_none (hparts hp) (hparts hq)
  · rfl

end Solution

/-! ## In another order -/

/-- The manifests of two projects refer to the same packages, as often and in the same writing, in any
order, or neither of the projects has a manifest. They may stand at different paths in different file
trees. -/
def Project.Rearranges (s s' : Site) (p p' : Project) : Prop :=
  (p.path = none ∧ p'.path = none) ∨
    ∃ parts parts', p.packageParts? s = some parts ∧ p'.packageParts? s' = some parts' ∧
      parts.Perm parts'

/-- A project whose manifest refers to the same packages is readable as well, and has the same
identities. -/
theorem Project.Rearranges.identities {s s' : Site} {p p' : Project} (h : p.Rearranges s s' p')
    (hp : p.Readable s) : p'.Readable s' ∧ (p.identities s).Perm (p'.identities s') := by
  rcases h with ⟨hnone, hnone'⟩ | ⟨parts, parts', hparts, hparts', hperm⟩
  · exact ⟨.inl hnone', by simp [Project.identities, Project.packageParts?, hnone, hnone']⟩
  · constructor
    · rcases hp with hpath | ⟨parts₀, hparts₀, hall⟩
      · simp [Project.packageParts?, hpath] at hparts
      · obtain rfl : parts₀ = parts := Option.some.inj (hparts₀.symm.trans hparts)
        exact .inr ⟨parts', hparts', fun t ht => hall t (hperm.mem_iff.mpr ht)⟩
    · rw [Project.identities, Project.identities, hparts, hparts']
      exact hperm.filterMap identityFrom?

namespace Solution

variable {s s' : Site} {sol sol' : Solution}

/-- The projects of two solutions refer to the same packages, project by project, when those of the first
one are brought into another order. -/
def Rearranges (s s' : Site) (sol sol' : Solution) : Prop :=
  ∃ ps, sol.projects.Perm ps ∧ List.Forall₂ (Project.Rearranges s s') ps sol'.projects

/-- A solution whose projects come in another order, as their references do, is readable as well, and has
the same identities. -/
theorem Rearranges.identities (h : Rearranges s s' sol sol') (hall : ∀ p ∈ sol.projects, p.Readable s) :
    (∀ p ∈ sol'.projects, p.Readable s') ∧ (sol.identities s).Perm (sol'.identities s') := by
  have pairs : ∀ {ps ps' : List Project}, List.Forall₂ (Project.Rearranges s s') ps ps' →
      (∀ p ∈ ps, p.Readable s) → (∀ p ∈ ps', p.Readable s') ∧
        (ps.flatMap (Project.identities s)).Perm (ps'.flatMap (Project.identities s')) := by
    intro ps ps' hpairs
    induction hpairs with
    | nil => simp
    | cons hpair _ ih =>
        intro hps
        rw [List.forall_mem_cons] at hps
        obtain ⟨hreadable, hsame⟩ := hpair.identities hps.1
        obtain ⟨hrest, hrestSame⟩ := ih hps.2
        simp only [List.flatMap_cons, List.forall_mem_cons]
        exact ⟨⟨hreadable, hrest⟩, hsame.append hrestSame⟩
  obtain ⟨ps, hperm, hpairs⟩ := h
  obtain ⟨hreadable, hsame⟩ := pairs hpairs fun p hp => hall p (hperm.mem_iff.mpr hp)
  exact ⟨hreadable, (hperm.flatMap_right _).trans hsame⟩

/-- **Each package once, in strict order, whatever the order of projects and references.** A readable
solution gives the packages of all its manifests one by one, and no two of them clash. Its list of
distinct packages is in strict order; each package is equal to exactly one in the list, which is the first
one of its class; and any other order of the set leads to the same list. A solution with the projects
and the references in another order leads to as many packages, equal place by place. -/
theorem distinctPackages_spec (h : ∀ p ∈ sol.projects, p.Readable s) :
    ∃ (given : List PackageReference) (ds : List PackageIdentity),
      (∀ n, (replies (PackageStream.next s) n (PackageStream.ofProjects sol.projects)).map Prod.snd =
        yields given none n) ∧
      (sol.distinctPackages s).outcome = .ok ds ∧
      PackageIdentity.StrictlySorted ds ∧
      (∀ r ∈ given, ∃! d, d ∈ ds ∧ r.package.same d = true) ∧
      (∀ d ∈ ds, (given.map PackageReference.package).find? (PackageIdentity.same · d) = some d) ∧
      (∀ q ∈ given, ∀ r ∈ given, q.package.clash? r.package = none) ∧
      (∀ set, set.Perm (PackageIdentity.distinct (given.map PackageReference.package)) →
        PackageIdentity.sort set = ds) ∧
      ∀ s' sol', Rearranges s s' sol sol' →
        ∃ ds', (Solution.distinctPackages s' sol').outcome = .ok ds' ∧
          List.Forall₂ (fun d d' => d.same d' = true) ds ds' := by
  obtain ⟨hitems, hfailure⟩ := PackageStream.course_of_readable h
  have hgiven : (PackageStream.course s sol.projects).items.map PackageReference.package =
      sol.identities s := by
    simp [hitems, List.map_flatMap, Function.comp_def, identities]
  have hmem : ∀ {r}, r ∈ (PackageStream.course s sol.projects).items →
      r.package ∈ sol.identities s := by
    intro r hr
    rw [← hgiven]
    exact List.mem_map_of_mem hr
  have hstrict : PackageIdentity.StrictlySorted
      (PackageIdentity.sort (PackageIdentity.distinct (sol.identities s))) :=
    PackageIdentity.strictlySorted_sort (PackageIdentity.pairwise_distinct _)
  refine ⟨_, _, fun n => ?_, distinctPackages_of_readable h, hstrict, fun r hr => ?_, fun d hd => ?_,
    fun q hq r hr => clash?_eq_none_of_mem_identities (hmem hq) (hmem hr), fun set hset => ?_,
    fun s' sol' hsame => ?_⟩
  · rw [PackageStream.replies_ofProjects, Course.yields_replies, hfailure]
  · exact PackageIdentity.existsUnique_mem_sort_distinct (hmem hr)
  · rw [hgiven]
    exact PackageIdentity.mem_distinct_iff.mp ((PackageIdentity.sort_perm _).mem_iff.mp hd)
  · rw [hgiven] at hset
    exact PackageIdentity.sort_distinct_of_perm hset
  · obtain ⟨hreadable, hperm⟩ := hsame.identities h
    exact ⟨_, distinctPackages_of_readable hreadable, PackageIdentity.forall₂_sort_distinct hperm⟩

/-! ## Two spellings of one package -/

/-- A file tree with the manifests of two projects. -/
def spellingSite (first second : String) : Site where
  tree := .dir [("One.csproj", .file first.toUTF8.toList), ("Two.csproj", .file second.toUTF8.toList)]
  here := ⟨1, []⟩
  home := ⟨1, []⟩

/-- A project with a manifest of its name. -/
def spellingProject (name : String) : Project :=
  ⟨⟨name⟩, name, some ⟨1, [name ++ ".csproj"]⟩, [], []⟩

/-- A solution of two projects and one that has no manifest. -/
def spellingSolution (first second : String) : Solution :=
  ⟨none, [spellingProject first, spellingProject second, ⟨⟨""⟩, "", none, [], []⟩]⟩

/-- Both manifests refer to one package, which they spell differently. -/
def spelledSite : Site :=
  spellingSite
    "<P><PackageReference Include='Foo' Version='1.2'/><PackageReference Include='B' Version='x'/></P>"
    "<P><PackageReference Include='foo' Version='1.2'/></P>"

/-- The same manifests, with the references of the first one turned. -/
def turnedSite : Site :=
  spellingSite
    "<P><PackageReference Include='B' Version='x'/><PackageReference Include='Foo' Version='1.2'/></P>"
    "<P><PackageReference Include='foo' Version='1.2'/></P>"

/-- What the manifests say in both places. -/
theorem packageParts?_spellings :
    ((spellingProject "One").packageParts? spelledSite =
        some [(some "Foo", some "1.2"), (some "B", some "x")] ∧
      (spellingProject "Two").packageParts? spelledSite = some [(some "foo", some "1.2")]) ∧
    (spellingProject "One").packageParts? turnedSite =
        some [(some "B", some "x"), (some "Foo", some "1.2")] ∧
      (spellingProject "Two").packageParts? turnedSite = some [(some "foo", some "1.2")] := by
  decide +kernel

theorem readable_spellingSolution :
    ∀ p ∈ (spellingSolution "One" "Two").projects, p.Readable spelledSite := by
  obtain ⟨⟨hone, htwo⟩, -⟩ := packageParts?_spellings
  simp only [spellingSolution, List.forall_mem_cons]
  exact ⟨.inr ⟨_, hone, by decide +kernel⟩, .inr ⟨_, htwo, by decide +kernel⟩, .inl rfl, by simp⟩

/-- The projects the other way round, with the references of one of them turned. -/
theorem rearranges_spellingSolution :
    Rearranges spelledSite turnedSite (spellingSolution "One" "Two") (spellingSolution "Two" "One") := by
  obtain ⟨⟨hone, htwo⟩, hone', htwo'⟩ := packageParts?_spellings
  exact ⟨_, .swap _ _ _, .cons (.inr ⟨_, _, htwo, htwo', .refl _⟩) (.cons
    (.inr ⟨_, _, hone, hone', .swap _ _ _⟩) (.cons (.inl ⟨rfl, rfl⟩) .nil))⟩

theorem identities_spellings :
    (spellingSolution "One" "Two").identities spelledSite =
        [{ name := "Foo", version := ⟨some 1, some 2, none, none⟩ }, { name := "B" },
          { name := "foo", version := ⟨some 1, some 2, none, none⟩ }] ∧
      (spellingSolution "Two" "One").identities turnedSite =
        [{ name := "foo", version := ⟨some 1, some 2, none, none⟩ }, { name := "B" },
          { name := "Foo", version := ⟨some 1, some 2, none, none⟩ }] := by
  obtain ⟨⟨hone, htwo⟩, hone', htwo'⟩ := packageParts?_spellings
  simp only [identities, spellingSolution, List.flatMap_cons, Project.identities, hone, htwo, hone', htwo']
  decide +kernel

/-- The set keeps the spelling that comes first, so that the order of the projects shows in the letters
but not in the packages. -/
theorem distinctPackages_spec_spellings :
    (∀ p ∈ (spellingSolution "One" "Two").projects, p.Readable spelledSite) ∧
    Rearranges spelledSite turnedSite (spellingSolution "One" "Two") (spellingSolution "Two" "One") ∧
    ∃ ds ds' : List PackageIdentity, PackageIdentity.StrictlySorted ds ∧
      List.Forall₂ (fun d d' => d.same d' = true) ds ds' ∧
      { name := "Foo", version := ⟨some 1, some 2, none, none⟩ } ∈ ds ∧
      { name := "foo", version := ⟨some 1, some 2, none, none⟩ } ∈ ds' := by
  have hreadable := readable_spellingSolution
  have hturned := rearranges_spellingSolution
  obtain ⟨-, ds, -, hds, hstrict, -, -, -, -, hsame⟩ := distinctPackages_spec hreadable
  obtain ⟨ds', hds', hpairs⟩ := hsame _ _ hturned
  refine ⟨hreadable, hturned, ds, ds', hstrict, hpairs, ?_, ?_⟩
  · rw [distinctPackages_of_readable hreadable, identities_spellings.1, Except.ok.injEq] at hds
    rw [← hds, (PackageIdentity.sort_perm _).mem_iff]
    decide +kernel
  · rw [distinctPackages_of_readable (hturned.identities hreadable).1, identities_spellings.2,
      Except.ok.injEq] at hds'
    rw [← hds', (PackageIdentity.sort_perm _).mem_iff]
    decide +kernel

end Solution

end SolutionSurvey
