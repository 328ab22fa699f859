import SolutionSurvey.Proofs.Survey.Packages
import SolutionSurvey.Proofs.Xml.Address

/-!
# What comes of written references to packages

Each element that refers to a package and carries a name and a version gives one package, in document order,
up to the first one that gives none: its name is blank, or its version has a group of digits that is too long
to be read. There the stream of packages fails, and nothing follows.

## Main definitions

* `WrittenPackage` — a written name and version, with `WrittenPackage.Usable` and `WrittenPackage.Fails`.
* `Manifest.Writes`, `Project.WritesAll` — what the references of manifests write, in document order.
* `PackageStream.replies_written` — the packages of written references.
* `PackageStream.not_replies_written` — a manifest whose packages do not all come.
-/

namespace SolutionSurvey

/-! ## Written references -/

/-- What an element writes about a package that it refers to. -/
structure WrittenPackage where
  name : String
  version : String
  deriving Repr, DecidableEq, Inhabited

namespace WrittenPackage

/-- What an element writes, if it carries both a name and a version. -/
def ofElement? (e : Xml.Element) : Option WrittenPackage :=
  (e.attribute? "Include").bind fun name => (e.attribute? "Version").map (⟨name, ·⟩)

/-- The name is not blank, and the version can be read. -/
structure Usable (w : WrittenPackage) : Prop where
  named : Text.isBlankText w.name = false
  readable : ¬ Version.IsOverlong w.version

/-- The package that is referred to: its name without blanks around it, and its version, the zero version
if the text is no plain numeric one. -/
def package (w : WrittenPackage) : PackageIdentity :=
  { name := Text.trim w.name, version := (Version.tryParse w.version).toOption.join.getD .zero }

/-- Why a written package cannot be used; a version that cannot be read is met first. -/
inductive Fails (w : WrittenPackage) : Failure → Prop
  | version {fault : ValueFault} (h : Version.tryParse w.version = .error fault) : Fails w (.value fault)
  | name {v : Option Version} (h : Version.tryParse w.version = .ok v) (hblank : Text.isBlankText w.name = true) :
      Fails w (.report (.invalidArgument (.text "name") (.text "must not be empty")))

variable {w : WrittenPackage} {e : Xml.Element}

theorem ofElement?_eq_some_iff :
    ofElement? e = some w ↔ e.attribute? "Include" = some w.name ∧ e.attribute? "Version" = some w.version := by
  obtain ⟨name, version⟩ := w
  simp only [ofElement?, Option.bind_eq_some_iff, Option.map_eq_some_iff, mk.injEq]
  constructor
  · rintro ⟨_, hname, _, hversion, rfl, rfl⟩
    exact ⟨hname, hversion⟩
  · rintro ⟨hname, hversion⟩
    exact ⟨name, hname, version, hversion, rfl, rfl⟩

theorem packageOf?_of_none (h : ofElement? e = none) : packageOf? e = none := by
  rw [packageOf?]
  cases hname : e.attribute? "Include" with
  | none => rfl
  | some name =>
      cases hversion : e.attribute? "Version" with
      | none => rfl
      | some version => simp [ofElement?, hname, hversion] at h

theorem packageOf?_of_some (h : ofElement? e = some w) :
    packageOf? e = packageFrom? (some w.name) (some w.version) := by
  obtain ⟨hname, hversion⟩ := ofElement?_eq_some_iff.mp h
  rw [packageOf?, hname, hversion]

/-- What can be used gives its package. -/
theorem Usable.packageFrom? (h : w.Usable) :
    packageFrom? (some w.name) (some w.version) = some (.ok w.package) := by
  obtain ⟨v, hv⟩ := Version.tryParse_isOk_iff.mpr h.readable
  have hname := Text.trim_ne_empty_iff.mpr h.named
  cases v <;>
    simp [SolutionSurvey.packageFrom?, hv, PackageIdentity.ofVersion, PackageIdentity.make, hname, package,
      Except.mapError, Except.toOption]

/-- What cannot be used fails. -/
theorem packageFrom?_of_not_usable (h : ¬ w.Usable) :
    ∃ f, w.Fails f ∧ packageFrom? (some w.name) (some w.version) = some (.error f) := by
  cases hv : Version.tryParse w.version with
  | error fault => exact ⟨.value fault, .version hv, by simp only [SolutionSurvey.packageFrom?, hv]⟩
  | ok v =>
      have hblank : Text.isBlankText w.name = true := by
        rw [← Bool.not_eq_false]
        exact fun hnamed => h ⟨hnamed, Version.tryParse_isOk_iff.mp ⟨v, hv⟩⟩
      have hname : Text.trim w.name = "" := by
        by_contra hne
        rw [Text.trim_ne_empty_iff.mp hne] at hblank
        cases hblank
      refine ⟨_, .name hv hblank, ?_⟩
      simp [SolutionSurvey.packageFrom?, hv, PackageIdentity.ofVersion, PackageIdentity.make, hname,
        Except.mapError]

end WrittenPackage

/-! ## Document order -/

/-- An element refers to a package, at an address below the root, and writes both name and version. -/
def Manifest.RefersAt (root : Xml.Element) (p : List ℕ) (w : WrittenPackage) : Prop :=
  p ≠ [] ∧ ∃ e, root.at? p = some e ∧ e.IsNamed "PackageReference" ∧
    e.attribute? "Include" = some w.name ∧ e.attribute? "Version" = some w.version

/-- What the references of a manifest to packages write: that of each of them once, in document order. -/
def Manifest.Writes (root : Xml.Element) (ws : List WrittenPackage) : Prop :=
  ∃ ps : List (List ℕ), ps.Pairwise (· < ·) ∧ (∀ p, p ∈ ps ↔ ∃ w, RefersAt root p w) ∧
    List.Forall₂ (RefersAt root) ps ws

/-- What the references of some projects write, project by project. -/
inductive Project.WritesAll (s : Site) : List Project → List (Project × WrittenPackage) → Prop
  | nil : WritesAll s [] []
  | cons {p : Project} {path : FilePath} {root : Xml.Element} {ws : List WrittenPackage} {rest : List Project}
      {refs : List (Project × WrittenPackage)} (hpath : p.path = some path)
      (hroot : Manifest.load s path = .ok root) (hws : Manifest.Writes root ws) (hrest : WritesAll s rest refs) :
      WritesAll s (p :: rest) (ws.map (p, ·) ++ refs)

/-- The manifest of a project is there and well formed. -/
def Project.HasManifest (s : Site) (p : Project) : Prop :=
  ∃ path root, p.path = some path ∧ Manifest.load s path = .ok root

/-- Elements at their addresses write what those of them write that carry both a name and a version. -/
theorem Manifest.forall₂_refersAt {root : Xml.Element} {ps : List (List ℕ)} {es : List Xml.Element}
    (h : List.Forall₂ (fun p e => p ≠ [] ∧ root.at? p = some e ∧ e.IsNamed "PackageReference") ps es) :
    List.Forall₂ (RefersAt root) (ps.filter fun p => ((root.at? p).bind WrittenPackage.ofElement?).isSome)
      (es.filterMap WrittenPackage.ofElement?) := by
  induction h with
  | nil => exact .nil
  | @cons p e ps es hpe _ ih =>
      obtain ⟨hp, he, hnamed⟩ := hpe
      cases hwritten : WrittenPackage.ofElement? e with
      | none =>
          rw [List.filter_cons_of_neg (by simp [he, hwritten]), List.filterMap_cons_none hwritten]
          exact ih
      | some w =>
          rw [List.filter_cons_of_pos (by simp [he, hwritten]), List.filterMap_cons_some hwritten]
          exact .cons ⟨hp, e, he, hnamed, WrittenPackage.ofElement?_eq_some_iff.mp hwritten⟩ ih

/-- **The references of a manifest to packages**, as they are found, write what they write in document
order. -/
theorem Manifest.writes_packageReferences (root : Xml.Element) :
    Writes root ((packageReferences root).filterMap WrittenPackage.ofElement?) := by
  have hname : "PackageReference" ≠ "" := by decide
  obtain ⟨ps, hsorted, hmem, hmap⟩ := Xml.Element.descendantsNamed_addresses hname (by decide) root
  have hat : List.Forall₂ (fun p e => root.at? p = some e) ps (packageReferences root) := by
    rw [← List.forall₂_eq_eq_eq] at hmap
    exact List.forall₂_map_right_iff.mp (List.forall₂_map_left_iff.mp hmap)
  have hfound : List.Forall₂ (fun p e => p ≠ [] ∧ root.at? p = some e ∧ e.IsNamed "PackageReference") ps
      (packageReferences root) := by
    refine ((List.forall₂_and_left _ _).mpr ⟨fun p hp => (hmem p).mp hp, hat⟩).imp ?_
    rintro p e ⟨⟨hp, c, hc, hnamed⟩, he⟩
    obtain rfl : c = e := Option.some.inj (hc.symm.trans he)
    exact ⟨hp, hc, hnamed⟩
  refine ⟨_, hsorted.filter _, fun p => ?_, forall₂_refersAt hfound⟩
  rw [List.mem_filter, hmem]
  constructor
  · rintro ⟨⟨hp, e, he, hnamed⟩, hwritten⟩
    rw [he, Option.bind_some] at hwritten
    obtain ⟨w, hw⟩ := Option.isSome_iff_exists.mp hwritten
    exact ⟨w, hp, e, he, hnamed, WrittenPackage.ofElement?_eq_some_iff.mp hw⟩
  · rintro ⟨w, hp, e, he, hnamed, hattributes⟩
    refine ⟨⟨hp, e, he, hnamed⟩, ?_⟩
    rw [he, Option.bind_some, WrittenPackage.ofElement?_eq_some_iff.mpr hattributes]
    rfl

namespace PackageStream

variable {s : Site}

/-- The package of a written reference. -/
def given (r : Project × WrittenPackage) : PackageReference :=
  ⟨r.1, r.2.package⟩

/-- What comes of some written references, one by one: packages up to the first reference that cannot be
used, and then its failure. -/
inductive Outcome : List (Project × WrittenPackage) → List PackageReference → Option Failure → Prop
  | nil : Outcome [] [] none
  | give {r : Project × WrittenPackage} {refs : List (Project × WrittenPackage)} {items : List PackageReference}
      {failure : Option Failure} (hr : r.2.Usable) (hrest : Outcome refs items failure) :
      Outcome (r :: refs) (given r :: items) failure
  | fail {r : Project × WrittenPackage} {refs : List (Project × WrittenPackage)} {f : Failure}
      (hr : ¬ r.2.Usable) (hf : r.2.Fails f) : Outcome (r :: refs) [] (some f)

/-- The elements of one manifest give what comes of what they write. -/
theorem outcome_below (p : Project) {refs : List (Project × WrittenPackage)} {c : Course PackageReference}
    (hc : Outcome refs c.items c.failure) (elements : List Xml.Element) (count : ℕ) :
    Outcome ((elements.filterMap WrittenPackage.ofElement?).map (p, ·) ++ refs) (below p c elements count).items
      (below p c elements count).failure := by
  induction elements generalizing count with
  | nil => simpa [below] using hc
  | cons e rest ih =>
      cases hwritten : WrittenPackage.ofElement? e with
      | none =>
          rw [List.filterMap_cons_none hwritten]
          simp only [below, WrittenPackage.packageOf?_of_none hwritten]
          exact ih count
      | some w =>
          rw [List.filterMap_cons_some hwritten, List.map_cons, List.cons_append]
          have hpackage := WrittenPackage.packageOf?_of_some hwritten
          by_cases husable : w.Usable
          · rw [husable.packageFrom?] at hpackage
            simp only [below, hpackage]
            exact .give (r := (p, w)) husable (ih (count + 1))
          · obtain ⟨f, hf, hfails⟩ := WrittenPackage.packageFrom?_of_not_usable husable
            rw [hfails] at hpackage
            simp only [below, hpackage]
            exact .fail husable hf

/-- Projects whose manifests are there give what comes of what these write. -/
theorem outcome_course {ps : List Project} (h : ∀ p ∈ ps, p.HasManifest s) :
    ∃ refs, Project.WritesAll s ps refs ∧ Outcome refs (course s ps).items (course s ps).failure := by
  induction ps with
  | nil => exact ⟨[], .nil, .nil⟩
  | cons p rest ih =>
      obtain ⟨⟨path, root, hpath, hroot⟩, hrest⟩ := List.forall_mem_cons.mp h
      obtain ⟨refs, hrefs, houtcome⟩ := ih hrest
      refine ⟨_, .cons hpath hroot (Manifest.writes_packageReferences root) hrefs, ?_⟩
      simp only [course, hpath, hroot]
      exact outcome_below p houtcome _ 0

/-- Nothing fails exactly if everything can be used. -/
theorem Outcome.failure_eq_none_iff {refs : List (Project × WrittenPackage)} {items : List PackageReference}
    {failure : Option Failure} (h : Outcome refs items failure) :
    failure = none ↔ ∀ r ∈ refs, r.2.Usable := by
  induction h with
  | nil => simp
  | give hr hrest ih => rw [ih, List.forall_mem_cons, and_iff_right hr]
  | fail hr hf => exact iff_of_false nofun fun hall => hr (hall _ List.mem_cons_self)

theorem Outcome.items_eq {refs : List (Project × WrittenPackage)} {items : List PackageReference}
    {failure : Option Failure} (h : Outcome refs items failure) (hnone : failure = none) :
    items = refs.map given := by
  induction h with
  | nil => rfl
  | give hr hrest ih => rw [List.map_cons, ih hnone]
  | fail hr hf => cases hnone

/-- A failure is that of the first reference that cannot be used, and comes after the packages before it. -/
theorem Outcome.first {refs : List (Project × WrittenPackage)} {items : List PackageReference}
    {failure : Option Failure} (h : Outcome refs items failure) {f : Failure} (hfailure : failure = some f) :
    ∃ before r after, refs = before ++ r :: after ∧ (∀ b ∈ before, b.2.Usable) ∧ r.2.Fails f ∧
      items = before.map given := by
  induction h with
  | nil => cases hfailure
  | @give b refs items failure hb hrest ih =>
      obtain ⟨before, r, after, rfl, hbefore, hr, rfl⟩ := ih hfailure
      exact ⟨b :: before, r, after, rfl, List.forall_mem_cons.mpr ⟨hb, hbefore⟩, hr, rfl⟩
  | @fail r refs f' hr hf =>
      obtain rfl := Option.some.inj hfailure
      exact ⟨[], r, refs, rfl, nofun, hf, rfl⟩

/-- **The packages of projects whose manifests are there** are those of all written references in document
order, project by project, and the stream ends without a failure, exactly if each name is not blank and each
version can be read. Otherwise the first reference that cannot be used fails after the packages of those
before it. -/
theorem replies_written {ps : List Project} (h : ∀ p ∈ ps, p.HasManifest s) :
    ∃ refs items failure, Project.WritesAll s ps refs ∧
      (∀ n, (replies (next s) n (ofProjects ps)).map Prod.snd = yields items failure n) ∧
      (failure = none ↔ ∀ r ∈ refs, r.2.Usable) ∧ (failure = none → items = refs.map given) ∧
      ∀ f, failure = some f → ∃ before r after, refs = before ++ r :: after ∧
        (∀ b ∈ before, b.2.Usable) ∧ r.2.Fails f ∧ items = before.map given := by
  obtain ⟨refs, hrefs, houtcome⟩ := outcome_course h
  refine ⟨refs, (course s ps).items, (course s ps).failure, hrefs, fun n => ?_,
    houtcome.failure_eq_none_iff, houtcome.items_eq, fun f hf => houtcome.first hf⟩
  rw [replies_ofProjects, Course.yields_replies]

/-! ## A name that is blank -/

/-- A manifest that refers to three packages, one of them in a namespace and one by a blank name. -/
def unnamedSite : Site :=
  Solution.spellingSite
    ("<P><PackageReference Include=' A ' Version='1.2'/>" ++
      "<Q xmlns='n'><PackageReference Include='B' Version='x'/></Q>" ++
      "<PackageReference Include=' ' Version='2.0'/></P>") "<P/>"

/-- The projects of the two manifests there. -/
def unnamedProjects : List Project :=
  [Solution.spellingProject "One", Solution.spellingProject "Two"]

theorem hasManifest_unnamedSite : ∀ p ∈ unnamedProjects, p.HasManifest unnamedSite := by
  have hone : ∃ root, Manifest.load unnamedSite ⟨1, ["One.csproj"]⟩ = .ok root :=
    ⟨_, eq_ok_getD (by decide +kernel)⟩
  have htwo : ∃ root, Manifest.load unnamedSite ⟨1, ["Two.csproj"]⟩ = .ok root :=
    ⟨_, eq_ok_getD (by decide +kernel)⟩
  refine List.forall_mem_cons.mpr ⟨⟨_, hone.choose, rfl, hone.choose_spec⟩, ?_⟩
  exact List.forall_mem_singleton.mpr ⟨_, htwo.choose, rfl, htwo.choose_spec⟩

/-- Whether a reply is a failure. -/
def isFailure : Yield PackageReference → Bool
  | .failed _ => true
  | _ => false

theorem isFailure_unnamedSite :
    ((replies (next unnamedSite) 3 (ofProjects unnamedProjects)).map Prod.snd).any isFailure = true := by
  decide +kernel

/-- A stream that ends well has no failure among its replies. -/
theorem any_isFailure_yields (items : List PackageReference) (n : ℕ) :
    (yields items none n).any isFailure = false := by
  rw [List.any_eq_false]
  intro y hy
  obtain hitem | hend := List.mem_append.mp (List.mem_of_mem_take hy)
  · obtain ⟨a, -, rfl⟩ := List.mem_map.mp hitem
    exact Bool.false_ne_true
  · obtain rfl | hrest := List.mem_cons.mp hend
    · exact Bool.false_ne_true
    · rw [List.eq_of_mem_replicate hrest]
      exact Bool.false_ne_true

/-- The third reference there cannot be used, so that the stream fails. -/
theorem replies_written_unnamedSite :
    (∀ p ∈ unnamedProjects, p.HasManifest unnamedSite) ∧
      ∃ refs, Project.WritesAll unnamedSite unnamedProjects refs ∧
        ∃ before r after f, refs = before ++ r :: after ∧ (∀ b ∈ before, b.2.Usable) ∧ r.2.Fails f := by
  obtain ⟨refs, items, failure, hrefs, hreplies, -, -, hfails⟩ := replies_written hasManifest_unnamedSite
  refine ⟨hasManifest_unnamedSite, refs, hrefs, ?_⟩
  cases failure with
  | none =>
      have hfailure := isFailure_unnamedSite
      rw [hreplies 3, any_isFailure_yields] at hfailure
      cases hfailure
  | some f =>
      obtain ⟨before, r, after, hsplit, hbefore, hr, -⟩ := hfails f rfl
      exact ⟨before, r, after, f, hsplit, hbefore, hr⟩

/-- Not all manifests that are there and well formed give all their packages. -/
theorem not_replies_written :
    ¬ ∀ (s : Site) (ps : List Project), (∀ p ∈ ps, p.HasManifest s) →
      ∃ items, ∀ n, (replies (next s) n (ofProjects ps)).map Prod.snd = yields items none n := by
  intro hall
  obtain ⟨items, hitems⟩ := hall _ _ hasManifest_unnamedSite
  have hfailure := isFailure_unnamedSite
  rw [hitems 3, any_isFailure_yields] at hfailure
  cases hfailure

end PackageStream

end SolutionSurvey
