import SolutionSurvey.Config.Settings
import SolutionSurvey.Proofs.Outcome
import Mathlib.Data.List.Basic
import Mathlib.Data.List.Forall2

/-!
# Good and bad outcomes of checks

A check of several parts is good exactly if the checks of all parts are. A check that is not good complains,
or it meets a home directory that is not known; the latter happens only at the destination of an output,
and goes before all complaints.

## Main definitions

* `Checked.both_eq_ok`, `checkList_eq_ok`, `checkField_eq_ok`, `checkSection_eq_ok` — good outcomes.
* `Checked.Complains` — a check complains, and meets an unknown home directory exactly under a condition.
* `Settings.NamesUnknownHome` — some output goes to a file below a home directory that is not known.
* `Settings.complains_checkSections` — that is the condition for the check of all sections.
-/

namespace SolutionSurvey

variable {α β : Type}

/-! ## Good outcomes -/

namespace Checked

theorem both_eq_ok {a : Checked α} {b : Checked β} {p : α × β} :
    both a b = .ok p ↔ a = .ok p.1 ∧ b = .ok p.2 := by
  rcases a with f | a
  · rcases b with g | b
    · cases f <;> cases g <;> simp [both]
    · cases f <;> simp [both]
  · rcases b with g | b
    · cases g <;> simp [both]
    · simp [both, Prod.ext_iff]

theorem inside_eq_ok {step : Step} {x : Checked α} {a : α} : inside step x = .ok a ↔ x = .ok a := by
  rcases x with f | b
  · cases f <;> simp [inside]
  · simp [inside]

/-- Checks side by side are good if each one is. -/
theorem eachFrom_eq_ok {check : Value → Checked α} {i : ℕ} {items : List Value} {as : List α} :
    eachFrom check i items = .ok as ↔ List.Forall₂ (fun v a => check v = .ok a) items as := by
  induction items generalizing i as with
  | nil => simp [eachFrom, eq_comm]
  | cons v items ih =>
      rw [eachFrom, map_eq_ok, List.forall₂_cons_left_iff]
      simp only [both_eq_ok, inside_eq_ok, ih, Prod.exists]
      exact ⟨fun ⟨a, rest, ⟨ha, hrest⟩, h⟩ => ⟨a, rest, ha, hrest, h.symm⟩,
        fun ⟨a, rest, ha, hrest, h⟩ => ⟨a, rest, ⟨ha, hrest⟩, h.symm⟩⟩

end Checked

/-- The items that a value counts as when a list is asked for. -/
def Value.parts? (v : Value) : Option (List Value) :=
  match v.opened with
  | .list items => some items
  | .set items => some items
  | .pair a b => some [a, b]
  | _ => none

/-- A list is checked item by item. -/
theorem checkList_eq (check : Value → Checked α) (v : Value) :
    checkList check v =
      match v.parts? with
      | some items => Checked.each check items
      | none => complain "list_type" "Input should be a valid list" v := by
  rw [checkList, Value.parts?]
  cases v.opened <;> rfl

/-- A list is good if it has parts, and each of them is good. -/
theorem checkList_eq_ok {check : Value → Checked α} {v : Value} {as : List α} :
    checkList check v = .ok as ↔
      ∃ items, v.parts? = some items ∧ List.Forall₂ (fun v a => check v = .ok a) items as := by
  rw [checkList_eq]
  split
  · next items hitems => simp [hitems, Checked.each, Checked.eachFrom_eq_ok]
  · next hitems => simp [hitems, complain]

/-- A field is good if its value is, or if it is missing and has its default. -/
theorem checkField_eq_ok {name : String} {default : α} {check : Value → Checked α} {v : Value} {a : α} :
    checkField name default check v = .ok a ↔
      match v.field? name with
      | some f => check f = .ok a
      | none => a = default := by
  rw [checkField]
  cases v.field? name with
  | none => exact ⟨fun h => by cases h; rfl, fun h => by rw [h]⟩
  | some f => exact Checked.inside_eq_ok

/-- A section is good if it is a mapping with good fields. -/
theorem checkSection_eq_ok {name : String} {check : Value → Checked α} {v : Value} {a : α} :
    checkSection name check v = .ok a ↔
      ∃ entries, v.opened = .map entries ∧ check (.map entries) = .ok a := by
  rw [checkSection]
  split
  · next entries hv => simp [hv]
  · next hv =>
    simp only [complain, reduceCtorEq, false_iff, not_exists, not_and]
    exact fun entries h => absurd h (hv entries)

/-! ## Bad outcomes -/

namespace Checked

/-- A check fails with complaints only, but for an unknown home directory, which it meets exactly if `home`
holds. -/
def Complains (home : Prop) (x : Checked α) : Prop :=
  (x = .error .homeUnknown ↔ home) ∧
    ∀ f, x = .error f → f = .homeUnknown ∨ ∃ v vs, f = .invalid (v :: vs)

/-- A check that complains at most has one of three outcomes. -/
theorem Complains.cases {home : Prop} {x : Checked α} (h : Complains home x) :
    ((∃ a, x = .ok a) ∧ ¬ home) ∨ (x = .error .homeUnknown ∧ home) ∨
      ((∃ v vs, x = .error (.invalid (v :: vs))) ∧ ¬ home) := by
  rcases x with f | a
  · rcases h.2 f rfl with rfl | ⟨v, vs, rfl⟩
    · exact .inr (.inl ⟨rfl, h.1.mp rfl⟩)
    · exact .inr (.inr ⟨⟨v, vs, rfl⟩, fun hhome => nomatch h.1.mpr hhome⟩)
  · exact .inl ⟨⟨a, rfl⟩, fun hhome => nomatch h.1.mpr hhome⟩

theorem complains_ok (a : α) : Complains False (.ok a) :=
  ⟨by simp, nofun⟩

theorem complains_complain (sort message : String) (input : Value) :
    Complains False (complain sort message input : Checked α) :=
  ⟨by simp [complain], fun f h => .inr ⟨_, _, (Except.error.inj h).symm⟩⟩

variable {p q : Prop}

theorem Complains.congr {x : Checked α} (h : Complains p x) (hpq : p ↔ q) : Complains q x :=
  ⟨h.1.trans hpq, h.2⟩

theorem Complains.map {x : Checked α} (h : Complains p x) (f : α → β) : Complains p (x.map f) := by
  cases x with
  | error e => exact ⟨by simpa [Except.map] using h.1, fun g hg => h.2 g (by cases hg; rfl)⟩
  | ok a => exact ⟨by simpa [Except.map] using h.1, nofun⟩

/-- A second step that never meets a home directory changes nothing about that. -/
theorem Complains.bind {x : Checked α} {f : α → Checked β} (hx : Complains p x)
    (hf : ∀ a, Complains False (f a)) : Complains p (x >>= f) := by
  rcases hx.cases with ⟨⟨a, rfl⟩, hp⟩ | ⟨rfl, hp⟩ | ⟨⟨v, vs, rfl⟩, hp⟩
  · exact (hf a).congr (by simp [hp])
  · exact ⟨iff_of_true rfl hp, fun g hg => .inl (Except.error.inj hg).symm⟩
  · exact ⟨iff_of_false nofun hp, fun g hg => .inr ⟨v, vs, (Except.error.inj hg).symm⟩⟩

theorem Complains.inside {x : Checked α} (h : Complains p x) (step : Step) :
    Complains p (inside step x) := by
  rcases h.cases with ⟨⟨a, rfl⟩, -⟩ | ⟨rfl, -⟩ | ⟨⟨v, vs, rfl⟩, hp⟩
  · exact h
  · exact h
  · exact ⟨iff_of_false nofun hp, fun g hg => .inr ⟨_, _, (Except.error.inj hg).symm⟩⟩

/-- An unknown home directory in either part goes before complaints. -/
theorem Complains.both {a : Checked α} {b : Checked β} (ha : Complains p a) (hb : Complains q b) :
    Complains (p ∨ q) (both a b) := by
  rcases ha.cases with ⟨⟨a, rfl⟩, hp⟩ | ⟨rfl, hp⟩ | ⟨⟨v, vs, rfl⟩, hp⟩ <;>
    rcases hb.cases with ⟨⟨b, rfl⟩, hq⟩ | ⟨rfl, hq⟩ | ⟨⟨w, ws, rfl⟩, hq⟩ <;>
    simp [Complains, Checked.both, hp, hq]

theorem outdoneBy_ne_ok {x complaint : Checked α} (h : ∀ a, complaint ≠ .ok a) (a : α) :
    outdoneBy x complaint ≠ .ok a := by
  rcases x with f | b
  · cases f <;> first | exact h a | exact nofun
  · exact h a

/-- Only an unknown home directory goes before a complaint that outdoes everything else. -/
theorem Complains.outdoneBy {x : Checked α} (h : Complains p x) (sort message : String) (input : Value) :
    Complains p (outdoneBy x (complain sort message input)) := by
  rcases h.cases with ⟨⟨a, rfl⟩, hp⟩ | ⟨rfl, -⟩ | ⟨⟨v, vs, rfl⟩, hp⟩
  · exact (complains_complain sort message input).congr (iff_of_false id hp)
  · exact h
  · exact (complains_complain sort message input).congr (iff_of_false id hp)

theorem Complains.eachFrom {check : Value → Checked α} {p : Value → Prop}
    (h : ∀ v, Complains (p v) (check v)) (i : ℕ) (items : List Value) :
    Complains (∃ v ∈ items, p v) (eachFrom check i items) := by
  induction items generalizing i with
  | nil => exact (complains_ok []).congr (by simp)
  | cons v rest ih => exact ((((h v).inside (.index i)).both (ih (i + 1))).map _).congr (by simp)

end Checked

open Checked

theorem complains_checkText (v : Value) : Complains False (checkText v) := by
  unfold checkText
  split
  · exact complains_ok _
  · exact complains_ok _
  · split
    · exact complains_ok _
    · exact complains_complain _ _ _
  · exact complains_complain _ _ _

theorem complains_checkChoice (words : String) (read : String → Option α) (v : Value) :
    Complains False (checkChoice words read v) := by
  unfold checkChoice
  split
  · exact complains_complain _ _ _
  · split
    · exact complains_ok _
    · exact complains_complain _ _ _

theorem complains_checkList {check : Value → Checked α} {p : Value → Prop}
    (h : ∀ v, Complains (p v) (check v)) (v : Value) :
    Complains (∃ items, v.parts? = some items ∧ ∃ item ∈ items, p item) (checkList check v) := by
  rw [checkList_eq]
  split
  · next items hitems => exact (Complains.eachFrom h 0 items).congr (by simp [hitems])
  · next hitems => exact (complains_complain _ _ _).congr (by simp [hitems])

theorem complains_checkSection {check : Value → Checked α} {p : Entries → Prop}
    (h : ∀ entries, Complains (p entries) (check (.map entries))) (name : String) (v : Value) :
    Complains (∃ entries, v.opened = .map entries ∧ p entries) (checkSection name check v) := by
  rw [checkSection]
  split
  · next entries hv => exact (h entries).congr (by simp [hv])
  · next hv =>
    refine (complains_complain _ _ _).congr (iff_of_false id ?_)
    rintro ⟨entries, h, -⟩
    exact hv entries h

theorem complains_checkField {check : Value → Checked α} {p : Value → Prop}
    (h : ∀ v, Complains (p v) (check v)) (name : String) (default : α) (entries : Entries) :
    Complains (∃ v, Value.get? (.text name) entries = some v ∧ p v)
      (checkField name default check (.map entries)) := by
  rw [checkField, Value.field?]
  split
  · next f hf => exact ((h f).inside _).congr (by simp [hf])
  · next hf => exact (complains_ok _).congr (by simp [hf])

/-- A field whose check never meets a home directory. -/
theorem complains_checkField_false {check : Value → Checked α} (h : ∀ v, Complains False (check v))
    (name : String) (default : α) (entries : Entries) :
    Complains False (checkField name default check (.map entries)) :=
  (complains_checkField h name default entries).congr (by simp)

/-! ## Destinations -/

/-- A path starts at the home directory of a user, and that is not known. -/
def Site.LacksHome (s : Site) (p : WordedPath) : Prop :=
  p.slashes = 0 ∧ ∃ first rest user, p.segments = first :: rest ∧ first.signs = .char '~' :: user ∧
    s.homeOf (.ofSigns user) = .error .homeUnknown

/-- The home directory of a user is known, or it is not, or the name of the user cannot be looked up. -/
theorem Site.homeOf_cases (s : Site) (user : Wording) :
    (∃ home, s.homeOf user = .ok home) ∨ s.homeOf user = .error .homeUnknown ∨
      ∃ f, s.homeOf user = .error f ∧ f.isValueFault ∧ f ≠ .homeUnknown := by
  rw [homeOf]
  split
  · exact .inr (.inr ⟨_, rfl, rfl, nofun⟩)
  · split
    · exact .inr (.inr ⟨_, rfl, rfl, nofun⟩)
    · split
      · exact .inr (.inl rfl)
      · split
        · exact .inr (.inl rfl)
        · exact .inl ⟨_, rfl⟩

/-- A path is expanded unless it starts at an unknown home directory, or at one that cannot be looked up. -/
theorem Site.expandHome_cases (s : Site) (p : WordedPath) :
    ((∃ q, s.expandHome p = .ok q) ∧ ¬ s.LacksHome p) ∨ (s.expandHome p = .error .homeUnknown ∧ s.LacksHome p) ∨
      ((∃ f, s.expandHome p = .error f ∧ f.isValueFault) ∧ ¬ s.LacksHome p) := by
  rw [Site.expandHome]
  split
  · next first rest hslashes hsegments =>
    split
    · next user hsigns =>
      have hlacks : s.LacksHome p ↔ s.homeOf (.ofSigns user) = .error .homeUnknown := by
        simp [LacksHome, hslashes, hsegments, hsigns]
      rw [hlacks]
      rcases s.homeOf_cases (.ofSigns user) with ⟨home, hhome⟩ | hhome | ⟨f, hhome, hvalue, hother⟩
      · exact .inl ⟨⟨_, by rw [hhome]; rfl⟩, by rw [hhome]; nofun⟩
      · exact .inr (.inl ⟨by rw [hhome]; rfl, hhome⟩)
      · exact .inr (.inr ⟨⟨f, by rw [hhome]; rfl, hvalue⟩, by rw [hhome]; exact fun h => hother (by simpa using h)⟩)
    · next hplain =>
      refine .inl ⟨⟨p, rfl⟩, ?_⟩
      rintro ⟨-, first', rest', user, hsegments', hsigns, -⟩
      rw [hsegments] at hsegments'
      obtain ⟨rfl, -⟩ := List.cons.inj hsegments'
      exact hplain user hsigns
  · next hnot =>
    refine .inl ⟨⟨p, rfl⟩, ?_⟩
    rintro ⟨hslashes, first, rest, user, hsegments, -⟩
    exact hnot first rest hslashes hsegments

namespace Destination

/-- A text names a destination below an unknown home directory exactly if its path starts there. -/
theorem complains_ofText (s : Site) (text : Wording) :
    Complains (s.LacksHome (.ofWording text)) (ofText s text) := by
  have hstream {stream : Wording} {first : Sign} {others : List Sign}
      (h : (WordedPath.ofWording stream).segments = [stream]) (hsigns : stream.signs = first :: others)
      (hfirst : first ≠ .char '~') : ¬ s.LacksHome (.ofWording stream) := by
    rintro ⟨-, segment, rest, user, hsegments, htilde, -⟩
    rw [h] at hsegments
    obtain ⟨rfl, -⟩ := List.cons.inj hsegments
    rw [hsigns] at htilde
    exact hfirst (List.cons.inj htilde).1
  rw [ofText]
  split
  · next hstderr =>
    subst hstderr
    exact (complains_ok _).congr (iff_of_false id (hstream (by decide) rfl (by decide)))
  · split
    · next hstdout =>
      subst hstdout
      exact (complains_ok _).congr (iff_of_false id (hstream (by decide) rfl (by decide)))
    · rcases s.expandHome_cases (.ofWording text) with ⟨⟨p, hp⟩, hnot⟩ | ⟨hp, hlacks⟩ | ⟨⟨f, hp, hvalue⟩, hnot⟩
      · rw [hp]
        dsimp only
        split
        · exact (complains_ok _).congr (iff_of_false id hnot)
        · exact (complains_complain _ _ _).congr (iff_of_false id hnot)
      · rw [hp]
        exact ⟨iff_of_true rfl hlacks, fun f hf => .inl (Except.error.inj hf).symm⟩
      · rw [hp]
        dsimp only
        rw [if_pos hvalue]
        exact (complains_complain _ _ _).congr (iff_of_false id hnot)

/-- A destination is a text that names one. -/
theorem complains_check (s : Site) (v : Value) :
    Complains (∃ text, checkText v = .ok text ∧ s.LacksHome (.ofWording text)) (check s v) := by
  rw [check]
  rcases (complains_checkText v).cases with ⟨⟨text, htext⟩, -⟩ | ⟨-, h⟩ | ⟨⟨w, ws, htext⟩, -⟩
  · rw [htext]
    exact (complains_ofText s text).congr (by simp)
  · exact h.elim
  · rw [htext]
    exact ⟨iff_of_false nofun (by simp), fun f hf => .inr ⟨w, ws, (Except.error.inj hf).symm⟩⟩

end Destination

/-! ## Sections -/

theorem complains_checkLevel? (v : Value) : Complains False (checkLevel? v) := by
  unfold checkLevel?
  split
  · exact complains_ok _
  · exact (complains_checkChoice _ _ _).map _

/-- The destination of an output, where it says one, is below an unknown home directory. -/
def LogOutput.NamesUnknownHome (s : Site) (v : Value) : Prop :=
  ∃ entries, v.opened = .map entries ∧ ∃ destination,
    Value.get? (.text "destination") entries = some destination ∧
    ∃ text, checkText destination = .ok text ∧ s.LacksHome (.ofWording text)

theorem LogOutput.complains_check (s : Site) (v : Value) :
    Complains (NamesUnknownHome s v) (LogOutput.check s v) := by
  refine complains_checkSection (fun entries => Complains.map ?_ _) _ v
  have hformat := complains_checkField_false (complains_checkChoice "'json' or 'console'" LogFormat.ofName?)
    "format" .console entries
  have hdestination := complains_checkField (Destination.complains_check s) "destination" .stderr entries
  have hlevel := complains_checkField_false complains_checkLevel? "level" none entries
  exact (hformat.both (hdestination.both hlevel)).congr (by simp)

/-- Some output of the journal goes to a file below an unknown home directory. -/
def LoggingSettings.NamesUnknownHome (s : Site) (v : Value) : Prop :=
  ∃ entries, v.opened = .map entries ∧ ∃ outputs, Value.get? (.text "outputs") entries = some outputs ∧
    ∃ items, outputs.parts? = some items ∧ ∃ item ∈ items, LogOutput.NamesUnknownHome s item

theorem LoggingSettings.complains_check (s : Site) (v : Value) :
    Complains (NamesUnknownHome s v) (LoggingSettings.check s v) := by
  refine complains_checkSection (fun entries => Complains.map ?_ _) _ v
  have hlevel := complains_checkField_false (complains_checkChoice levelWords Level.ofSetting?)
    "level" .warning entries
  have houtputs := complains_checkField (complains_checkList (LogOutput.complains_check s))
    "outputs" [{}] entries
  exact (hlevel.both houtputs).congr (by simp)

theorem complains_checkTexts (v : Value) : Complains False (checkList checkText v) :=
  (complains_checkList complains_checkText v).congr (by simp)

theorem WorkspaceSettings.complains_check (v : Value) : Complains False (WorkspaceSettings.check v) := by
  have hextensions (v : Value) : Complains False (checkExtensions v) := by
    refine (complains_checkTexts v).bind fun raw => ?_
    split
    · exact complains_ok _
    · exact complains_complain _ _ _
  refine (complains_checkSection (p := fun _ => False)
    (fun entries => Complains.map ?_ _) _ v).congr (by simp)
  have hfields := (complains_checkField_false hextensions "source_extensions" [.plain ".cs"] entries).both
    ((complains_checkField_false complains_checkTexts "excluded_dirs" [.plain "bin", .plain "obj"] entries).both
      (complains_checkField_false complains_checkText "encoding" (.plain defaultEncoding) entries))
  exact hfields.congr (by simp)

theorem ProbeSettings.complains_check (v : Value) : Complains False (ProbeSettings.check v) :=
  (complains_checkSection (p := fun _ => False)
    (fun entries => (complains_checkField_false complains_checkTexts _ _ entries).map _) _ v).congr
      (by simp)

/-- The section of the journal names a destination below an unknown home directory. -/
def Settings.NamesUnknownHome (s : Site) (entries : Entries) : Prop :=
  ∃ v, Value.get? (.text "logging") entries = some v ∧ LoggingSettings.NamesUnknownHome s v

/-- **A check of all sections complains**, unless some output goes to a file below an unknown home
directory. -/
theorem Settings.complains_checkSections (s : Site) (entries : Entries) :
    Complains (NamesUnknownHome s entries) (Settings.checkSections s (.map entries)) := by
  have hlogging := complains_checkField (LoggingSettings.complains_check s) "logging" {} entries
  have hworkspace := complains_checkField_false WorkspaceSettings.complains_check "workspace" {} entries
  have hprobe := complains_checkField_false ProbeSettings.complains_check "probe" {} entries
  exact ((hlogging.both (hworkspace.both hprobe)).map _).congr (by simp [NamesUnknownHome])

end SolutionSurvey
