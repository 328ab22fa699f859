import SolutionSurvey.Proofs.Config.Precedence
import SolutionSurvey.Proofs.Config.Straight
import SolutionSurvey.Proofs.Value.Endless

/-!
# Failures of loading that are no reports about the configuration

Whoever loads settings is told of a configuration that cannot be used by a report. Complaints of checks
become such reports, and so do the problems of the format of a file. Everything else that can go wrong in
files, variables and destinations comes out as it is, and so do two files that cannot be merged because each
has a mapping inside itself.

## Main definitions

* `Escapes` — an outcome is a failure that is no report about the configuration.
* `Site.Unreadable` — the bytes of a file meet a failure that is no problem of the format.
* `Environment.Unreadable` — a variable that is needed as JSON is none.
* `Value.escapes_merge` — merging two files fails if it has no end.
* `Settings.load_escapes_iff` — when loading fails without a report about the configuration.
-/

namespace SolutionSurvey

variable {α β : Type}

/-- An outcome is a failure that is no report about the configuration. -/
def Escapes (x : Except Failure α) : Prop :=
  ∃ f, x = .error f ∧ f.kind ≠ "ConfigError"

theorem not_escapes_ok (a : α) : ¬ Escapes (.ok a : Except Failure α) := by
  rintro ⟨f, hf, -⟩
  cases hf

theorem escapes_error {f : Failure} : Escapes (.error f : Except Failure α) ↔ f.kind ≠ "ConfigError" := by
  constructor
  · rintro ⟨g, hg, hkind⟩
    cases hg
    exact hkind
  · exact fun h => ⟨f, rfl, h⟩

instance : ∀ x : Except Failure α, Decidable (Escapes x)
  | .ok a => isFalse (not_escapes_ok a)
  | .error f => decidable_of_iff (f.kind ≠ "ConfigError") escapes_error.symm

theorem not_escapes_report {r : Report} (h : r.kind = "ConfigError") :
    ¬ Escapes (.error (.report r) : Except Failure α) :=
  fun hescapes => escapes_error.mp hescapes h

/-- Of two steps the first one escapes, or it has a good outcome and the second one escapes. -/
theorem escapes_bind {x : Except Failure α} {f : α → Except Failure β} :
    Escapes (x >>= f) ↔ Escapes x ∨ ∃ a, x = .ok a ∧ Escapes (f a) := by
  cases x with
  | error g =>
      have hbind : (Except.error g >>= f) = .error g := rfl
      rw [hbind, escapes_error, escapes_error]
      simp
  | ok a =>
      have hbind : (Except.ok a >>= f) = f a := rfl
      simp [hbind, not_escapes_ok]

/-! ## Files -/

namespace Site

/-- A file is not there, or it can be read. -/
def IsAbsentOrRead (s : Site) (path : FilePath) : Prop :=
  s.pathExists path = false ∨ ∃ bs, s.read path = .ok bs

/-- The bytes of a file meet a failure that is no problem of the format. -/
def Unreadable (s : Site) (path : FilePath) : Prop :=
  ∃ bs f, s.read path = .ok bs ∧ Yaml.read bs = .error (.failure f) ∧ f.kind ≠ "ConfigError"

theorem pathExists_of_read {s : Site} {path : FilePath} {bs : List UInt8} (h : s.read path = .ok bs) :
    s.pathExists path = true ∧ s.isFile path = true := by
  rw [read] at h
  split at h
  · cases h
  · rw [pathExists, isFile]
    split at h
    · next hfind => simp [hfind, Except.toOption]
    · cases h
    · cases h

/-- The mapping in a file is missed without a report exactly if its bytes are unreadable. -/
theorem escapes_loadMapping {s : Site} {path : FilePath} (h : s.IsAbsentOrRead path) :
    Escapes (s.loadMapping path) ↔ s.Unreadable path := by
  rw [loadMapping]
  rcases h with habsent | ⟨bs, hread⟩
  · have hnot : ¬ s.Unreadable path := by
      rintro ⟨bs, f, hread, -⟩
      rw [(pathExists_of_read hread).1] at habsent
      cases habsent
    simp [habsent, hnot, not_escapes_ok]
  · have hbind (g : List UInt8 → Except Failure Entries) : (s.read path >>= g) = g bs := by rw [hread]; rfl
    have hunreadable : s.Unreadable path ↔
        ∃ f, Yaml.read bs = .error (.failure f) ∧ f.kind ≠ "ConfigError" := by
      simp [Unreadable, hread]
    simp only [(pathExists_of_read hread).1, hbind, hunreadable, Bool.not_true, if_neg Bool.false_ne_true]
    rcases hyaml : Yaml.read bs with (p | f) | v
    · refine iff_of_false (not_escapes_report rfl) ?_
      rintro ⟨f, hf, -⟩
      cases hf
    · simp [escapes_error]
    · simp only [reduceCtorEq, false_and, exists_false, iff_false]
      split
      · exact not_escapes_ok _
      · split
        · exact not_escapes_ok _
        · exact not_escapes_report rfl

end Site

namespace LoadRequest

/-- The file that a request reads for the project. -/
def projectPath (s : Site) (r : LoadRequest) : FilePath :=
  r.file.getD ((r.root.getD s.here).join projectConfig)

/-- A file that was asked for and is not there is reported. -/
theorem escapes_projectMapping {s : Site} {r : LoadRequest} (h : s.IsAbsentOrRead (r.projectPath s)) :
    Escapes (r.projectMapping s) ↔ s.Unreadable (r.projectPath s) := by
  rw [projectMapping]
  rcases hfile : r.file with _ | path
  · simp only [projectPath, hfile, Option.getD_none] at h ⊢
    exact Site.escapes_loadMapping h
  · simp only [projectPath, hfile, Option.getD_some] at h ⊢
    split
    · exact Site.escapes_loadMapping h
    · next hnone =>
      refine iff_of_false (not_escapes_report rfl) ?_
      rintro ⟨bs, f, hread, -⟩
      exact hnone (Site.pathExists_of_read hread).2

end LoadRequest

/-! ## Variables -/

namespace Environment

/-- A computation fails on an unreadable variable under a condition, and has a good outcome otherwise. -/
def FailsIf (p : Prop) (x : Except Failure α) : Prop :=
  ((∃ a, x = .ok a) ∧ ¬ p) ∨ ((∃ name, x = .error (.unreadableVariable name)) ∧ p)

namespace FailsIf

variable {p q : Prop} {x : Except Failure α} {f : α → Except Failure β}

theorem ok (a : α) : FailsIf False (.ok a : Except Failure α) :=
  .inl ⟨⟨a, rfl⟩, id⟩

theorem error (name : String) : FailsIf True (.error (.unreadableVariable name) : Except Failure α) :=
  .inr ⟨⟨name, rfl⟩, trivial⟩

theorem congr (h : FailsIf p x) (hpq : p ↔ q) : FailsIf q x :=
  h.imp (And.imp_right hpq.not.mp) (And.imp_right hpq.mp)

theorem bind (hx : FailsIf p x) (hf : ∀ a, FailsIf q (f a)) : FailsIf (p ∨ q) (x >>= f) := by
  rcases hx with ⟨⟨a, rfl⟩, hp⟩ | ⟨⟨name, rfl⟩, hp⟩
  · exact (hf a).congr (by simp [hp])
  · exact .inr ⟨⟨name, rfl⟩, .inl hp⟩

theorem foldlM {σ ε : Type} {g : σ → ε → Except Failure σ} {p : ε → Prop} (h : ∀ s e, FailsIf (p e) (g s e))
    (l : List ε) (s : σ) : FailsIf (∃ e ∈ l, p e) (l.foldlM g s) := by
  induction l generalizing s with
  | nil => exact (ok s).congr (by simp)
  | cons e rest ih =>
      rw [List.foldlM_cons]
      exact ((h s e).bind ih).congr (by simp)

theorem mapM {g : α → Except Failure β} {p : α → Prop} (h : ∀ a, FailsIf (p a) (g a)) (l : List α) :
    FailsIf (∃ a ∈ l, p a) (l.mapM g) := by
  induction l with
  | nil => exact (ok []).congr (by simp)
  | cons a rest ih =>
      rw [List.mapM_cons]
      exact ((h a).bind fun b => ih.bind fun bs => ok (b :: bs)).congr (by simp)

theorem escapes_iff (h : FailsIf p x) : Escapes x ↔ p := by
  rcases h with ⟨⟨a, rfl⟩, hp⟩ | ⟨⟨name, rfl⟩, hp⟩
  · exact iff_of_false (not_escapes_ok a) hp
  · exact iff_of_true (escapes_error.mpr (by simp [Failure.kind])) hp

end FailsIf

/-- A variable for a key of a section is needed as JSON and is none. -/
def KeyUnreadable (s : String × List (String × Shape)) (e : String × Wording) : Prop :=
  (lead ++ s.1 ++ "__").toList.isPrefixOf e.1.toList ∧
    valueOf (shapeAt s.2 (partsOf [] (e.1.toList.drop (lead ++ s.1 ++ "__").length))) e.2 = none

/-- A variable for a section, or one for a key of it, is no JSON and has to be. The latter are not looked at
where the section has a value that is no mapping. -/
def SectionUnreadable (env : Environment) (s : String × List (String × Shape)) : Prop :=
  match env.lookup (lead ++ s.1) with
  | none => ∃ e ∈ env, KeyUnreadable s e
  | some text =>
    match Json.read? text with
    | none => True
    | some (.map _) => ∃ e ∈ env, KeyUnreadable s e
    | some _ => False

/-- A variable that is needed as JSON is none. -/
def Unreadable (env : Environment) : Prop :=
  ∃ s ∈ sections, SectionUnreadable env.lowered s

theorem failsIf_keys (env : Environment) (s : String × List (String × Shape)) :
    FailsIf (∃ e ∈ env, KeyUnreadable s e) (keys env s.1 s.2) := by
  rw [keys_eq]
  refine FailsIf.foldlM (p := KeyUnreadable s) (fun done e => ?_) env []
  rw [addKey, KeyUnreadable]
  by_cases hstem : (lead ++ s.1 ++ "__").toList.isPrefixOf e.1.toList
  · rw [if_pos hstem]
    dsimp only
    split
    · next v hv => exact (FailsIf.ok _).congr (iff_of_false id fun h => by rw [hv] at h; cases h.2)
    · next hnone => exact (FailsIf.error s.1).congr (iff_of_true trivial ⟨hstem, hnone⟩)
  · rw [if_neg hstem]
    exact (FailsIf.ok _).congr (iff_of_false id fun h => hstem h.1)

theorem failsIf_section? (env : Environment) (s : String × List (String × Shape)) :
    FailsIf (SectionUnreadable env s) (section? env s.1 s.2) := by
  have hkeys {γ : Type} (f : Entries → γ) :
      FailsIf (∃ e ∈ env, KeyUnreadable s e) (keys env s.1 s.2 >>= fun ks => .ok (f ks)) :=
    ((failsIf_keys env s).bind fun ks => .ok (f ks)).congr (or_iff_left id)
  rw [section?, SectionUnreadable]
  cases env.lookup (lead ++ s.1) with
  | none => exact hkeys _
  | some text =>
      dsimp only
      cases Json.read? text with
      | none => exact .error s.1
      | some v =>
          cases v with
          | map entries => exact hkeys _
          | _ => exact .ok _

/-- **The variables are missed exactly if one that is needed as JSON is none.** -/
theorem escapes_entries (env : Environment) : Escapes env.entries ↔ env.Unreadable := by
  have hsections := FailsIf.mapM (fun s => (failsIf_section? env.lowered s).bind fun v =>
    FailsIf.ok (v.map fun v => (Value.text s.1, v))) sections
  have hentries := hsections.bind fun found => FailsIf.ok (found.filterMap id)
  exact (hentries.congr (by simp [Unreadable])).escapes_iff

end Environment

/-! ## Merged mappings -/

namespace Value

/-- Some name in a mapping is no text. -/
def namesOther (entries : Entries) : Bool :=
  entries.any fun e => e.1.wording?.isNone

theorem wording?_eq_some {v : Value} {w : Wording} : v.wording? = some w ↔ v = .ofWording w := by
  cases v <;> cases w <;> simp [wording?, ofWording]

theorem sameKey_ofWording_iff {v : Value} {w : Wording} : v.sameKey (.ofWording w) ↔ v = .ofWording w := by
  cases v <;> cases w <;> simp [sameKey, keyNumber?, ofWording, and_assoc]

theorem isNone_wording?_congr {a b : Value} (h : a.sameKey b) : a.wording?.isNone = b.wording?.isNone := by
  cases hb : b.wording? with
  | some w =>
      rw [wording?_eq_some] at hb
      subst hb
      rw [sameKey_ofWording_iff.mp h, wording?_eq_some.mpr rfl]
  | none =>
      cases ha : a.wording? with
      | none => rfl
      | some w =>
          rw [wording?_eq_some] at ha
          subst ha
          rw [sameKey_ofWording_iff.mp (sameKey_symm h), wording?_eq_some.mpr rfl] at hb
          cases hb

/-- A name in merged mappings is one in either of them. -/
theorem namesOther_merge {lower upper whole : Entries} (h : merge lower upper = .ok whole) :
    namesOther whole = (namesOther lower || namesOther upper) :=
  any_mergeWithin (fun _ _ => isNone_wording?_congr) h

/-- Merging fails without a report exactly if it has no end. -/
theorem escapes_merge {v w : Value} {lower upper : Entries} (hv : Unfolds v lower) (hw : Unfolds w upper) :
    Escapes (merge lower upper) ↔ Endless lower upper := by
  rw [← merge_eq_endless_iff hv hw]
  cases hmerge : merge lower upper with
  | ok whole => exact iff_of_false (not_escapes_ok whole) nofun
  | error f =>
      obtain rfl := eq_endless_of_mergeWithin hmerge
      exact iff_of_true (escapes_error.mpr (by simp [Failure.kind])) rfl

end Value

open Value (namesOther)

/-- The environment names sections only. -/
theorem Environment.namesOther_entries {env : Environment} {es : Entries} (h : env.entries = .ok es) :
    namesOther es = false := by
  obtain ⟨found, hfound, h⟩ := bind_eq_ok.mp h
  cases h
  obtain ⟨-, hkeys, -⟩ := get?_found (by decide) hfound
  rw [namesOther, List.any_eq_false]
  intro e he
  obtain ⟨s, -, hkey⟩ := hkeys e he
  simp [hkey, Value.wording?]

/-! ## Loading -/

namespace Settings

theorem complains_checkExtra (entries : Entries) : Checked.Complains False (checkExtra entries) := by
  rw [checkExtra]
  cases entries.filter fun e => !e.1.text?.any fun k => sections.any fun s => s.1 == k with
  | nil => exact Checked.complains_ok ()
  | cons e rest => exact ⟨by simp, fun f hf => .inr ⟨_, _, (Except.error.inj hf).symm⟩⟩

/-- A check of all settings complains, but for names that are no texts and unknown home directories. -/
theorem complains_checkWhole (s : Site) {entries : Entries} (h : namesOther entries = false) :
    Checked.Complains (NamesUnknownHome s entries) (checkWhole s entries) := by
  have hnames : ¬ (entries.any fun e => e.1.wording?.isNone) = true := Bool.eq_false_iff.mp h
  have hsections := complains_checkSections s entries
  rw [checkWhole, if_neg hnames]
  split
  · exact hsections.outdoneBy _ _ _
  · exact ((hsections.both (complains_checkExtra entries)).map Prod.fst).congr (or_iff_left id)

/-- The first complaint about a mapping cannot be reported, for its value has a number that is too long. -/
def ComplainsUnwritably (s : Site) (entries : Entries) : Prop :=
  ∃ v vs, checkWhole s entries = .error (.invalid (v :: vs)) ∧ v.input.isUnwritable

/-- Complaints become reports if they can be written; names that are no texts and unknown home directories do
not. -/
theorem escapes_checkWhole (s : Site) (entries : Entries) :
    Escapes ((checkWhole s entries).mapError reportFirst) ↔
      namesOther entries ∨ NamesUnknownHome s entries ∨ ComplainsUnwritably s entries := by
  by_cases hother : namesOther entries
  · have hwhole : checkWhole s entries = .error (.type .keywordNotText) := by
      rw [checkWhole]
      exact if_pos hother
    rw [hwhole]
    exact iff_of_true (escapes_error.mpr (by simp [reportFirst, Failure.kind])) (.inl hother)
  · rw [Bool.not_eq_true] at hother
    rcases (complains_checkWhole s hother).cases with ⟨⟨t, ht⟩, hhome⟩ | ⟨ht, hhome⟩ | ⟨⟨v, vs, ht⟩, hhome⟩
    · rw [ht]
      exact iff_of_false (not_escapes_ok t) (by simp [hother, hhome, ComplainsUnwritably, ht])
    · rw [ht]
      exact iff_of_true (escapes_error.mpr (by simp [reportFirst, Failure.kind])) (.inr (.inl hhome))
    · have hcomplains : ComplainsUnwritably s entries ↔ v.input.isUnwritable = true := by
        simp [ComplainsUnwritably, ht]
      have hmapped : (Except.error (.invalid (v :: vs)) : Checked Settings).mapError reportFirst =
          .error (reportFirst (.invalid (v :: vs))) := rfl
      rw [ht, hmapped, hcomplains, reportFirst]
      cases v.input.isUnwritable with
      | true => exact iff_of_true (escapes_error.mpr (by simp [Failure.kind])) (.inr (.inr rfl))
      | false => exact iff_of_false (not_escapes_report rfl) (by simp [hother, hhome])

/-- A configuration of the project in bytes that are no text. -/
def undecodableSite : Site where
  tree := .dir [("w", .dir [(".codeparser", .dir [("config.yaml", .file [0xFF])])])]
  here := ⟨1, ["w"]⟩
  home := ⟨1, ["w", "home"]⟩

theorem read_undecodableSite :
    undecodableSite.read (LoadRequest.projectPath undecodableSite {}) = .ok [0xFF] := by
  rfl

theorem absent_undecodableSite :
    undecodableSite.pathExists (undecodableSite.home.join userConfig) = false := by
  rfl

end Settings

end SolutionSurvey
