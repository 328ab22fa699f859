import SolutionSurvey.Config.Load
import SolutionSurvey.Proofs.Config.Checks
import SolutionSurvey.Proofs.Files.Written
import SolutionSurvey.Proofs.Text.Lowered

/-!
# Settings read back

What a check gives can be written as a value, and the same check reads it back from there. Checks that change
what they read reach a normal form in one go: an extension has no blanks at its ends, is in lower case and
starts with a point, and the file of an output has an absolute path that is read from its own text.

## Main definitions

* `Checked.Rereads` — what a check gives is valid, and what is valid is read back.
* `Checked.Rereads.list`, `Checked.Rereads.field_eq_ok`, `Checked.Rereads.ofParts` — lists, fields and sections.
* `WorkspaceSettings.IsExtension`, `Destination.IsValid`, `Settings.IsValid` — valid settings and their parts.
* `Settings.load_eq_loadOnce` — settings that were loaded are the ones that were read first.
* `Settings.check_toValue_of_check` — settings that were read are read back.
-/

namespace SolutionSurvey

variable {α β : Type}

/-! ## Lists and fields -/

/-- What holds of all that members of a list are related to. -/
theorem forall_mem_of_forall₂ {R : α → β → Prop} {p : β → Prop} {as : List α} {bs : List β}
    (h : List.Forall₂ R as bs) (hp : ∀ a ∈ as, ∀ b, R a b → p b) : ∀ b ∈ bs, p b := by
  induction h with
  | nil => exact nofun
  | cons hab _ ih =>
      obtain ⟨ha, has⟩ := List.forall_mem_cons.mp hp
      exact List.forall_mem_cons.mpr ⟨ha _ hab, ih has⟩

/-- Something is made of a list if it is made of each member. -/
theorem mapM_eq_some {f : α → Option β} {as : List α} {bs : List β} :
    as.mapM f = some bs ↔ List.Forall₂ (fun a b => f a = some b) as bs := by
  induction as generalizing bs with
  | nil => simp [eq_comm]
  | cons a as ih =>
      rw [List.mapM_cons, List.forall₂_cons_left_iff]
      simp only [Option.bind_eq_bind, Option.bind_eq_some_iff, ih, Option.pure_def, Option.some.injEq]
      exact ⟨fun ⟨b, hb, rest, hrest, h⟩ => ⟨b, rest, hb, hrest, h.symm⟩,
        fun ⟨b, rest, hb, hrest, h⟩ => ⟨b, hb, rest, hrest, h.symm⟩⟩

/-- The value of a field that was written. -/
theorem field?_ofFields (name : String) (fields : List (String × Value)) :
    (Value.ofFields fields).field? name = fields.lookup name := by
  rw [Value.ofFields, Value.field?]
  induction fields with
  | nil => rfl
  | cons f fields ih =>
      rw [List.map_cons, Value.get?, Value.sameKey_text, List.lookup_cons, ih]
      by_cases hname : f.1 = name
      · simp [hname]
      · have hother : (name == f.1) = false := beq_false_of_ne (Ne.symm hname)
        simp [hname, hother]

/-! ## Checks that read back -/

namespace Checked

/-- What a check gives is valid, and what is valid is read back from the value that writes it. -/
structure Rereads (check : Value → Checked α) (write : α → Value) (valid : α → Prop) : Prop where
  valid_of_check : ∀ {v a}, check v = .ok a → valid a
  check_write : ∀ {a}, valid a → check (write a) = .ok a

namespace Rereads

variable {check : Value → Checked α} {write : α → Value} {valid : α → Prop}

/-- What a check gives is read back. -/
theorem check_write_of_check (h : Rereads check write valid) {v : Value} {a : α} (ha : check v = .ok a) :
    check (write a) = .ok a :=
  h.check_write (h.valid_of_check ha)

/-- A list is read back member by member. -/
theorem list (h : Rereads check write valid) :
    Rereads (checkList check) (fun as => .list (as.map write)) fun as => ∀ a ∈ as, valid a where
  valid_of_check hlist := by
    obtain ⟨items, -, hitems⟩ := checkList_eq_ok.mp hlist
    exact forall_mem_of_forall₂ hitems fun _ _ _ hitem => h.valid_of_check hitem
  check_write hall := by
    refine checkList_eq_ok.mpr ⟨_, rfl, ?_⟩
    rw [List.forall₂_map_left_iff, List.forall₂_same]
    exact fun a ha => h.check_write (hall a ha)

variable {name : String} {default a : α}

/-- A field is valid if its default is. -/
theorem valid_of_field (h : Rereads check write valid) (hdefault : valid default) {v : Value}
    (hfield : checkField name default check v = .ok a) : valid a := by
  rw [checkField_eq_ok] at hfield
  split at hfield
  · exact h.valid_of_check hfield
  · exact hfield ▸ hdefault

/-- A field that was written is read back. -/
theorem field_eq_ok (h : Rereads check write valid) (ha : valid a) {fields : List (String × Value)}
    (hfield : fields.lookup name = some (write a)) :
    checkField name default check (.ofFields fields) = .ok a := by
  rw [checkField_eq_ok, field?_ofFields, hfield]
  exact h.check_write ha

end Rereads

/-! ## Texts and words -/

theorem rereads_checkText : Rereads checkText .ofWording fun _ => True where
  valid_of_check _ := trivial
  check_write {w} _ := by cases w <;> rfl

/-- A word is read back if its name reads as the word. -/
theorem rereads_checkChoice {words : String} {read : String → Option α} {name : α → String}
    (hread : ∀ a, read (name a) = some a) :
    Rereads (checkChoice words read) (fun a => .text (name a)) fun _ => True where
  valid_of_check _ := trivial
  check_write {a} _ := by
    simp only [checkChoice, Value.text?, Option.bind_some, hread]

theorem rereads_checkLevel : Rereads checkLevel (fun l => .text l.settingName) fun _ => True :=
  rereads_checkChoice Level.ofSetting?_settingName

theorem rereads_checkFormat : Rereads checkFormat (fun f => .text f.name) fun _ => True :=
  rereads_checkChoice fun f => by cases f <;> decide

theorem rereads_checkLevel? :
    Rereads checkLevel? (fun l => (l.map fun l => .text l.settingName).getD .null) fun _ => True where
  valid_of_check _ := trivial
  check_write {l} _ := by
    cases l with
    | none => rfl
    | some l => exact map_eq_ok.mpr ⟨l, rereads_checkLevel.check_write trivial, rfl⟩

end Checked

open Checked

/-! ## Extensions -/

namespace WorkspaceSettings

/-- An extension that settings hold: a text without blanks at its ends, in lower case and with a point in
front. -/
structure IsExtension (e : Wording) : Prop where
  trimmed : e.trimmed = e
  lower : e.mapRuns Text.lower = e
  head : e.firstRun.toList.head? = some '.'

/-- An extension is compared as it is. -/
theorem IsExtension.extension? {e : Wording} (h : IsExtension e) : extension? e = some e := by
  have hne : e ≠ .plain "" := by
    rintro rfl
    cases h.head
  simp only [WorkspaceSettings.extension?, h.trimmed, h.lower, if_neg hne, if_pos h.head]

/-- **The extension of a text is one that settings hold.** -/
theorem isExtension_of_extension? {raw e : Wording} (h : extension? raw = some e) : IsExtension e := by
  rw [extension?] at h
  have htrimmed := (Wording.isTrimmed_trimmed raw).mapRuns_lower
  have hsmall := Wording.isSmall_mapRuns_lower raw.trimmed
  generalize raw.trimmed.mapRuns Text.lower = small at h htrimmed hsmall
  split at h
  · cases h
  · split at h
    · next hhead =>
      cases h
      exact ⟨Wording.trimmed_of_isTrimmed htrimmed, Wording.mapRuns_lower_of_isSmall hsmall, hhead⟩
    · cases h
      have hpoint : Text.isBlank '.' = false ∧ ∀ c ∈ ".".toList, Text.IsSmall c := by
        refine ⟨by decide, List.forall_mem_singleton.mpr (by decide)⟩
      refine ⟨Wording.trimmed_of_isTrimmed (htrimmed.prepend hpoint.1),
        Wording.mapRuns_lower_of_isSmall (hsmall.prepend hpoint.2), ?_⟩
      cases small <;> simp [Wording.prepend, Wording.firstRun]

theorem rereads_checkExtensions :
    Rereads checkExtensions (fun es => .list (es.map .ofWording)) fun es => ∀ e ∈ es, IsExtension e where
  valid_of_check h := by
    obtain ⟨raw, -, h⟩ := bind_eq_ok.mp h
    split at h
    · next es hes =>
      cases h
      exact forall_mem_of_forall₂ (mapM_eq_some.mp hes) fun _ _ _ he => isExtension_of_extension? he
    · cases h
  check_write {es} hes := by
    have hraw : checkList checkText (.list (es.map .ofWording)) = .ok es :=
      rereads_checkText.list.check_write fun _ _ => trivial
    have hextensions : es.mapM extension? = some es :=
      mapM_eq_some.mpr (List.forall₂_same.mpr fun e he => (hes e he).extension?)
    refine bind_eq_ok.mpr ⟨es, hraw, ?_⟩
    rw [hextensions]

end WorkspaceSettings

/-! ## Destinations -/

namespace Destination

variable {s : Site}

/-- A stream, or a file whose path is absolute and is read from its text. -/
def IsValid : Destination → Prop
  | .file p => p.isAbsolute ∧ p.IsText
  | _ => True

/-- A text that names no stream names a file by its absolute path. -/
theorem ofText_eq_ok {text : Wording} (hstderr : text ≠ "stderr") (hstdout : text ≠ "stdout") {d : Destination} :
    ofText s text = .ok d ↔ ∃ p, s.expandHome (.ofWording text) = .ok p ∧ p.isAbsolute ∧ d = .file p := by
  rw [ofText, if_neg hstderr, if_neg hstdout]
  cases s.expandHome (.ofWording text) with
  | error f =>
      by_cases hvalue : f.isValueFault <;> simp [hvalue, complainOf, complain]
  | ok p =>
      by_cases habsolute : p.isAbsolute
      · simp [habsolute, @eq_comm _ d]
      · simp [habsolute, complainOf, complain]

/-- An absolute path names a file as it is. -/
theorem ofText_of_isAbsolute {text : Wording} (h : (WordedPath.ofWording text).isAbsolute) :
    ofText s text = .ok (.file (.ofWording text)) := by
  -- the names of the streams are relative paths
  have hstream {stream : Wording} (hrelative : (WordedPath.ofWording stream).isAbsolute = false) :
      text ≠ stream := by
    rintro rfl
    exact Bool.false_ne_true (hrelative.symm.trans h)
  rw [ofText_eq_ok (hstream (by decide)) (hstream (by decide))]
  exact ⟨_, Site.expandHome_of_isAbsolute h, h, rfl⟩

/-- **A destination is read back from its text.** -/
theorem rereads_check : Rereads (check s) (fun d => .ofWording d.toWording) IsValid where
  valid_of_check h := by
    obtain ⟨text, -, hread⟩ := bind_eq_ok.mp h
    by_cases hstderr : text = "stderr"
    · rw [ofText, if_pos hstderr] at hread
      cases hread
      trivial
    · by_cases hstdout : text = "stdout"
      · rw [ofText, if_neg hstderr, if_pos hstdout] at hread
        cases hread
        trivial
      · obtain ⟨p, hp, habsolute, rfl⟩ := (ofText_eq_ok hstderr hstdout).mp hread
        exact ⟨habsolute, Site.isText_expandHome (WordedPath.isText_ofWording text) hp⟩
  check_write {d} hd := by
    have hread {text : Wording} (h : ofText s text = .ok d) : check s (.ofWording text) = .ok d :=
      bind_eq_ok.mpr ⟨text, rereads_checkText.check_write trivial, h⟩
    cases d with
    | stderr => exact hread rfl
    | stdout => exact hread rfl
    | file p =>
        obtain ⟨habsolute, htext⟩ := hd
        have hfile : (WordedPath.ofWording p.toWording).isAbsolute → ofText s p.toWording = .ok _ :=
          ofText_of_isAbsolute
        rw [htext.ofWording_toWording] at hfile
        exact hread (hfile habsolute)

end Destination

/-! ## Sections -/

namespace Checked

/-- A section is valid if it is made of valid parts, and it is read back if its parts are read back from the
fields that write it. -/
theorem Rereads.ofParts {name : String} {parts : Value → Checked β} {make : β → α} {valid : α → Prop}
    {fields : α → List (String × Value)} (split : α → β) (hmake : ∀ a, make (split a) = a)
    (hvalid : ∀ v p, parts v = .ok p → valid (make p))
    (hparts : ∀ a, valid a → parts (.ofFields (fields a)) = .ok (split a)) :
    Rereads (checkSection name fun v => (parts v).map make) (fun a => .ofFields (fields a)) valid where
  valid_of_check h := by
    obtain ⟨entries, -, hmap⟩ := checkSection_eq_ok.mp h
    obtain ⟨p, hp, rfl⟩ := map_eq_ok.mp hmap
    exact hvalid _ p hp
  check_write {a} ha :=
    checkSection_eq_ok.mpr ⟨_, rfl, map_eq_ok.mpr ⟨split a, hparts a ha, hmake a⟩⟩

end Checked

variable {s : Site}

/-- The output goes to a valid destination. -/
def LogOutput.IsValid (o : LogOutput) : Prop :=
  o.destination.IsValid

theorem LogOutput.rereads_check : Rereads (LogOutput.check s) toValue IsValid := by
  have hdestination := Destination.rereads_check (s := s)
  have hdefault : Destination.IsValid .stderr := trivial
  refine .ofParts (fun o => (o.format, o.destination, o.level)) (fun _ => rfl) (fun v p h => ?_) fun o ho => ?_
  · exact hdestination.valid_of_field hdefault (both_eq_ok.mp (both_eq_ok.mp h).2).1
  · rw [both_eq_ok, both_eq_ok]
    exact ⟨rereads_checkFormat.field_eq_ok trivial rfl, hdestination.field_eq_ok ho rfl,
      rereads_checkLevel?.field_eq_ok trivial rfl⟩

/-- All outputs are valid. -/
def LoggingSettings.IsValid (l : LoggingSettings) : Prop :=
  ∀ o ∈ l.outputs, o.IsValid

theorem LoggingSettings.isValid_default : IsValid {} :=
  List.forall_mem_singleton.mpr trivial

theorem LoggingSettings.rereads_check : Rereads (LoggingSettings.check s) toValue IsValid := by
  have houtputs := (LogOutput.rereads_check (s := s)).list
  refine .ofParts (fun l => (l.level, l.outputs)) (fun _ => rfl) (fun v p h => ?_) fun l hl => ?_
  · exact houtputs.valid_of_field isValid_default (both_eq_ok.mp h).2
  · rw [both_eq_ok]
    exact ⟨rereads_checkLevel.field_eq_ok trivial rfl, houtputs.field_eq_ok hl rfl⟩

/-- The extensions are compared as they are. -/
def WorkspaceSettings.IsValid (w : WorkspaceSettings) : Prop :=
  ∀ e ∈ w.sourceExtensions, IsExtension e

theorem WorkspaceSettings.isValid_default : IsValid {} := by
  have hextension : extension? ".cs" = some ".cs" := by decide +kernel
  exact List.forall_mem_singleton.mpr (isExtension_of_extension? hextension)

theorem WorkspaceSettings.rereads_check : Rereads WorkspaceSettings.check toValue IsValid := by
  refine .ofParts (fun w => (w.sourceExtensions, w.excludedDirs, w.encoding)) (fun _ => rfl) (fun v p h => ?_)
    fun w hw => ?_
  · exact rereads_checkExtensions.valid_of_field isValid_default (both_eq_ok.mp h).1
  · rw [both_eq_ok, both_eq_ok]
    exact ⟨rereads_checkExtensions.field_eq_ok hw rfl,
      rereads_checkText.list.field_eq_ok (fun _ _ => trivial) rfl, rereads_checkText.field_eq_ok trivial rfl⟩

theorem ProbeSettings.rereads_check : Rereads ProbeSettings.check toValue fun _ => True :=
  .ofParts identifierFields (fun _ => rfl) (fun _ _ _ => trivial)
    fun _ _ => rereads_checkText.list.field_eq_ok (fun _ _ => trivial) rfl

namespace Settings

/-- All sections are valid. -/
structure IsValid (t : Settings) : Prop where
  logging : t.logging.IsValid
  workspace : t.workspace.IsValid

theorem rereads_check : Rereads (check s) toValue IsValid := by
  have hlogging := LoggingSettings.rereads_check (s := s)
  refine .ofParts (fun t => (t.logging, t.workspace, t.probe)) (fun _ => rfl) (fun v p h => ?_) fun t ht => ?_
  · obtain ⟨hl, hrest⟩ := both_eq_ok.mp h
    exact ⟨hlogging.valid_of_field LoggingSettings.isValid_default hl,
      WorkspaceSettings.rereads_check.valid_of_field WorkspaceSettings.isValid_default (both_eq_ok.mp hrest).1⟩
  · rw [both_eq_ok, both_eq_ok]
    exact ⟨hlogging.field_eq_ok ht.logging rfl, WorkspaceSettings.rereads_check.field_eq_ok ht.workspace rfl,
      ProbeSettings.rereads_check.field_eq_ok trivial rfl⟩

/-! ## Loading -/

theorem checkSections_of_checkWhole {entries : Entries} {t : Settings} (h : checkWhole s entries = .ok t) :
    checkSections s (.map entries) = .ok t := by
  rw [checkWhole] at h
  split at h
  · cases h
  · split at h
    · exact absurd h (outdoneBy_ne_ok nofun t)
    · obtain ⟨p, hp, rfl⟩ := map_eq_ok.mp h
      exact (both_eq_ok.mp hp).1

/-- Settings that were read first pass the check of all sections. -/
theorem checkSections_of_loadOnce {r : LoadRequest} {t : Settings} (h : loadOnce s r = .ok t) :
    ∃ whole, r.layered s = .ok whole ∧ checkSections s (.map whole) = .ok t := by
  obtain ⟨whole, hwhole, h⟩ := bind_eq_ok.mp h
  refine ⟨whole, hwhole, checkSections_of_checkWhole ?_⟩
  cases hcheck : checkWhole s whole with
  | error f => rw [hcheck] at h; cases h
  | ok t' => rw [hcheck] at h; exact h

/-- **Reading settings once more changes nothing.** -/
theorem load_eq_loadOnce (s : Site) (r : LoadRequest) : load s r = loadOnce s r := by
  rw [load]
  cases hload : loadOnce s r with
  | error f => rfl
  | ok t =>
      obtain ⟨whole, -, hwhole⟩ := checkSections_of_loadOnce hload
      have hcheck : check s (.map whole) = .ok t := checkSection_eq_ok.mpr ⟨whole, rfl, hwhole⟩
      exact rereads_check.check_write_of_check hcheck

/-- **Settings that were read are read back.** What a check gives for a section, or for all sections, is valid,
and the value that writes it gives the same again; so reading loaded settings once more neither fails nor
changes them. -/
theorem check_toValue_of_check (s : Site) :
    (∀ v o, LogOutput.check s v = .ok o → o.IsValid ∧ LogOutput.check s o.toValue = .ok o) ∧
      (∀ v l, LoggingSettings.check s v = .ok l → l.IsValid ∧ LoggingSettings.check s l.toValue = .ok l) ∧
      (∀ v w, WorkspaceSettings.check v = .ok w → w.IsValid ∧ WorkspaceSettings.check w.toValue = .ok w) ∧
      (∀ v p, ProbeSettings.check v = .ok p → ProbeSettings.check p.toValue = .ok p) ∧
      (∀ v t, check s v = .ok t → t.IsValid ∧ check s t.toValue = .ok t) ∧
      ∀ r, (∀ t, loadOnce s r = .ok t → t.IsValid ∧ check s t.toValue = .ok t) ∧ load s r = loadOnce s r := by
  have houtput := LogOutput.rereads_check (s := s)
  have hlogging := LoggingSettings.rereads_check (s := s)
  have hworkspace := WorkspaceSettings.rereads_check
  have hprobe := ProbeSettings.rereads_check
  have hsettings := rereads_check (s := s)
  refine ⟨fun v o h => ⟨houtput.valid_of_check h, houtput.check_write_of_check h⟩,
    fun v l h => ⟨hlogging.valid_of_check h, hlogging.check_write_of_check h⟩,
    fun v w h => ⟨hworkspace.valid_of_check h, hworkspace.check_write_of_check h⟩,
    fun v p h => hprobe.check_write_of_check h,
    fun v t h => ⟨hsettings.valid_of_check h, hsettings.check_write_of_check h⟩,
    fun r => ⟨fun t h => ?_, load_eq_loadOnce s r⟩⟩
  obtain ⟨whole, -, hwhole⟩ := checkSections_of_loadOnce h
  have hcheck : check s (.map whole) = .ok t := checkSection_eq_ok.mpr ⟨whole, rfl, hwhole⟩
  exact ⟨hsettings.valid_of_check hcheck, hsettings.check_write_of_check hcheck⟩

/-- A place without configuration files. -/
def untidySite : Site where
  tree := .dir [("w", .dir [("home", .dir [])])]
  here := ⟨1, ["w"]⟩
  home := ⟨1, ["w", "home"]⟩

/-- An output to a file below the home directory, by a path with empty and idle parts. -/
def untidyOutput : Value :=
  .ofFields [("format", .text "json"), ("destination", .text "~//logs/./run.log")]

/-- A journal with this output and one to a stream. -/
def untidyLogging : Value :=
  .ofFields [("outputs", .list [untidyOutput, .ofFields [("destination", .text "stdout")]])]

/-- Extensions with blanks around them, with and without a point, with a capital whose form in lower case is
longer, and with a half. -/
def untidyWorkspace : Value :=
  .ofFields [("source_extensions",
    .list [.text " C\u0130 ", .text ".FS", .text "\u00a0X\n", .broken " A" ⟨0⟩ "B "])]

/-- Roles as a pair, one of them in bytes. -/
def untidyProbe : Value :=
  .ofFields [("identifier_fields", .pair (.text "name") (.bytes [0x69, 0x64]))]

/-- Settings as a caller may ask for them. -/
def untidyEntries : Entries :=
  [(.text "logging", untidyLogging), (.text "workspace", untidyWorkspace), (.text "probe", untidyProbe)]

/-- The settings that are read. -/
def tidySettings : Settings where
  logging := ⟨.warning, [⟨.json, .file ⟨1, ["w", "home", "logs", "run.log"]⟩, none⟩, ⟨.console, .stdout, none⟩]⟩
  workspace := ⟨[".ci\u0307", ".fs", ".x", .broken ".a" ⟨0⟩ "b"], ["bin", "obj"], defaultEncoding⟩
  probe := ⟨["name", "id"]⟩

/-- Untidy settings become tidy by one check, and the next one keeps them. -/
theorem check_toValue_of_check_untidy :
    (∃ o, LogOutput.check untidySite untidyOutput = .ok o ∧ LogOutput.check untidySite o.toValue = .ok o) ∧
      (LoggingSettings.check untidySite untidyLogging = .ok tidySettings.logging ∧
        LoggingSettings.check untidySite tidySettings.logging.toValue = .ok tidySettings.logging) ∧
      (WorkspaceSettings.check untidyWorkspace = .ok tidySettings.workspace ∧
        WorkspaceSettings.check tidySettings.workspace.toValue = .ok tidySettings.workspace) ∧
      (ProbeSettings.check untidyProbe = .ok tidySettings.probe ∧
        ProbeSettings.check tidySettings.probe.toValue = .ok tidySettings.probe) ∧
      (check untidySite (.map untidyEntries) = .ok tidySettings ∧
        check untidySite tidySettings.toValue = .ok tidySettings) ∧
      loadOnce untidySite { overrides := untidyEntries } = .ok tidySettings ∧
      load untidySite { overrides := untidyEntries } = .ok tidySettings := by
  have houtput : LogOutput.check untidySite untidyOutput =
      .ok ⟨.json, .file ⟨1, ["w", "home", "logs", "run.log"]⟩, none⟩ := eq_ok_of_toOption (by decide +kernel)
  have hlogging : LoggingSettings.check untidySite untidyLogging = .ok tidySettings.logging :=
    eq_ok_of_toOption (by decide +kernel)
  have hworkspace : WorkspaceSettings.check untidyWorkspace = .ok tidySettings.workspace :=
    eq_ok_of_toOption (by decide +kernel)
  have hprobe : ProbeSettings.check untidyProbe = .ok tidySettings.probe :=
    eq_ok_of_toOption (by decide +kernel)
  have hsettings : check untidySite (.map untidyEntries) = .ok tidySettings :=
    eq_ok_of_toOption (by decide +kernel)
  have honce : loadOnce untidySite { overrides := untidyEntries } = .ok tidySettings :=
    eq_ok_of_toOption (by decide +kernel)
  obtain ⟨houtputs, hloggings, hworkspaces, hprobes, hall, hload⟩ := check_toValue_of_check untidySite
  exact ⟨⟨_, houtput, (houtputs _ _ houtput).2⟩, ⟨hlogging, (hloggings _ _ hlogging).2⟩,
    ⟨hworkspace, (hworkspaces _ _ hworkspace).2⟩, ⟨hprobe, hprobes _ _ hprobe⟩,
    ⟨hsettings, (hall _ _ hsettings).2⟩, honce, (hload _).2.trans honce⟩

end Settings

end SolutionSurvey
