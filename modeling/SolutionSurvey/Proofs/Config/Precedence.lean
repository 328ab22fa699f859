import SolutionSurvey.Proofs.Config.Rereading
import SolutionSurvey.Proofs.Config.Variables

/-!
# Which source a setting comes from

Settings come from what the caller asks for, the environment, the file of the project and the file of the
user. Where each source gives sections as mappings, a setting is what is read from the value of the first
of these sources that has one for it, and its default if none has.

## Main definitions

* `Leaf.Reading`, `Leaf.check`, `Leaf.of` — what is read for a key, and how.
* `Leaf.Reads` — a setting is what is read from a value, or its default.
* `LoadRequest.Layers` — the sources of a request.
* `LoadRequest.chosen` — the value that the first source with one has for a key.
* `Settings.load_precedence` — settings come from the chosen values.
-/

namespace SolutionSurvey

open Value (Distinct NoMap Sectioned Tidy setting?)

/-! ## Reading a key -/

namespace Leaf

/-- What is read for a key. -/
def Reading : Leaf → Type
  | .level => Level
  | .outputs => List LogOutput
  | .sourceExtensions | .excludedDirs | .identifierFields => List Wording
  | .encoding => Wording

/-- Reads the value for a key. -/
def check (s : Site) : (l : Leaf) → Value → Checked l.Reading
  | .level => checkLevel
  | .outputs => checkList (LogOutput.check s)
  | .sourceExtensions => WorkspaceSettings.checkExtensions
  | .excludedDirs | .identifierFields => checkList checkText
  | .encoding => checkText

/-- The setting of a key. -/
def of (t : Settings) : (l : Leaf) → l.Reading
  | .level => t.logging.level
  | .outputs => t.logging.outputs
  | .sourceExtensions => t.workspace.sourceExtensions
  | .excludedDirs => t.workspace.excludedDirs
  | .encoding => t.workspace.encoding
  | .identifierFields => t.probe.identifierFields

/-- The setting of a key is what is read from a value, or its default where there is none. -/
def Reads (s : Site) (l : Leaf) (v : Option Value) (t : Settings) : Prop :=
  match v with
  | some v => l.check s v = .ok (l.of t)
  | none => l.of t = l.of {}

/-- No setting is read from a mapping. -/
theorem check_map_ne_ok (s : Site) (l : Leaf) (entries : Entries) (a : l.Reading) :
    l.check s (.map entries) ≠ .ok a := by
  cases l <;> nofun

theorem Reads.noMap {s : Site} {l : Leaf} {v : Option Value} {t : Settings} (h : l.Reads s v t) :
    NoMap v := by
  rintro entries rfl
  exact l.check_map_ne_ok s entries _ h

/-- What is read for a key depends on the home directories only. -/
theorem check_congr {s s' : Site} (h : s'.home = s.home) (husers : s'.users = s.users) (l : Leaf) :
    l.check s' = l.check s := by
  have hdestination : Destination.check s' = Destination.check s := by
    funext v
    simp only [Destination.check, Destination.ofText, Site.expandHome, Site.homeOf, h, husers]
  have houtput : LogOutput.check s' = LogOutput.check s := by
    rw [LogOutput.check, LogOutput.check, hdestination]
  cases l with
  | outputs => exact congrArg checkList houtput
  | _ => rfl

/-- A value gives one setting. -/
theorem Reads.unique {s s' : Site} {l : Leaf} {v : Option Value} {t t' : Settings} (h' : l.Reads s' v t')
    (hhome : s'.home = s.home) (husers : s'.users = s.users) (h : l.Reads s v t) : l.of t' = l.of t := by
  cases v with
  | none => exact Eq.trans h' h.symm
  | some v =>
      have h' : l.check s' v = .ok (l.of t') := h'
      rw [check_congr hhome husers] at h'
      exact Except.ok.inj (h'.symm.trans h)

/-- A setting is read as a field of its section. -/
theorem reads_of_checkField {s : Site} {l : Leaf} {v : Value} {t : Settings}
    (h : checkField l.key (l.of {}) (l.check s) v = .ok (l.of t)) : l.Reads s (v.field? l.key) t := by
  rw [checkField_eq_ok] at h
  cases hf : v.field? l.key with
  | none => rwa [hf] at h
  | some f => rwa [hf] at h

/-- Where there is no section, its keys have their defaults; else they are read from it. -/
theorem reads_of_section {α : Type} {s : Site} {name inner : String} {default a : α}
    {check : Value → Checked α} {entries : Entries} {t : Settings}
    (h : checkField name default (checkSection inner check) (.map entries) = .ok a) {l : Leaf}
    (hname : l.sectionName = name) (hdefault : a = default → l.of t = l.of {})
    (hcheck : ∀ v, check v = .ok a → l.Reads s (v.field? l.key) t) : l.Reads s (setting? l entries) t := by
  rw [checkField_eq_ok, Value.field?] at h
  rw [setting?, hname]
  split at h
  · next v hv =>
    obtain ⟨es, hes, h⟩ := checkSection_eq_ok.mp h
    rw [hv, Option.bind_some, hes]
    exact hcheck _ h
  · next hnone =>
    rw [hnone]
    exact hdefault h

end Leaf

namespace LoggingSettings

theorem reads_of_check {s : Site} {entries : Entries} {t : Settings}
    (h : checkField "logging" {} (LoggingSettings.check s) (.map entries) = .ok t.logging) :
    Leaf.Reads s .level (setting? .level entries) t ∧
      Leaf.Reads s .outputs (setting? .outputs entries) t := by
  have hfields {v : Value} {a : LoggingSettings}
      (h : (Checked.both (checkField "level" .warning checkLevel v)
        (checkField "outputs" [{}] (checkList (LogOutput.check s)) v)).map (fun p => ⟨p.1, p.2⟩) = .ok a) :
      checkField "level" .warning checkLevel v = .ok a.level ∧
        checkField "outputs" [{}] (checkList (LogOutput.check s)) v = .ok a.outputs := by
    obtain ⟨p, hp, rfl⟩ := map_eq_ok.mp h
    exact Checked.both_eq_ok.mp hp
  refine ⟨Leaf.reads_of_section h rfl (fun h => ?_) fun v hv => ?_,
    Leaf.reads_of_section h rfl (fun h => ?_) fun v hv => ?_⟩
  · exact congrArg level h
  · exact Leaf.reads_of_checkField (hfields hv).1
  · exact congrArg outputs h
  · exact Leaf.reads_of_checkField (hfields hv).2

end LoggingSettings

namespace WorkspaceSettings

theorem reads_of_check (s : Site) {entries : Entries} {t : Settings}
    (h : checkField "workspace" {} WorkspaceSettings.check (.map entries) = .ok t.workspace) :
    Leaf.Reads s .sourceExtensions (setting? .sourceExtensions entries) t ∧
      Leaf.Reads s .excludedDirs (setting? .excludedDirs entries) t ∧
      Leaf.Reads s .encoding (setting? .encoding entries) t := by
  have hfields {v : Value} {a : WorkspaceSettings}
      (h : (Checked.both (checkField "source_extensions" [.plain ".cs"] checkExtensions v)
        (Checked.both (checkField "excluded_dirs" [.plain "bin", .plain "obj"] (checkList checkText) v)
          (checkField "encoding" (.plain defaultEncoding) checkText v))).map
            (fun p => ⟨p.1, p.2.1, p.2.2⟩) = .ok a) :
      checkField "source_extensions" [.plain ".cs"] checkExtensions v = .ok a.sourceExtensions ∧
        checkField "excluded_dirs" [.plain "bin", .plain "obj"] (checkList checkText) v = .ok a.excludedDirs ∧
        checkField "encoding" (.plain defaultEncoding) checkText v = .ok a.encoding := by
    obtain ⟨p, hp, rfl⟩ := map_eq_ok.mp h
    exact ⟨(Checked.both_eq_ok.mp hp).1, Checked.both_eq_ok.mp (Checked.both_eq_ok.mp hp).2⟩
  refine ⟨Leaf.reads_of_section h rfl (fun h => ?_) fun v hv => ?_,
    Leaf.reads_of_section h rfl (fun h => ?_) fun v hv => ?_,
    Leaf.reads_of_section h rfl (fun h => ?_) fun v hv => ?_⟩
  · exact congrArg sourceExtensions h
  · exact Leaf.reads_of_checkField (hfields hv).1
  · exact congrArg excludedDirs h
  · exact Leaf.reads_of_checkField (hfields hv).2.1
  · exact congrArg encoding h
  · exact Leaf.reads_of_checkField (hfields hv).2.2

end WorkspaceSettings

namespace ProbeSettings

theorem reads_of_check (s : Site) {entries : Entries} {t : Settings}
    (h : checkField "probe" {} ProbeSettings.check (.map entries) = .ok t.probe) :
    Leaf.Reads s .identifierFields (setting? .identifierFields entries) t := by
  refine Leaf.reads_of_section h rfl (fun h => congrArg identifierFields h) fun v hv => ?_
  obtain ⟨fields, hfields, heq⟩ := map_eq_ok.mp hv
  have hof : Leaf.of t .identifierFields = fields := congrArg identifierFields heq.symm
  exact Leaf.reads_of_checkField (hof ▸ hfields)

end ProbeSettings

namespace Settings

/-- **Each setting is read from what a mapping of sections holds for its key.** -/
theorem reads_of_checkSections {s : Site} {entries : Entries} {t : Settings}
    (h : checkSections s (.map entries) = .ok t) (l : Leaf) : l.Reads s (setting? l entries) t := by
  obtain ⟨p, hp, rfl⟩ := map_eq_ok.mp h
  obtain ⟨hlogging, hp⟩ := Checked.both_eq_ok.mp hp
  obtain ⟨hworkspace, hprobe⟩ := Checked.both_eq_ok.mp hp
  have hlogging := LoggingSettings.reads_of_check (t := ⟨p.1, p.2.1, p.2.2⟩) hlogging
  have hworkspace := WorkspaceSettings.reads_of_check s (t := ⟨p.1, p.2.1, p.2.2⟩) hworkspace
  have hprobe := ProbeSettings.reads_of_check s (t := ⟨p.1, p.2.1, p.2.2⟩) hprobe
  cases l with
  | level => exact hlogging.1
  | outputs => exact hlogging.2
  | sourceExtensions => exact hworkspace.1
  | excludedDirs => exact hworkspace.2.1
  | encoding => exact hworkspace.2.2
  | identifierFields => exact hprobe

end Settings

/-! ## Sources -/

/-- The mapping in a file is what some value by itself is opened to. -/
theorem Site.exists_unfolds {s : Site} {path : FilePath} {entries : Entries}
    (h : s.loadMapping path = .ok entries) : ∃ v, Value.Unfolds v entries := by
  rw [Site.loadMapping] at h
  split at h
  · cases h
    exact ⟨_, Value.unfolds_nil⟩
  · obtain ⟨bs, -, h⟩ := bind_eq_ok.mp h
    split at h
    · cases h
    · cases h
    · next v hv =>
      split at h
      · cases h
        exact ⟨_, Value.unfolds_nil⟩
      · split at h
        · next es hes =>
          cases h
          exact ⟨v, Yaml.contained_of_read hv, Yaml.tidy_of_read hv, Value.entries?_eq_some.mp hes⟩
        · cases h

namespace LoadRequest

theorem exists_unfolds {s : Site} {r : LoadRequest} {entries : Entries}
    (h : r.projectMapping s = .ok entries) : ∃ v, Value.Unfolds v entries := by
  rw [projectMapping] at h
  split at h
  · split at h
    · exact Site.exists_unfolds h
    · cases h
  · exact Site.exists_unfolds h

/-- A tidy layer with mappings for sections is a mapping of sections. -/
theorem sectioned_of_tidy {layer : Entries} (htidy : Tidy (.map layer))
    (hsections : ∀ s ∈ sections, ∀ v, Value.get? (.text s.1) layer = some v → ∃ es, v.opened = .map es) :
    Sectioned layer := by
  obtain ⟨hdistinct, hvalues⟩ := htidy
  refine ⟨hdistinct, fun s hs v hv => ?_⟩
  obtain ⟨es, hes⟩ := hsections s hs v hv
  have hopened : Tidy v.opened := (Value.tidyEntries_iff.mp hvalues _ (Value.mem_of_get?_text hv)).opened
  rw [hes] at hopened
  exact ⟨es, hes, hopened.1⟩

/-- The sources of a request: what the two files hold, with mappings for sections, what the caller asks
for, and an environment whose variables give single keys. -/
structure Layers (s : Site) (r : LoadRequest) (user project : Entries) : Prop where
  userFile : s.loadMapping (s.home.join userConfig) = .ok user
  userSections : ∀ t ∈ sections, ∀ v, Value.get? (.text t.1) user = some v → ∃ es, v.opened = .map es
  projectFile : r.projectMapping s = .ok project
  projectSections : ∀ t ∈ sections, ∀ v, Value.get? (.text t.1) project = some v → ∃ es, v.opened = .map es
  environment : r.environment.OnlyLeaves
  overrides : Sectioned r.overrides

/-- The value that the first source with one has for a key. -/
def chosen (r : LoadRequest) (user project : Entries) (l : Leaf) : Option Value :=
  (setting? l r.overrides).or <| (r.environment.leaf? l).or <| (setting? l project).or (setting? l user)

/-- Where no mapping stands at a key of all layers together, they hold for it what the first source with a
value has. -/
theorem setting?_layered {s : Site} {r : LoadRequest} {user project whole : Entries}
    (hr : r.Layers s user project) (h : r.layered s = .ok whole) {l : Leaf}
    (hmap : NoMap (setting? l whole)) :
    setting? l whole = r.chosen user project l := by
  obtain ⟨project', hproject, h⟩ := bind_eq_ok.mp h
  obtain ⟨user', huser, h⟩ := bind_eq_ok.mp h
  obtain ⟨files, hfiles, h⟩ := bind_eq_ok.mp h
  obtain ⟨environment, henvironment, h⟩ := bind_eq_ok.mp h
  obtain ⟨asked, hasked, hwhole⟩ := bind_eq_ok.mp h
  obtain rfl : project = project' := Except.ok.inj (hr.projectFile.symm.trans hproject)
  obtain rfl : user = user' := Except.ok.inj (hr.userFile.symm.trans huser)
  obtain ⟨_, hunfolds⟩ := Site.exists_unfolds huser
  obtain ⟨_, hunfoldsProject⟩ := exists_unfolds hproject
  have hsuser := sectioned_of_tidy hunfolds.tidy_map hr.userSections
  have hsproject := sectioned_of_tidy hunfoldsProject.tidy_map hr.projectSections
  obtain ⟨hsenvironment, hleaf⟩ := Environment.entries_spec hr.environment henvironment
  have hupper := Value.setting?_merge (hsuser.merge hsproject hfiles) (hsenvironment.merge hr.overrides hasked)
    hwhole hmap
  rw [hupper] at hmap ⊢
  have hasked := Value.setting?_merge hsenvironment hr.overrides hasked hmap.or_left
  rw [hasked, hleaf] at hmap ⊢
  rw [chosen, ← Option.or_assoc]
  cases hset : (setting? l r.overrides).or (r.environment.leaf? l) with
  | some v => rfl
  | none =>
      rw [hset, Option.none_or] at hmap
      rw [Option.none_or, Option.none_or, Value.setting?_merge hsuser hsproject hfiles hmap]

end LoadRequest

namespace Settings

/-- **Every setting comes from the first source that has a value for its key**, in the order of what the
caller asks for, environment, file of the project and file of the user, and has its default if none has
one. So nothing but that value decides it, whatever the sources have for other keys. -/
theorem load_precedence {s : Site} {r : LoadRequest} {user project : Entries} {t : Settings}
    (hr : r.Layers s user project) (h : load s r = .ok t) (l : Leaf) :
    l.Reads s (r.chosen user project l) t ∧
      ∀ (s' : Site) (r' : LoadRequest) (user' project' : Entries) (t' : Settings),
        r'.Layers s' user' project' → load s' r' = .ok t' → s'.home = s.home → s'.users = s.users →
        r'.chosen user' project' l = r.chosen user project l → l.of t' = l.of t := by
  have hreads {s : Site} {r : LoadRequest} {user project : Entries} {t : Settings}
      (hr : r.Layers s user project) (h : load s r = .ok t) : l.Reads s (r.chosen user project l) t := by
    rw [load_eq_loadOnce] at h
    obtain ⟨whole, hwhole, hcheck⟩ := checkSections_of_loadOnce h
    have hreads := reads_of_checkSections hcheck l
    rwa [LoadRequest.setting?_layered hr hwhole hreads.noMap] at hreads
  refine ⟨hreads hr h, fun s' r' user' project' t' hr' h' hhome husers hchosen => ?_⟩
  have hsame := hreads hr' h'
  rw [hchosen] at hsame
  exact hsame.unique hhome husers (hreads hr h)

/-- The settings of a user. -/
def layeredUser : String :=
  "logging: \x7blevel: ERROR\x7d\nworkspace: \x7bencoding: latin-1, excluded_dirs: [out]\x7d\n"

/-- The settings of a project that share one key with those of the user. -/
def layeredProject : String :=
  "workspace: \x7bencoding: cp1252, source_extensions: [CSX]\x7d\n"

/-- The files of both. -/
def layeredSite : Site where
  tree := .dir [
    ("home", .dir [(".config", .dir [("codeparser", .dir [("config.yaml",
      .file layeredUser.toUTF8.toList)])])]),
    ("w", .dir [(".codeparser", .dir [("config.yaml",
      .file layeredProject.toUTF8.toList)])])]
  here := ⟨1, ["w"]⟩
  home := ⟨1, ["home"]⟩

/-- A request in which a variable hides a key of the user, and the caller another one. -/
def layeredRequest : LoadRequest where
  environment := [("PATH", "/bin"), ("CodeParser__LOGGING__level", "DEBUG")]
  overrides := [(.text "workspace", .map [(.text "excluded_dirs", .list [.text "gen"])])]

/-- Sections that hold no mapping are found by a test. -/
theorem sections_of_all {x : Except Failure Entries} {entries : Entries} (hx : x = .ok entries)
    (hall : (x.toOption.all fun es => sections.all fun t =>
      (Value.get? (.text t.1) es).all fun v => v.opened.entries?.isSome) = true) :
    ∀ t ∈ sections, ∀ v, Value.get? (.text t.1) entries = some v → ∃ es, v.opened = .map es := by
  intro t ht v hv
  rw [hx] at hall
  have hsection := List.all_eq_true.mp hall t ht
  rw [hv, Option.all_some] at hsection
  cases hopened : v.opened with
  | map es => exact ⟨es, rfl⟩
  | _ => rw [hopened] at hsection; cases hsection

/-- The level comes from the variable, the excluded directories from the caller, the encoding and the
extensions from the project, and the rest is default. -/
theorem load_precedence_layeredSite :
    ∃ user project, layeredRequest.Layers layeredSite user project ∧
      load layeredSite layeredRequest =
        .ok ⟨⟨.debug, [{}]⟩, ⟨[".csx"], ["gen"], "cp1252"⟩, ⟨defaultFields⟩⟩ ∧
      ∀ l : Leaf, l.Reads layeredSite (layeredRequest.chosen user project l)
        ⟨⟨.debug, [{}]⟩, ⟨[".csx"], ["gen"], "cp1252"⟩, ⟨defaultFields⟩⟩ := by
  obtain ⟨user, huser⟩ := Option.isSome_iff_exists.mp
    (show (layeredSite.loadMapping (layeredSite.home.join userConfig)).toOption.isSome by decide +kernel)
  obtain ⟨project, hproject⟩ := Option.isSome_iff_exists.mp
    (show (layeredRequest.projectMapping layeredSite).toOption.isSome by decide +kernel)
  have hload : load layeredSite layeredRequest =
      .ok ⟨⟨.debug, [{}]⟩, ⟨[".csx"], ["gen"], "cp1252"⟩, ⟨defaultFields⟩⟩ :=
    eq_ok_of_toOption (by decide +kernel)
  have hlayers : layeredRequest.Layers layeredSite user project :=
    { userFile := eq_ok_of_toOption huser
      userSections := sections_of_all (eq_ok_of_toOption huser) (by decide +kernel)
      projectFile := eq_ok_of_toOption hproject
      projectSections := sections_of_all (eq_ok_of_toOption hproject) (by decide +kernel)
      environment := by
        intro e he hlead
        simp only [layeredRequest, List.mem_cons, List.not_mem_nil, or_false] at he
        rcases he with rfl | rfl
        · exact absurd hlead (by decide +kernel)
        · exact ⟨.level, by decide +kernel⟩
      overrides := by
        refine ⟨by simp [Distinct, layeredRequest], fun t ht v hv => ?_⟩
        simp only [layeredRequest, Value.get?] at hv
        split at hv
        · obtain rfl := Option.some.inj hv
          exact ⟨_, rfl, by simp [Distinct]⟩
        · cases hv }
  exact ⟨user, project, hlayers, hload, fun l => (load_precedence hlayers hload l).1⟩

end Settings

end SolutionSurvey
