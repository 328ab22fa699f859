import SolutionSurvey.Journal.Journal

/-!
# Setting up the journal

The outputs of a journal are put in use one after the other, up to the first one whose file cannot be
opened. The pointer for readers of errors is set before the file is opened: it is the first file among the
outputs that were asked for, and so it is the first file among the outputs in use exactly unless that very
file is the one that cannot be opened.

## Main definitions

* `LogOutput.file?`, `LoggingSettings.firstFile?`, `Journal.firstFile?` — the files of outputs.
* `Outlets.openOutput` — opening the file of an output.
* `LoggingSettings.FirstFileFails` — the first file that was asked for cannot be opened.
* `SetUp`, `Journal.setUps` — a call of the set-up, and the calls of a run.
* `Journal.leaves_setUps` — what each call of a run leaves.
-/

namespace SolutionSurvey

/-- The file of an output, if it writes to one. -/
def LogOutput.file? (out : LogOutput) : Option WordedPath :=
  out.destination.file?

/-- The first file among the outputs that are asked for. -/
def LoggingSettings.firstFile? (settings : LoggingSettings) : Option WordedPath :=
  settings.outputs.findSome? LogOutput.file?

/-- The first file among the outputs in use. -/
def Journal.firstFile? (j : Journal) : Option WordedPath :=
  j.handlers.findSome? fun h => h.destination.file?

/-- The outlets after the file of an output was opened, if it has one. -/
def Outlets.openOutput (o : Outlets) (out : LogOutput) : Except Outlets.Unopened Outlets :=
  match out.file? with
  | none => .ok o
  | some p => o.openFile p

/-- The first file that is asked for cannot be opened. -/
def LoggingSettings.FirstFileFails (settings : LoggingSettings) (o : Outlets) : Prop :=
  ∃ p f, settings.firstFile? = some p ∧ o.openFile p = .error f

/-! ## Opening files -/

namespace Outlets

variable {o reached : Outlets} {outs : List LogOutput}

theorem openOutput_of_file {out : LogOutput} {p : WordedPath} (h : out.file? = some p) :
    o.openOutput out = o.openFile p := by
  rw [openOutput, h]

/-- An output that cannot be opened is a file. -/
theorem file_of_openOutput_error {out : LogOutput} {e : Unopened} (h : o.openOutput out = .error e) :
    ∃ p, out.file? = some p ∧ o.openFile p = .error e := by
  cases hfile : out.file? with
  | none => rw [openOutput, hfile] at h; cases h
  | some p => exact ⟨p, rfl, openOutput_of_file hfile ▸ h⟩

/-- Streams are open already. -/
theorem open_of_no_file (h : outs.findSome? LogOutput.file? = none) :
    outs.foldlM openOutput o = .ok o := by
  induction outs with
  | nil => rfl
  | cons out rest ih =>
      rw [List.findSome?_cons] at h
      cases hfile : out.file? with
      | some p => rw [hfile] at h; cases h
      | none =>
          rw [hfile] at h
          rw [List.foldlM_cons, openOutput, hfile]
          exact ih h

/-- If all of some outputs are open, the first file among them could be opened at the beginning. -/
theorem exists_openFile (h : outs.foldlM openOutput o = .ok reached) {p : WordedPath}
    (hfirst : outs.findSome? LogOutput.file? = some p) : ∃ o', o.openFile p = .ok o' := by
  induction outs with
  | nil => cases hfirst
  | cons out rest ih =>
      rw [List.foldlM_cons] at h
      rw [List.findSome?_cons] at hfirst
      cases hfile : out.file? with
      | none =>
          rw [hfile] at hfirst
          rw [openOutput, hfile] at h
          exact ih h hfirst
      | some q =>
          rw [hfile] at hfirst
          cases hfirst
          rw [openOutput_of_file hfile] at h
          cases hopen : o.openFile p with
          | ok o' => exact ⟨o', rfl⟩
          | error f => rw [hopen] at h; cases h

end Outlets

/-! ## One call -/

namespace Journal

variable {level : Level} {j : Journal} {o : Outlets}

/-- The journal with some outputs put in use, of those that were tried. -/
def attached (level : Level) (j : Journal) (used tried : List LogOutput) : Journal :=
  { j with
    handlers := j.handlers ++ used.map (handlerOf level)
    pointer := j.pointer <|> tried.findSome? LogOutput.file? }

theorem attached_nil : attached level j [] [] = j := by
  cases j with
  | mk level handlers pointer => cases pointer <;> simp [attached]

theorem attached_attached (used tried used' tried' : List LogOutput) :
    attached level (attached level j used tried) used' tried' =
      attached level j (used ++ used') (tried ++ tried') := by
  simp only [attached, List.map_append, List.append_assoc, List.findSome?_append]
  cases j.pointer <;> cases tried.findSome? LogOutput.file? <;> rfl

/-- One output is put in use exactly if its file can be opened, and its file is pointed to in any case. -/
theorem attach_eq (out : LogOutput) :
    attach level j o out =
      match o.openOutput out with
      | .ok o' => (.ok (), attached level j [out] [out], o')
      | .error e => (.error e.failure, attached level j [] [out], e.left) := by
  have hone : [out].findSome? LogOutput.file? = out.destination.file? := by
    rw [List.findSome?_cons, LogOutput.file?]
    cases out.destination.file? <;> rfl
  rw [attach, Outlets.openOutput, LogOutput.file?]
  simp only [attached, hone, List.map_cons, List.map_nil, List.append_nil]
  cases hfile : out.destination.file? with
  | none => rfl
  | some p => cases o.openFile p <;> rfl

/-- **What some outputs leave**: either all of them are in use, or those before the first one that cannot
be opened. -/
theorem attachAll_cases (level : Level) (outs : List LogOutput) (j : Journal) (o : Outlets) :
    (∃ reached, outs.foldlM Outlets.openOutput o = .ok reached ∧
      attachAll level j o outs = (.ok (), attached level j outs outs, reached)) ∨
    ∃ before out after reached e, outs = before ++ out :: after ∧
      before.foldlM Outlets.openOutput o = .ok reached ∧ reached.openOutput out = .error e ∧
      attachAll level j o outs = (.error e.failure, attached level j before (before ++ [out]), e.left) := by
  induction outs generalizing j o with
  | nil => exact .inl ⟨o, rfl, by rw [attached_nil, attachAll]⟩
  | cons out rest ih =>
      rw [attachAll, attach_eq]
      cases hopen : o.openOutput out with
      | error e => exact .inr ⟨[], out, rest, o, e, rfl, rfl, hopen, rfl⟩
      | ok o' =>
          have hstep (before : List LogOutput) :
              (out :: before).foldlM Outlets.openOutput o = before.foldlM Outlets.openOutput o' := by
            rw [List.foldlM_cons, hopen]
            rfl
          obtain ⟨reached, hall, heq⟩ | ⟨before, failed, after, reached, e, rfl, hbefore, hfailed, heq⟩ :=
            ih (attached level j [out] [out]) o'
          · exact .inl ⟨reached, (hstep rest).trans hall, heq.trans (by rw [attached_attached]; rfl)⟩
          · exact .inr ⟨out :: before, failed, after, reached, e, rfl, (hstep before).trans hbefore,
              hfailed, heq.trans (by rw [attached_attached]; rfl)⟩

theorem firstFile?_attached_cleared (used tried : List LogOutput) :
    (attached level (j.cleared level) used tried).firstFile? = used.findSome? LogOutput.file? := by
  simp only [firstFile?, attached, cleared, List.nil_append, List.findSome?_map]
  rfl

theorem pointer_attached_cleared (used tried : List LogOutput) :
    (attached level (j.cleared level) used tried).pointer = tried.findSome? LogOutput.file? :=
  rfl

end Journal

/-! ## Runs -/

/-- A call of the set-up: what it was given, the outlets it found, its answer, and what it left. -/
structure SetUp where
  settings : LoggingSettings
  found : Outlets
  answer : Except Failure Unit
  journal : Journal
  left : Outlets

namespace Journal

/-- The call of the set-up for a journal in use. -/
def setUp (settings : LoggingSettings) (j : Journal) (o : Outlets) : SetUp :=
  let (answer, journal, left) := configure settings o j
  { settings, found := o, answer, journal, left }

/-- The calls of the set-up with some settings, each for what the one before left. -/
def setUps : List LoggingSettings → Journal → Outlets → List SetUp
  | [], _, _ => []
  | settings :: rest, j, o =>
    let call := setUp settings j o
    call :: setUps rest call.journal call.left

/-- What a call of the set-up leaves. The pointer is the first file that was asked for; it is the first
file in use exactly unless that file cannot be opened. A good call puts all outputs in use, and a bad one
those before the one that cannot be opened. -/
structure Leaves (call : SetUp) : Prop where
  pointer : call.journal.pointer = call.settings.firstFile?
  pointer_iff : call.journal.pointer = call.journal.firstFile? ↔ ¬ call.settings.FirstFileFails call.found
  handlers : call.answer = .ok () →
    call.journal.handlers = call.settings.outputs.map (handlerOf call.settings.level)
  handlers_upTo : ∀ f, call.answer = .error f →
    ∃ before out after reached, call.settings.outputs = before ++ out :: after ∧
      before.foldlM Outlets.openOutput call.found = .ok reached ∧
      reached.openOutput out = .error ⟨f, call.left⟩ ∧
      call.journal.handlers = before.map (handlerOf call.settings.level)

/-- A good call of the set-up leaves the pointer at the first file in use. -/
theorem leaves_of_ok {settings : LoggingSettings} {j : Journal} {o reached : Outlets}
    (hall : settings.outputs.foldlM Outlets.openOutput o = .ok reached) :
    Leaves ⟨settings, o, .ok (), attached settings.level (j.cleared settings.level) settings.outputs
      settings.outputs, reached⟩ where
  pointer := pointer_attached_cleared _ _
  pointer_iff := by
    refine iff_of_true ?_ ?_
    · rw [firstFile?_attached_cleared, pointer_attached_cleared]
    · rintro ⟨p, f, hfirst, hfails⟩
      obtain ⟨o', hopen⟩ := Outlets.exists_openFile hall hfirst
      rw [hopen] at hfails
      cases hfails
  handlers _ := rfl
  handlers_upTo _ hanswer := nomatch hanswer

/-- A bad call leaves the pointer at the file it failed at if no file is in use. -/
theorem leaves_of_error {settings : LoggingSettings} {j : Journal} {o reached : Outlets}
    {before after : List LogOutput} {out : LogOutput} {e : Outlets.Unopened}
    (houts : settings.outputs = before ++ out :: after)
    (hbefore : before.foldlM Outlets.openOutput o = .ok reached) (hout : reached.openOutput out = .error e) :
    Leaves ⟨settings, o, .error e.failure, attached settings.level (j.cleared settings.level) before
      (before ++ [out]), e.left⟩ := by
  obtain ⟨p, hfile, hopen⟩ := Outlets.file_of_openOutput_error hout
  have hasked : settings.firstFile? = (before.findSome? LogOutput.file?).or (some p) := by
    rw [LoggingSettings.firstFile?, houts, List.findSome?_append, List.findSome?_cons, hfile]
  have htried : (before ++ [out]).findSome? LogOutput.file? =
      (before.findSome? LogOutput.file?).or (some p) := by
    rw [List.findSome?_append, List.findSome?_cons, hfile]
  refine ⟨?_, ?_, nofun, fun g hg => ?_⟩
  · rw [pointer_attached_cleared, hasked, htried]
  · rw [pointer_attached_cleared, firstFile?_attached_cleared, htried, LoggingSettings.FirstFileFails, hasked]
    cases hfirst : before.findSome? LogOutput.file? with
    | none =>
        -- only streams are in use, and they leave the outlets as they were
        rw [Outlets.open_of_no_file hfirst] at hbefore
        cases hbefore
        exact iff_of_false nofun fun hnot => hnot ⟨p, e, rfl, hopen⟩
    | some q =>
        refine iff_of_true rfl ?_
        rintro ⟨q', f', heq, hfails⟩
        cases heq
        obtain ⟨o', hopened⟩ := Outlets.exists_openFile hbefore hfirst
        rw [hopened] at hfails
        cases hfails
  · cases hg
    exact ⟨before, out, after, reached, houts, hbefore, hout, rfl⟩

theorem leaves_setUp (settings : LoggingSettings) (j : Journal) (o : Outlets) :
    Leaves (setUp settings j o) := by
  rw [setUp, configure]
  obtain ⟨reached, hall, heq⟩ | ⟨before, out, after, reached, e, houts, hbefore, hout, heq⟩ :=
    attachAll_cases settings.level settings.outputs (j.cleared settings.level) o
  · rw [heq]
    exact leaves_of_ok hall
  · rw [heq]
    exact leaves_of_error houts hbefore hout

theorem settings_setUp (settings : LoggingSettings) (j : Journal) (o : Outlets) :
    (setUp settings j o).settings = settings :=
  rfl

/-- **What each call of a run of set-ups leaves**, whatever the calls before it were and whether they were
good. -/
theorem leaves_setUps (run : List LoggingSettings) (j : Journal) (o : Outlets) :
    (setUps run j o).map SetUp.settings = run ∧ ∀ call ∈ setUps run j o, Leaves call := by
  induction run generalizing j o with
  | nil => exact ⟨rfl, fun _ hcall => absurd hcall List.not_mem_nil⟩
  | cons settings rest ih =>
      obtain ⟨hsettings, hrest⟩ := ih (setUp settings j o).journal (setUp settings j o).left
      rw [setUps, List.map_cons, List.forall_mem_cons, settings_setUp, hsettings]
      exact ⟨rfl, leaves_setUp settings j o, hrest⟩

/-! ## A file in the place of a directory -/

/-- A site where a file has the name of the directory for notes. -/
def blockedSite : Site where
  tree := .dir [("w", .dir [("logs", .file [])])]
  here := ⟨1, ["w"]⟩
  home := ⟨1, ["w"]⟩

/-- Notes to a file in that directory, and to a file beside it. -/
def blockedSettings : LoggingSettings where
  outputs := [{ destination := .stderr }, { destination := .file ⟨1, ["w", "logs", "j.log"]⟩ },
    { destination := .file ⟨1, ["w", "j.log"]⟩ }]

/-- The same without the file in that directory. -/
def openSettings : LoggingSettings where
  outputs := [{ destination := .stderr }, { destination := .file ⟨1, ["w", "j.log"]⟩ }]

/-- A good call and then a bad one there. -/
def blockedRun : List SetUp :=
  setUps [openSettings, blockedSettings] {} { site := blockedSite }

/-- The first call leaves the pointer at a file in use, the second one does not. -/
theorem leaves_setUps_blockedRun :
    blockedRun.map SetUp.settings = [openSettings, blockedSettings] ∧ (∀ call ∈ blockedRun, Leaves call) ∧
      blockedRun.map (fun call => decide (call.journal.pointer = call.journal.firstFile?)) = [true, false] := by
  obtain ⟨hsettings, hleaves⟩ := leaves_setUps [openSettings, blockedSettings] {} { site := blockedSite }
  exact ⟨hsettings, hleaves, by decide +kernel⟩

/-- Not every call leaves the pointer at the first file in use: after a bad call readers are sent to a file
that does not exist, though nothing but a stream is in use. -/
theorem not_pointer_firstFile :
    ¬ ∀ (run : List LoggingSettings) (j : Journal) (o : Outlets), ∀ call ∈ setUps run j o,
      call.journal.pointer = call.journal.firstFile? := by
  intro hall
  have hlast := hall [blockedSettings] {} { site := blockedSite } _ List.mem_cons_self
  exact absurd hlast (by decide +kernel)

end Journal

end SolutionSurvey
