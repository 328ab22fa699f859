import SolutionSurvey.Proofs.Command.Limit
import SolutionSurvey.Proofs.Journal.Setup
import SolutionSurvey.Proofs.Solution.Fault

/-!
# How commands break off

A command ends well, or with a sentence for its user, or it breaks off with a failure that nobody expected.
Which failures these are is told here, for each of the first steps that all commands share and for what each
command does after them. Steps that go on from a good outcome break off where the first of them does.

## Main definitions

* `Session.Crashes` — a computation breaks off with a failure.
* `Session.Explains` — the sentences of a computation for its user tell of failures that were expected.
* `Session.crashes_openWorkspace_bind` — how the first steps of commands break off.
* `Session.SourceFails`, `Session.SourceBreaks` — a source fails, and breaks a listing off.
* `Session.crashes_packages`, `Session.not_crashes_order`, `Session.crashes_methods` — the commands.
-/

namespace SolutionSurvey

namespace Session

variable {α β : Type} {d d' : Desk} {f : Failure}

/-! ## Steps that cannot fail -/

/-- A computation has a good outcome at every desk. -/
def Completes (x : Session α) : Prop :=
  ∀ d, ∃ a d', x.runOn d = (.ok a, d')

theorem completes_pure (a : α) : (pure a : Session α).Completes :=
  fun d => ⟨a, d, rfl⟩

theorem completes_site : site.Completes :=
  fun d => ⟨d.outlets.site, d, runOn_site d⟩

theorem completes_print (line : String) : (print line).Completes :=
  fun d => ⟨(), d.print line, runOn_print line d⟩

theorem completes_note (events : List Event) : (note events).Completes :=
  fun d => ⟨(), d.note events, runOn_note events d⟩

theorem completes_forM {act : β → Session Unit} (h : ∀ b, (act b).Completes) (l : List β) :
    (l.forM act).Completes := by
  induction l with
  | nil => exact completes_pure ()
  | cons b rest ih =>
      intro d
      obtain ⟨⟨⟩, d', hrun⟩ := h b d
      obtain ⟨a, d'', hrest⟩ := ih d'
      exact ⟨a, d'', (runOn_bind_of_ok hrun _).trans hrest⟩

/-! ## Breaking off -/

/-- A computation breaks off at a desk with a failure that nobody expected. -/
def Crashes (x : Session α) (d : Desk) (f : Failure) : Prop :=
  (x.runOn d).1 = .error (.crashed f)

theorem Completes.not_crashes {x : Session α} (h : x.Completes) : ¬ x.Crashes d f := by
  obtain ⟨a, d', hrun⟩ := h d
  intro hcrash
  rw [Crashes, hrun] at hcrash
  cases hcrash

/-- Of two steps the first one breaks off, or the second one after a good outcome of the first. -/
theorem crashes_bind {x : Session α} {k : α → Session β} :
    (x >>= k).Crashes d f ↔
      x.Crashes d f ∨ ∃ a d', x.runOn d = (.ok a, d') ∧ (k a).Crashes d' f := by
  rw [Crashes, Crashes, runOn_bind]
  rcases x.runOn d with ⟨halt | a, d'⟩
  · simp
  · simp [Crashes]

theorem crashes_bind_of_ok {x : Session α} {a : α} (h : x.runOn d = (.ok a, d')) (k : α → Session β) :
    (x >>= k).Crashes d f ↔ (k a).Crashes d' f := by
  rw [Crashes, runOn_bind_of_ok h, Crashes]

theorem crashes_congr {x y : Session α} (h : x.runOn d = y.runOn d') : x.Crashes d f ↔ y.Crashes d' f := by
  rw [Crashes, h, Crashes]

theorem runOn_fail (f : Failure) (d : Desk) :
    (fail f : Session α).runOn d =
      (.error (.refused (withPointer d.journal.pointer f.message)), d.note [.commandFailed f]) :=
  rfl

theorem runOn_orFail_expected {expected : Failure → Bool} {e : Failure} (h : expected e = true) (d : Desk) :
    (orFail expected (.error e) : Session α).runOn d =
      (.error (.refused (withPointer d.journal.pointer e.message)), d.note [.commandFailed e]) := by
  rw [orFail, if_pos h]
  exact runOn_fail e d

theorem runOn_orFail_unexpected {expected : Failure → Bool} {e : Failure} (h : expected e = false) (d : Desk) :
    (orFail expected (.error e) : Session α).runOn d = (.error (.crashed e), d) := by
  rw [orFail, h, if_neg Bool.false_ne_true]
  rfl

/-- A failure breaks a computation off exactly if it was not expected. -/
theorem crashes_orFail {expected : Failure → Bool} {r : Except Failure α} :
    (orFail expected r).Crashes d f ↔ r = .error f ∧ expected f = false := by
  cases r with
  | ok a => exact iff_of_false (completes_pure a).not_crashes fun h => nomatch h.1
  | error e =>
      cases he : expected e with
      | true =>
          rw [Crashes, runOn_orFail_expected he]
          refine iff_of_false (fun h => nomatch h) ?_
          rintro ⟨hsame, hf⟩
          cases hsame
          rw [he] at hf
          cases hf
      | false =>
          rw [Crashes, runOn_orFail_unexpected he]
          constructor
          · intro h
            cases h
            exact ⟨rfl, he⟩
          · rintro ⟨hsame, -⟩
            cases hsame
            rfl

/-! ## Sentences -/

/-- Each sentence of a computation for its user tells of a failure that was expected and noted. -/
def Explains (x : Session α) : Prop :=
  ∀ d sentence d', x.runOn d = (.error (.refused sentence), d') →
    ∃ (f : Failure) (d₀ : Desk), f.isReportOrFile = true ∧
      (fail f : Session Unit).runOn d₀ = (.error (.refused sentence), d')

theorem Completes.explains {x : Session α} (h : x.Completes) : x.Explains := by
  intro d sentence d' hrun
  obtain ⟨a, d'', hgood⟩ := h d
  rw [hgood] at hrun
  cases hrun

theorem Explains.bind {x : Session α} {k : α → Session β} (h : x.Explains) (h' : ∀ a, (k a).Explains) :
    (x >>= k).Explains := by
  intro d sentence d' hrun
  rw [runOn_bind] at hrun
  cases hx : x.runOn d with
  | mk r d₁ =>
      rw [hx] at hrun
      cases r with
      | error halt =>
          cases hrun
          exact h d sentence d' hx
      | ok a => exact h' a d₁ sentence d' hrun

theorem explains_orFail {expected : Failure → Bool} (h : ∀ f, expected f = true → f.isReportOrFile = true)
    (r : Except Failure α) : (orFail expected r).Explains := by
  cases r with
  | ok a => exact (completes_pure a).explains
  | error e =>
      intro d sentence d' hrun
      cases he : expected e with
      | true =>
          rw [runOn_orFail_expected he] at hrun
          cases hrun
          exact ⟨e, d, h e he, rfl⟩
      | false =>
          rw [runOn_orFail_unexpected he] at hrun
          cases hrun

theorem explains_noted {expected : Failure → Bool} (h : ∀ f, expected f = true → f.isReportOrFile = true)
    (work : Noted α) : (noted expected work).Explains :=
  (completes_note work.events).explains.bind fun _ => explains_orFail h _

/-! ## The first steps -/

variable {environment : Environment} {general : General} {path file : FilePath} {settings : Settings}
  {sol : Solution}

/-- Setting up the journal for a command. -/
def journalSetUp (general : General) (settings : Settings) (d : Desk) : SetUp :=
  Journal.setUp (journalSettings general settings) d.journal d.outlets

/-- A desk after the journal was set up. -/
def prepared (general : General) (settings : Settings) (d : Desk) : Desk :=
  { d with
    outlets := (journalSetUp general settings d).left
    journal := (journalSetUp general settings d).journal }

/-- The settings for a solution file can be read, and the journal can be set up. -/
structure Prepares (environment : Environment) (general : General) (d : Desk) (path file : FilePath)
    (settings : Settings) : Prop where
  located : Solution.locate d.outlets.site path = .ok file
  loaded : Settings.load d.outlets.site (settingsRequest environment general file) = .ok settings
  ready : (journalSetUp general settings d).answer = .ok ()

theorem runOn_configure (general : General) (settings : Settings) (d : Desk) :
    (configure (journalSettings general settings)).runOn d =
      (orFail (fun _ => false) (journalSetUp general settings d).answer).runOn (prepared general settings d) :=
  rfl

/-! ### Steps one after the other -/

theorem crashes_bind_site {k : Site → Session α} :
    (site >>= k).Crashes d f ↔ (k d.outlets.site).Crashes d f :=
  crashes_bind_of_ok (runOn_site d) k

theorem crashes_bind_orFail {expected : Failure → Bool} {r : Except Failure α} {k : α → Session β} :
    (orFail expected r >>= k).Crashes d f ↔
      (r = .error f ∧ expected f = false) ∨ ∃ a, r = .ok a ∧ (k a).Crashes d f := by
  rw [crashes_bind, crashes_orFail]
  cases r with
  | ok a => simp [runOn_orFail_ok]
  | error e =>
      refine or_congr_right (iff_of_false ?_ fun ⟨_, h, _⟩ => nomatch h)
      rintro ⟨a, d', hrun, -⟩
      cases he : expected e with
      | true => rw [runOn_orFail_expected he] at hrun; cases hrun
      | false => rw [runOn_orFail_unexpected he] at hrun; cases hrun

theorem crashes_bind_noted {expected : Failure → Bool} {work : Noted α} {k : α → Session β} :
    (noted expected work >>= k).Crashes d f ↔
      (work.outcome = .error f ∧ expected f = false) ∨
        ∃ a, work.outcome = .ok a ∧ (k a).Crashes (d.note work.events) f := by
  rw [noted, bind_assoc, crashes_bind_of_ok (runOn_note work.events d), crashes_bind_orFail]

theorem crashes_bind_configure {k : Unit → Session α} :
    (configure (journalSettings general settings) >>= k).Crashes d f ↔
      (journalSetUp general settings d).answer = .error f ∨
        (journalSetUp general settings d).answer = .ok () ∧ (k ()).Crashes (prepared general settings d) f := by
  have hsame : (configure (journalSettings general settings) >>= k).Crashes d f ↔
      (orFail (fun _ => false) (journalSetUp general settings d).answer >>= k).Crashes
        (prepared general settings d) f := by
    exact crashes_congr (by rw [runOn_bind, runOn_bind, runOn_configure])
  rw [hsame, crashes_bind_orFail]
  simp only [and_true]
  exact or_congr_right ⟨fun ⟨_, h⟩ => h, fun h => ⟨(), h⟩⟩

/-! ### Opening the solution -/

/-- The solution that is opened after the journal was set up, with the events noted on the way. -/
def opening (general : General) (file : FilePath) (settings : Settings) (d : Desk) : Noted Solution :=
  Solution.load (prepared general settings d).outlets.site settings.workspace.rule file

/-- A desk after a solution was opened. -/
def opened (general : General) (file : FilePath) (settings : Settings) (d : Desk) : Desk :=
  (prepared general settings d).note (opening general file settings d).events

theorem crashes_openFile_bind {k : Settings × Solution → Session α} :
    (openFile environment general file >>= k).Crashes d f ↔
      (Settings.load d.outlets.site (settingsRequest environment general file) = .error f ∧ f.isReport = false) ∨
      ∃ settings, Settings.load d.outlets.site (settingsRequest environment general file) = .ok settings ∧
        ((journalSetUp general settings d).answer = .error f ∨
          (journalSetUp general settings d).answer = .ok () ∧
            ((opening general file settings d).outcome = .error f ∧ f.isReport = false ∨
              ∃ sol, (opening general file settings d).outcome = .ok sol ∧
                (k (settings, sol)).Crashes (opened general file settings d) f)) := by
  simp only [openFile, bind_assoc, pure_bind, crashes_bind_site, crashes_bind_orFail, crashes_bind_configure,
    crashes_bind_noted]
  exact Iff.rfl

theorem crashes_openWorkspace_bind (hpath : FilePath.holdsNull path.toText = false)
    {k : Settings × Solution → Session α} :
    (openWorkspace environment general path >>= k).Crashes d f ↔
      ∃ file, Solution.locate d.outlets.site path = .ok file ∧
        (openFile environment general file >>= k).Crashes d f := by
  rw [openWorkspace, bind_assoc, crashes_bind_site]
  obtain ⟨file, hfile⟩ | ⟨sentence, hsentence⟩ := Solution.locate_cases (s := d.outlets.site) hpath
  · simp only [hfile, Except.ok.injEq, exists_eq_left']
  · simp only [hsentence, reduceCtorEq, false_and, exists_false, iff_false]
    exact fun h => nomatch h

/-! ## What each command does -/

theorem crashes_packages {json : Bool} :
    (packages sol json).Crashes d f ↔
      (sol.distinctPackages d.outlets.site).outcome = .error f ∧ f.isReportOrFile = false := by
  rw [packages, crashes_bind_site, crashes_bind_noted]
  refine or_iff_left ?_
  rintro ⟨found, -, hcrash⟩
  refine Completes.not_crashes ?_ hcrash
  split
  · exact completes_print _
  · split
    · exact completes_print _
    · exact completes_forM (fun p => completes_print _) found

/-- The order of the projects is printed, or the report of a circle is expected. -/
theorem not_crashes_order : ¬ (order sol).Crashes d f := by
  rw [order, crashes_bind_noted]
  rintro (⟨herror, hcycle⟩ | ⟨ids, -, hcrash⟩)
  · rw [Solution.dependencyOrder] at herror
    split at herror
    · cases herror
    · cases herror
      cases hcycle
  · exact (completes_forM (fun p => completes_print _) ids.zipIdx).not_crashes hcrash

/-! ### Listing declarations -/

variable {l : Listing} {encoding : Wording} {limit : Option Int} {count : ℕ}

/-- The desk after some sources were listed without a limit, if all of them can be read and all of their
declarations have lines. -/
def afterListing (l : Listing) (encoding : Wording) : Desk → List (Project × FilePath) → Option Desk
  | d, [] => some d
  | d, source :: rest =>
    match (d.opening source).outlets.site.readSource encoding source.2 with
    | .error _ => none
    | .ok text =>
      match (rollIn l source.2 text).outcome with
      | .ok () => afterListing l encoding (d.listedWith source (rollIn l source.2 text).lines) rest
      | .error _ => none

/-- Why a source fails that is opened to look for declarations, and how many of these are looked at. -/
inductive SourceFails (l : Listing) (encoding : Wording) (d : Desk) (source : Project × FilePath)
    (f : Failure) : ℕ → Prop where
  /-- Its text cannot be read, or cannot be written for the parser. -/
  | unread (fails : (d.opening source).outlets.site.readSource encoding source.2 = .error f) :
    SourceFails l encoding d source f 0
  /-- A declaration has no line. -/
  | unnamed {text : String} (read : (d.opening source).outlets.site.readSource encoding source.2 = .ok text)
    (fails : (rollIn l source.2 text).outcome = .error f) :
    SourceFails l encoding d source f (rollIn l source.2 text).count

/-- A source that comes after `count` declarations fails before the one that goes beyond the limit is found, and
neither a report nor a fault of the file tree tells why. -/
def SourceBreaks (l : Listing) (encoding : Wording) (limit : Option Int) (d : Desk) (count : ℕ)
    (sources : List (Project × FilePath)) (f : Failure) : Prop :=
  ∃ before source after d' more, sources = before ++ source :: after ∧
    afterListing l encoding d before = some d' ∧ SourceFails l encoding d' source f more ∧
    Fits limit count ((listed l encoding d before).count + more) ∧ f.isReportOrFile = false

section Cons

variable {source : Project × FilePath} {rest : List (Project × FilePath)}

/-- A listing breaks off only if there is room for the declarations of its first source. -/
theorem fits_of_crashes_printFiles {text : String}
    (h : (d.opening source).outlets.site.readSource encoding source.2 = .ok text)
    (hcrash : (printFiles (l.upTo limit) encoding count (source :: rest)).Crashes d f) :
    Fits limit count (rollIn l source.2 text).count := by
  cases limit with
  | none => exact fits_none _ _
  | some most =>
      by_contra hfull
      rw [Crashes, runOn_printFiles_of_not_fits h hfull] at hcrash
      cases hcrash

/-- The first source breaks a listing off, or one after it, if there is room for its declarations. -/
theorem crashes_printFiles_cons :
    (printFiles (l.upTo limit) encoding count (source :: rest)).Crashes d f ↔
      (∃ more, SourceFails l encoding d source f more ∧ Fits limit count more ∧ f.isReportOrFile = false) ∨
      ∃ text, (d.opening source).outlets.site.readSource encoding source.2 = .ok text ∧
        (rollIn l source.2 text).outcome = .ok () ∧ Fits limit count (rollIn l source.2 text).lines.length ∧
        (printFiles (l.upTo limit) encoding (count + (rollIn l source.2 text).lines.length) rest).Crashes
          (d.listedWith source (rollIn l source.2 text).lines) f := by
  cases hread : (d.opening source).outlets.site.readSource encoding source.2 with
  | error e =>
      obtain ⟨d₀, -, hrun⟩ := runOn_printFiles_of_error hread l rest
      rw [crashes_congr (hrun limit count), crashes_orFail]
      constructor
      · rintro ⟨fails, unexpected⟩
        cases fails
        exact .inl ⟨0, .unread hread, fun _ _ => .inl rfl, unexpected⟩
      · rintro (⟨more, hfails, -, unexpected⟩ | ⟨text, read, -⟩)
        · cases hfails with
          | unread fails =>
              cases hread.symm.trans fails
              exact ⟨rfl, unexpected⟩
          | unnamed read => cases hread.symm.trans read
        · cases read
  | ok text =>
      cases hroll : (rollIn l source.2 text).outcome with
      | error e =>
          constructor
          · intro hcrash
            have hfits := fits_of_crashes_printFiles hread hcrash
            rw [crashes_congr (runOn_printFiles_of_fault hread hroll hfits), crashes_orFail] at hcrash
            obtain ⟨fails, unexpected⟩ := hcrash
            cases fails
            exact .inl ⟨_, .unnamed hread hroll, hfits, unexpected⟩
          · rintro (⟨more, hfails, hfits, unexpected⟩ | ⟨_, read, hlines, -⟩)
            · cases hfails with
              | unread fails => cases hread.symm.trans fails
              | unnamed read fails =>
                  cases hread.symm.trans read
                  rw [crashes_congr (runOn_printFiles_of_fault hread hroll hfits), crashes_orFail, ← hroll]
                  exact ⟨fails, unexpected⟩
            · cases read
              cases hroll.symm.trans hlines
      | ok =>
          constructor
          · intro hcrash
            have hfits := fits_of_crashes_printFiles hread hcrash
            rw [Roll.count_of_ok hroll] at hfits
            rw [crashes_congr (runOn_printFiles_of_fits hread hroll hfits)] at hcrash
            exact .inr ⟨text, rfl, hroll, hfits, hcrash⟩
          · rintro (⟨more, hfails, -⟩ | ⟨_, read, -, hfits, hcrash⟩)
            · cases hfails with
              | unread fails => cases hread.symm.trans fails
              | unnamed read fails =>
                  cases hread.symm.trans read
                  cases hroll.symm.trans fails
            · cases read
              rwa [crashes_congr (runOn_printFiles_of_fits hread hroll hfits)]

theorem afterListing_cons_eq_some :
    afterListing l encoding d (source :: rest) = some d' ↔
      ∃ text, (d.opening source).outlets.site.readSource encoding source.2 = .ok text ∧
        (rollIn l source.2 text).outcome = .ok () ∧
        afterListing l encoding (d.listedWith source (rollIn l source.2 text).lines) rest = some d' := by
  rw [afterListing]
  cases (d.opening source).outlets.site.readSource encoding source.2 with
  | error e => simp
  | ok text =>
      dsimp only
      cases hroll : (rollIn l source.2 text).outcome with
      | error e => simp [hroll]
      | ok => simp [hroll]

theorem sourceBreaks_cons :
    SourceBreaks l encoding limit d count (source :: rest) f ↔
      (∃ more, SourceFails l encoding d source f more ∧ Fits limit count more ∧ f.isReportOrFile = false) ∨
      ∃ text, (d.opening source).outlets.site.readSource encoding source.2 = .ok text ∧
        (rollIn l source.2 text).outcome = .ok () ∧ Fits limit count (rollIn l source.2 text).lines.length ∧
        SourceBreaks l encoding limit (d.listedWith source (rollIn l source.2 text).lines)
          (count + (rollIn l source.2 text).lines.length) rest f := by
  constructor
  · rintro ⟨before, failing, after, d', more, split, earlier, fails, room, unexpected⟩
    cases before with
    | nil =>
        cases split
        cases earlier
        exact .inl ⟨more, fails, by simpa [listed, Roll.count] using room, unexpected⟩
    | cons first before =>
        cases split
        obtain ⟨text, read, hlines, earlier⟩ := afterListing_cons_eq_some.mp earlier
        rw [listed_of_ok read hlines, Roll.count_after, Nat.add_assoc, fits_add] at room
        exact .inr ⟨text, read, hlines, room.1, before, failing, after, d', more, rfl, earlier, fails, room.2,
          unexpected⟩
  · rintro (⟨more, fails, room, unexpected⟩ |
      ⟨text, read, hlines, hfits, before, failing, after, d', more, rfl, earlier, fails, room, unexpected⟩)
    · exact ⟨[], source, rest, d, more, rfl, rfl, fails, by simpa [listed, Roll.count] using room, unexpected⟩
    · refine ⟨source :: before, failing, after, d', more, rfl,
        afterListing_cons_eq_some.mpr ⟨text, read, hlines, earlier⟩, fails, ?_, unexpected⟩
      rw [listed_of_ok read hlines, Roll.count_after, Nat.add_assoc, fits_add]
      exact ⟨hfits, room⟩

end Cons

/-- **A listing breaks off** at the first source that is opened and fails. -/
theorem crashes_printFiles {sources : List (Project × FilePath)} :
    (printFiles (l.upTo limit) encoding count sources).Crashes d f ↔
      SourceBreaks l encoding limit d count sources f := by
  induction sources generalizing d count with
  | nil =>
      refine iff_of_false (completes_pure ()).not_crashes ?_
      rintro ⟨before, source, after, d', more, split, -⟩
      cases before <;> cases split
  | cons source rest ih => simp only [crashes_printFiles_cons, sourceBreaks_cons, ih]

theorem crashes_methods {names : List String} :
    (methods settings sol names limit).Crashes d f ↔
      SourceBreaks (listing settings sol d) settings.workspace.encoding limit d 0
        (filesOf (wanted names sol.projects)) f := by
  rw [Crashes, runOn_methods]
  exact crashes_printFiles

/-! ## What users are told -/

theorem isReportOrFile_of_isReport (h : f.isReport = true) : f.isReportOrFile = true := by
  cases f <;> first | rfl | cases h

theorem isReportOrFile_of_isCycle (h : f.isCycle = true) : f.isReportOrFile = true := by
  cases f <;> first | rfl | cases h

theorem explains_configure (s : LoggingSettings) : (configure s).Explains :=
  fun d => explains_orFail (fun _ h => absurd h Bool.false_ne_true) (Journal.configure s d.outlets d.journal).1
    { d with
      outlets := (Journal.configure s d.outlets d.journal).2.2
      journal := (Journal.configure s d.outlets d.journal).2.1 }

theorem explains_openFile : (openFile environment general file).Explains :=
  completes_site.explains.bind fun _ =>
    (explains_orFail (fun _ => isReportOrFile_of_isReport) _).bind fun _ =>
      (explains_configure _).bind fun _ =>
        completes_site.explains.bind fun _ =>
          (explains_noted (fun _ => isReportOrFile_of_isReport) _).bind fun _ => (completes_pure _).explains

theorem explains_packages (sol : Solution) (json : Bool) : (packages sol json).Explains :=
  completes_site.explains.bind fun _ =>
    (explains_noted (fun _ h => h) _).bind fun found => by
      split
      · exact (completes_print _).explains
      · split
        · exact (completes_print _).explains
        · exact (completes_forM (fun _ => completes_print _) found).explains

theorem explains_order (sol : Solution) : (order sol).Explains :=
  (explains_noted (fun _ => isReportOrFile_of_isCycle) _).bind fun ids =>
    (completes_forM (fun _ => completes_print _) ids.zipIdx).explains

theorem explains_printMethods (l : Listing) (file : FilePath) (count : ℕ) (ns : List Located) :
    (printMethods l file count ns).Explains := by
  induction ns generalizing count with
  | nil => exact (completes_pure _).explains
  | cons n rest ih =>
      rw [printMethods]
      split
      · exact (completes_pure _).explains
      · exact (explains_orFail (fun _ h => h) _).bind fun _ =>
          (completes_print _).explains.bind fun _ => ih (count + 1)

theorem explains_printFiles (l : Listing) (encoding : Wording) (count : ℕ)
    (sources : List (Project × FilePath)) : (printFiles l encoding count sources).Explains := by
  induction sources generalizing count with
  | nil => exact (completes_pure _).explains
  | cons source rest ih =>
      refine (completes_note _).explains.bind fun _ => completes_site.explains.bind fun _ =>
        (explains_orFail (fun _ h => h) _).bind fun _ => (completes_note _).explains.bind fun _ =>
          (explains_orFail (fun _ h => h) _).bind fun _ =>
            (explains_printMethods _ _ _ _).bind fun printed => ?_
      cases printed with
      | none => exact (completes_pure _).explains
      | some count => exact ih count

theorem explains_methods (settings : Settings) (sol : Solution) (names : List String) (limit : Option Int) :
    (methods settings sol names limit).Explains :=
  completes_site.explains.bind fun _ => explains_printFiles _ _ _ _

end Session

end SolutionSurvey
