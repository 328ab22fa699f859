import SolutionSurvey.Command.Run
import SolutionSurvey.Proofs.Journal.Streams
import SolutionSurvey.Proofs.Outcome
import SolutionSurvey.Proofs.Survey.Sources
import SolutionSurvey.Proofs.Syntax.Enclosing
import Mathlib.Data.List.Basic

/-!
# Listing declarations up to a limit

A listing with a limit prints what the listing without one prints first. It ends well once it comes to a
declaration that goes beyond the limit; so it still opens sources to look for that one, and fails if one of
these cannot be read. What comes after the source that holds it makes no difference. No line is made for that
declaration, so it does no harm if it has none.

## Main definitions

* `Desk.Prints` — what was done between two desks: some lines were printed, with notes in between.
* `Session.Roll` — what is made of some declarations: lines, up to the first declaration that has none.
* `Session.rollIn`, `Session.listed` — what is made of a source, and of some sources without a limit.
* `Session.methods_limit` — what a listing with a limit does.
-/

namespace SolutionSurvey

/-! ## Lines for declarations -/

namespace Located

/-- Every node of a source can be probed for its name. -/
theorem wellFormed (roles : List String) (n : Located) : view.WellFormed roles n where
  type := ⟨n.tree.type, rfl⟩
  identifier _ hf := (Except.error.inj hf).symm
  token token _ := ⟨.text token.text, rfl, .inr ⟨_, rfl⟩⟩

theorem enclosingNames_view (roles : List String) (fuel : ℕ) (n : Located) :
    ∃ names : List String, enclosingNames view roles fuel n = .ok (names.map .text) := by
  induction fuel generalizing n with
  | zero => exact ⟨[], rfl⟩
  | succ fuel ih =>
      rw [enclosingNames]
      cases hparent : n.parent? with
      | none => exact ⟨[], bind_eq_ok.mpr ⟨none, congrArg Except.ok hparent, rfl⟩⟩
      | some p =>
          obtain ⟨above, habove⟩ := ih p
          refine ⟨view.typeNames roles [p] ++ above,
            bind_eq_ok.mpr ⟨some p, congrArg Except.ok hparent, ?_⟩⟩
          exact bind_eq_ok.mpr ⟨_, (wellFormed roles p).enclosingPart_eq,
            bind_eq_ok.mpr ⟨_, habove, by rw [List.map_append]; rfl⟩⟩

/-- Every node of a source has a qualified name. -/
theorem qualifiedName_view (roles : List String) (fuel : ℕ) (n : Located) :
    ∃ name, qualifiedName view roles fuel n = .ok name := by
  obtain ⟨names, hnames⟩ := enclosingNames_view roles fuel n
  exact ⟨_, NodeView.qualifiedName_of_enclosingNames (wellFormed roles n) hnames⟩

end Located

/-! ## What is done to a desk -/

namespace Desk

/-- A desk after a line is printed. -/
def print (d : Desk) (line : String) : Desk :=
  { d with outlets := d.outlets.print (line ++ "\n") }

/-- A desk after some lines are printed. -/
def printAll (d : Desk) (lines : List String) : Desk :=
  lines.foldl print d

/-- Between two desks some lines were printed, with notes in between. -/
inductive Prints : Desk → List String → Desk → Prop
  | done (d : Desk) : Prints d [] d
  | note {d d' : Desk} {lines : List String} (events : List Event) :
      Prints (d.note events) lines d' → Prints d lines d'
  | print {d d' : Desk} {lines : List String} (line : String) :
      Prints (d.print line) lines d' → Prints d (line :: lines) d'

/-- A desk when a source is about to be read. -/
def opening (d : Desk) (f : Project × FilePath) : Desk :=
  d.note [.parsing f.1.name f.2]

/-- A desk after some lines are printed for a source. -/
def listedWith (d : Desk) (f : Project × FilePath) (lines : List String) : Desk :=
  ((d.opening f).note [.grammarLoaded]).printAll lines

theorem Prints.append {d d' d'' : Desk} {lines later : List String} (h : Prints d lines d')
    (h' : Prints d' later d'') : Prints d (lines ++ later) d'' := by
  induction h with
  | done => exact h'
  | note events _ ih => exact .note events (ih h')
  | print line _ ih => exact .print line (ih h')

theorem prints_printAll (d : Desk) (lines : List String) : Prints d lines (d.printAll lines) := by
  induction lines generalizing d with
  | nil => exact .done d
  | cons line rest ih => exact .print line (ih _)

theorem prints_listedWith (d : Desk) (f : Project × FilePath) (lines : List String) :
    Prints d lines (d.listedWith f lines) :=
  .note _ (.note _ (prints_printAll _ lines))

/-- Lines are printed the same with another file tree. -/
theorem onSite_printAll (d : Desk) (lines : List String) (s : Site) :
    (d.onSite s).printAll lines = (d.printAll lines).onSite s := by
  induction lines generalizing d with
  | nil => rfl
  | cons line rest ih => exact ih (d.print line)

theorem journal_printAll (d : Desk) (lines : List String) : (d.printAll lines).journal = d.journal := by
  induction lines generalizing d with
  | nil => rfl
  | cons line rest ih => exact ih (d.print line)

theorem site_printAll (d : Desk) (lines : List String) :
    (d.printAll lines).outlets.site = d.outlets.site := by
  induction lines generalizing d with
  | nil => rfl
  | cons line rest ih => exact ih (d.print line)

variable {d : Desk} (f : Project × FilePath) (lines : List String)

theorem onSite_opening (hd : d.journal.WritesNoFile) (s : Site) :
    (d.onSite s).opening f = (d.opening f).onSite s :=
  onSite_note hd _ s

theorem onSite_listedWith (hd : d.journal.WritesNoFile) (s : Site) :
    (d.onSite s).listedWith f lines = (d.listedWith f lines).onSite s := by
  have hopened : (d.opening f).journal.WritesNoFile := hd
  rw [listedWith, onSite_opening f hd, onSite_note hopened, onSite_printAll, listedWith]

theorem journal_listedWith : (d.listedWith f lines).journal = d.journal :=
  journal_printAll _ lines

theorem site_listedWith (hd : d.journal.WritesNoFile) :
    (d.listedWith f lines).outlets.site = d.outlets.site := by
  have hopened : (d.opening f).journal.WritesNoFile := hd
  rw [listedWith, site_printAll, site_note hopened, opening, site_note hd]

end Desk

namespace Session

open Desk (Prints)

variable {α β : Type}

/-! ## Runs -/

/-- What a computation gives at a desk, and the desk after it. -/
def runOn (x : Session α) (d : Desk) : Except Halt α × Desk :=
  x.run.run d

theorem runOn_bind (x : Session α) (f : α → Session β) (d : Desk) :
    (x >>= f).runOn d =
      match x.runOn d with
      | (.ok a, d') => (f a).runOn d'
      | (.error halt, d') => (.error halt, d') := by
  have hbind : (x >>= f).runOn d = ExceptT.bindCont f (x.runOn d).1 (x.runOn d).2 := rfl
  rw [hbind]
  rcases x.runOn d with ⟨halt | a, d'⟩ <;> rfl

theorem runOn_bind_of_ok {x : Session α} {a : α} {d d' : Desk} (h : x.runOn d = (.ok a, d'))
    (f : α → Session β) : (x >>= f).runOn d = (f a).runOn d' := by
  rw [runOn_bind, h]

theorem runOn_bind_of_error {x : Session α} {halt : Halt} {d d' : Desk} (h : x.runOn d = (.error halt, d'))
    (f : α → Session β) : (x >>= f).runOn d = (.error halt, d') := by
  rw [runOn_bind, h]

theorem runOn_print (line : String) (d : Desk) : (print line).runOn d = (.ok (), d.print line) := rfl

theorem runOn_note (events : List Event) (d : Desk) : (note events).runOn d = (.ok (), d.note events) := rfl

theorem runOn_site (d : Desk) : site.runOn d = (.ok d.outlets.site, d) := rfl

theorem runOn_orFail_ok (expected : Failure → Bool) (a : α) (d : Desk) :
    (orFail expected (.ok a)).runOn d = (.ok a, d) := rfl

/-- A failure ends a run, whatever it was to give, and nothing is printed any more. -/
theorem runOn_orFail_error (expected : Failure → Bool) (f : Failure) (d : Desk) :
    ∃ halt d', Prints d [] d' ∧
      ∀ α : Type, (orFail expected (.error f) : Session α).runOn d = (.error halt, d') := by
  cases h : expected f with
  | true =>
      refine ⟨.refused (withPointer d.journal.pointer f.message), d.note [.commandFailed f],
        .note _ (.done _), fun α => ?_⟩
      rw [orFail, if_pos h]
      rfl
  | false =>
      refine ⟨.crashed f, d, .done d, fun α => ?_⟩
      rw [orFail, h]
      rfl

/-! ## Lines -/

/-- A listing with another limit. -/
def Listing.upTo (l : Listing) (limit : Option Int) : Listing :=
  { l with limit }

/-- With roles that have no halves, every declaration has a line. -/
theorem exists_methodLine {l : Listing} (hroles : ∀ role ∈ l.roles, ∃ name, role = .plain name)
    (file : FilePath) (n : Located) : ∃ line, methodLine l file n = .ok line := by
  have hnone : l.roles.findSome? Wording.fault? = none := by
    refine List.findSome?_eq_none_iff.mpr fun role hrole => ?_
    obtain ⟨name, rfl⟩ := hroles role hrole
    rfl
  obtain ⟨name, hname⟩ := n.qualifiedName_view (naming l.roles).2 (n.above.length + 1)
  have hview : (naming l.roles).1 = Located.view := by simp only [naming, hnone]
  rw [← hview] at hname
  exact ⟨_, bind_eq_ok.mpr ⟨name, hname, rfl⟩⟩

/-- What is made of some declarations one by one: the lines for the first ones, and why the next one has no
line, if there is such a one. -/
structure Roll where
  lines : List String := []
  outcome : Except Failure Unit := .ok ()

namespace Roll

/-- How many declarations are looked at. -/
def count (r : Roll) : ℕ :=
  match r.outcome with
  | .ok () => r.lines.length
  | .error _ => r.lines.length + 1

/-- The same after some other lines. -/
def after (lines : List String) (r : Roll) : Roll :=
  { r with lines := lines ++ r.lines }

variable {r : Roll}

theorem count_of_ok (h : r.outcome = .ok ()) : r.count = r.lines.length := by
  rw [count, h]

theorem count_of_error {e : Failure} (h : r.outcome = .error e) : r.count = r.lines.length + 1 := by
  rw [count, h]

theorem length_lines_le_count (r : Roll) : r.lines.length ≤ r.count := by
  cases h : r.outcome with
  | ok => exact Nat.le_of_eq (count_of_ok h).symm
  | error e => exact (count_of_error h).symm ▸ Nat.le_succ _

theorem count_after (lines : List String) (r : Roll) : (r.after lines).count = lines.length + r.count := by
  cases h : r.outcome with
  | ok => rw [count_of_ok h, count_of_ok (r := r.after lines) h, after, List.length_append]
  | error e =>
      rw [count_of_error h, count_of_error (r := r.after lines) h, after, List.length_append, Nat.add_assoc]

end Roll

/-- What is made of some declarations of a file. -/
def rollOf (l : Listing) (file : FilePath) : List Located → Roll
  | [] => {}
  | n :: rest =>
    match methodLine l file n with
    | .ok line => (rollOf l file rest).after [line]
    | .error e => { outcome := .error e }

/-- What is made of a source with a text. -/
def rollIn (l : Listing) (file : FilePath) (text : String) : Roll :=
  rollOf l file (methodsBelow (.root text (CSharp.grammar text)))

/-- What is made of some sources when there is no limit, from a desk on. A source that cannot be read is the
last one, and so is one with a declaration that has no line. -/
def listed (l : Listing) (encoding : Wording) : Desk → List (Project × FilePath) → Roll
  | _, [] => {}
  | d, f :: rest =>
    match (d.opening f).outlets.site.readSource encoding f.2 with
    | .error _ => {}
    | .ok text =>
      let here := rollIn l f.2 text
      match here.outcome with
      | .ok () => (listed l encoding (d.listedWith f here.lines) rest).after here.lines
      | .error _ => here

section Declarations

variable {l : Listing} {file : FilePath} {n : Located}

theorem rollOf_of_ok {line : String} (h : methodLine l file n = .ok line) (rest : List Located) :
    rollOf l file (n :: rest) = (rollOf l file rest).after [line] := by
  rw [rollOf, h]

theorem rollOf_of_error {e : Failure} (h : methodLine l file n = .error e) (rest : List Located) :
    rollOf l file (n :: rest) = { outcome := .error e } := by
  rw [rollOf, h]

end Declarations

section Sources

variable {l : Listing} {encoding : Wording} {f : Project × FilePath} {d : Desk}

theorem listed_of_error {e : Failure} (h : (d.opening f).outlets.site.readSource encoding f.2 = .error e)
    (rest : List (Project × FilePath)) : listed l encoding d (f :: rest) = {} := by
  rw [listed, h]

variable {text : String} (h : (d.opening f).outlets.site.readSource encoding f.2 = .ok text)
include h

theorem listed_of_ok (hlines : (rollIn l f.2 text).outcome = .ok ()) (rest : List (Project × FilePath)) :
    listed l encoding d (f :: rest) =
      (listed l encoding (d.listedWith f (rollIn l f.2 text).lines) rest).after (rollIn l f.2 text).lines := by
  simp only [listed, h, hlines]

theorem listed_of_fault {e : Failure} (hfault : (rollIn l f.2 text).outcome = .error e)
    (rest : List (Project × FilePath)) : listed l encoding d (f :: rest) = rollIn l f.2 text := by
  simp only [listed, h, hfault]

end Sources

section Plain

variable {l : Listing} (hroles : ∀ role ∈ l.roles, ∃ name, role = .plain name)
include hroles

theorem outcome_rollOf (file : FilePath) (ns : List Located) : (rollOf l file ns).outcome = .ok () := by
  induction ns with
  | nil => rfl
  | cons n rest ih =>
      obtain ⟨line, hline⟩ := exists_methodLine hroles file n
      rw [rollOf_of_ok hline]
      exact ih

/-- With roles that have no halves, all declarations have lines. -/
theorem outcome_listed (encoding : Wording) (d : Desk) (fs : List (Project × FilePath)) :
    (listed l encoding d fs).outcome = .ok () := by
  induction fs generalizing d with
  | nil => rfl
  | cons f rest ih =>
      cases h : (d.opening f).outlets.site.readSource encoding f.2 with
      | error e => rw [listed_of_error h]
      | ok text =>
          rw [listed_of_ok h (outcome_rollOf hroles f.2 _)]
          exact ih _

end Plain

/-! ## Room -/

/-- After `count` declarations there is room for some more, if there are any. -/
def Fits (limit : Option Int) (count more : ℕ) : Prop :=
  ∀ most, limit = some most → more = 0 ∨ (count + more : Int) ≤ most

section Room

variable {limit : Option Int} {count more room : ℕ}

/-- Without a limit there is always room. -/
theorem fits_none (count more : ℕ) : Fits none count more :=
  nofun

theorem fits_some : Fits (some (count + room : ℕ)) count more ↔ more ≤ room := by
  constructor
  · intro h
    have hmore := h _ rfl
    omega
  · intro h most hmost
    cases hmost
    omega

/-- There is room for all if there is room for the first ones and then for the others. -/
theorem fits_add {first later : ℕ} :
    Fits limit count (first + later) ↔ Fits limit count first ∧ Fits limit (count + first) later := by
  constructor
  · intro h
    constructor
    all_goals
      intro most hmost
      have hall := h most hmost
      push_cast at hall ⊢
      omega
  · rintro ⟨hfirst, hlater⟩ most hmost
    have hroom := hfirst most hmost
    have hrest := hlater most hmost
    push_cast at hrest ⊢
    omega

end Room

/-! ## Declarations -/

variable {l : Listing} {limit : Option Int} {count : ℕ} {file : FilePath} {n : Located} {rest : List Located}
  {d : Desk}

/-- A declaration that does not go beyond the limit has its line made and printed. -/
theorem runOn_printMethods_cons (hroom : Fits limit count 1) :
    (printMethods (l.upTo limit) file count (n :: rest)).runOn d =
      (do
        print (← orFail Failure.isReportOrFile (methodLine l file n))
        printMethods (l.upTo limit) file (count + 1) rest).runOn d := by
  have hgo : ((l.upTo limit).limit.any fun most => decide (most ≤ (count : Int))) = false := by
    rw [Option.any_eq_false]
    intro most hmost
    have hnext := hroom most hmost
    exact decide_eq_false (by omega)
  rw [printMethods, hgo, if_neg Bool.false_ne_true]
  rfl

/-- A declaration that goes beyond the limit ends a listing well. -/
theorem runOn_printMethods_cons_of_full {most : Int} (hfull : most ≤ (count : Int)) :
    (printMethods (l.upTo (some most)) file count (n :: rest)).runOn d = (.ok none, d) := by
  have hstop : ((l.upTo (some most)).limit.any fun most => decide (most ≤ (count : Int))) = true := by
    simpa [Listing.upTo] using hfull
  rw [printMethods, if_pos hstop]
  rfl

/-- As long as there is room, the declarations of a source are printed up to the first one without a line. -/
theorem runOn_printMethods_of_fits {ns : List Located} (hroom : Fits limit count (rollOf l file ns).count)
    (d : Desk) :
    (printMethods (l.upTo limit) file count ns).runOn d =
      (orFail Failure.isReportOrFile
        ((rollOf l file ns).outcome.map fun _ => some (count + (rollOf l file ns).lines.length))).runOn
        (d.printAll (rollOf l file ns).lines) := by
  induction ns generalizing count d with
  | nil => rfl
  | cons n rest ih =>
      cases hline : methodLine l file n with
      | error e =>
          obtain ⟨halt, d', -, hfail⟩ := runOn_orFail_error Failure.isReportOrFile e d
          rw [rollOf_of_error hline] at hroom
          rw [runOn_printMethods_cons hroom, hline, runOn_bind_of_error (hfail String), rollOf_of_error hline]
          exact (hfail (Option ℕ)).symm
      | ok line =>
          rw [rollOf_of_ok hline, Roll.count_after, List.length_singleton, fits_add] at hroom
          have hlength : count + 1 + (rollOf l file rest).lines.length =
              count + ((rollOf l file rest).after [line]).lines.length := by
            rw [Roll.after, List.length_append, List.length_singleton, Nat.add_assoc]
          rw [runOn_printMethods_cons hroom.1, hline, runOn_bind_of_ok (runOn_orFail_ok _ _ d),
            runOn_bind_of_ok (runOn_print _ d), ih hroom.2, rollOf_of_ok hline, hlength]
          rfl

/-- Where there is no room for all declarations of a source, the first ones are printed. -/
theorem runOn_printMethods_of_not_fits {most : Int} {ns : List Located}
    (hfull : ¬ Fits (some most) count (rollOf l file ns).count) (d : Desk) :
    (printMethods (l.upTo (some most)) file count ns).runOn d =
      (.ok none, d.printAll ((rollOf l file ns).lines.take (most - count).toNat)) := by
  induction ns generalizing count d with
  | nil => exact absurd (fun _ _ => .inl rfl) hfull
  | cons n rest ih =>
      by_cases hstop : most ≤ (count : Int)
      · have hnone : (most - count).toNat = 0 := by omega
        rw [runOn_printMethods_cons_of_full hstop, hnone]
        rfl
      · have hnext : Fits (some most) count 1 := fun _ h => by
          cases h
          omega
        cases hline : methodLine l file n with
        | error e =>
            rw [rollOf_of_error hline] at hfull
            exact absurd hnext hfull
        | ok line =>
            rw [rollOf_of_ok hline, Roll.count_after, List.length_singleton, fits_add] at hfull
            have hroom : (most - count).toNat = (most - (count + 1 : ℕ)).toNat + 1 := by omega
            rw [runOn_printMethods_cons hnext, hline, runOn_bind_of_ok (runOn_orFail_ok _ _ d),
              runOn_bind_of_ok (runOn_print _ d), ih fun h => hfull ⟨hnext, h⟩, rollOf_of_ok hline, hroom]
            rfl

/-! ## Sources -/

variable {encoding : Wording} {f : Project × FilePath} {rest : List (Project × FilePath)}

/-- A source is opened for its text, which is then written for the parser. -/
theorem runOn_printFiles_cons (l : Listing) (encoding : Wording) (count : ℕ) (f : Project × FilePath)
    (rest : List (Project × FilePath)) (d : Desk) :
    (printFiles l encoding count (f :: rest)).runOn d =
      (do
        let text ← orFail Failure.isReportOrFile ((d.opening f).outlets.site.readText encoding f.2)
        note [.grammarLoaded]
        let text ← orFail Failure.isReportOrFile (text.written.mapError .unencodable)
        match ← printMethods l f.2 count (methodsBelow (.root text (CSharp.grammar text))) with
        | none => pure ()
        | some count => printFiles l encoding count rest).runOn (d.opening f) := by
  rw [printFiles, runOn_bind_of_ok (runOn_note _ d), runOn_bind_of_ok (runOn_site _)]
  rfl

/-- A source that cannot be read ends the listing, whatever its limit is. -/
theorem runOn_printFiles_of_error {e : Failure}
    (h : (d.opening f).outlets.site.readSource encoding f.2 = .error e) (l : Listing)
    (rest : List (Project × FilePath)) :
    ∃ d₀, Prints d [] d₀ ∧ ∀ limit (count : ℕ),
      (printFiles (l.upTo limit) encoding count (f :: rest)).runOn d =
        (orFail Failure.isReportOrFile (.error e)).runOn d₀ := by
  rw [Site.readSource] at h
  cases htext : (d.opening f).outlets.site.readText encoding f.2 with
  | error e' =>
      rw [htext] at h
      cases h
      refine ⟨d.opening f, .note _ (.done _), fun limit count => ?_⟩
      obtain ⟨halt, d', -, hfail⟩ := runOn_orFail_error Failure.isReportOrFile e (d.opening f)
      rw [runOn_printFiles_cons, htext, runOn_bind_of_error (hfail Wording), hfail]
  | ok text =>
      rw [htext] at h
      have hwritten : text.written.mapError .unencodable = .error e := h
      refine ⟨(d.opening f).note [.grammarLoaded], .note _ (.note _ (.done _)), fun limit count => ?_⟩
      obtain ⟨halt, d', -, hfail⟩ :=
        runOn_orFail_error Failure.isReportOrFile e ((d.opening f).note [.grammarLoaded])
      rw [runOn_printFiles_cons, htext, runOn_bind_of_ok (runOn_orFail_ok _ _ _),
        runOn_bind_of_ok (runOn_note _ _), hwritten, runOn_bind_of_error (hfail String), hfail]

/-- A source that is read has its declarations printed before the others are listed. -/
theorem runOn_printFiles_of_ok {text : String}
    (h : (d.opening f).outlets.site.readSource encoding f.2 = .ok text) (limit : Option Int) (count : ℕ) :
    (printFiles (l.upTo limit) encoding count (f :: rest)).runOn d =
      (do
        match ← printMethods (l.upTo limit) f.2 count (methodsBelow (.root text (CSharp.grammar text))) with
        | none => pure ()
        | some count => printFiles (l.upTo limit) encoding count rest).runOn
        ((d.opening f).note [.grammarLoaded]) := by
  obtain ⟨whole, htext, hwritten⟩ := bind_eq_ok.mp h
  rw [runOn_printFiles_cons, htext, runOn_bind_of_ok (runOn_orFail_ok _ _ _),
    runOn_bind_of_ok (runOn_note _ _), hwritten, runOn_bind_of_ok (runOn_orFail_ok _ _ _)]

section Read

variable {text : String} (h : (d.opening f).outlets.site.readSource encoding f.2 = .ok text)
include h

/-- As long as there is room, the lines of a source are printed before the others are listed. -/
theorem runOn_printFiles_of_fits (hlines : (rollIn l f.2 text).outcome = .ok ())
    (hroom : Fits limit count (rollIn l f.2 text).lines.length) :
    (printFiles (l.upTo limit) encoding count (f :: rest)).runOn d =
      (printFiles (l.upTo limit) encoding (count + (rollIn l f.2 text).lines.length) rest).runOn
        (d.listedWith f (rollIn l f.2 text).lines) := by
  rw [← Roll.count_of_ok hlines] at hroom
  have hprinted := runOn_printMethods_of_fits hroom ((d.opening f).note [.grammarLoaded])
  rw [← rollIn, hlines] at hprinted
  rw [runOn_printFiles_of_ok h, runOn_bind_of_ok hprinted]
  rfl

/-- A declaration without a line ends the listing after the lines before it, if there is room for it. -/
theorem runOn_printFiles_of_fault {e : Failure} (hfault : (rollIn l f.2 text).outcome = .error e)
    (hroom : Fits limit count (rollIn l f.2 text).count) :
    (printFiles (l.upTo limit) encoding count (f :: rest)).runOn d =
      (orFail Failure.isReportOrFile (.error e)).runOn (d.listedWith f (rollIn l f.2 text).lines) := by
  have hprinted := runOn_printMethods_of_fits hroom ((d.opening f).note [.grammarLoaded])
  obtain ⟨halt, d', -, hfail⟩ :=
    runOn_orFail_error Failure.isReportOrFile e (d.listedWith f (rollIn l f.2 text).lines)
  rw [← rollIn, hfault] at hprinted
  rw [runOn_printFiles_of_ok h, runOn_bind_of_error (hprinted.trans (hfail (Option ℕ))), hfail]

/-- Where there is no room for all declarations of a source, the first lines are printed and no other source
is opened. -/
theorem runOn_printFiles_of_not_fits {most : Int}
    (hfull : ¬ Fits (some most) count (rollIn l f.2 text).count) :
    (printFiles (l.upTo (some most)) encoding count (f :: rest)).runOn d =
      (.ok (), d.listedWith f ((rollIn l f.2 text).lines.take (most - count).toNat)) := by
  rw [runOn_printFiles_of_ok h, runOn_bind_of_ok (runOn_printMethods_of_not_fits hfull _)]
  rfl

theorem runOn_printFiles_of_full {room : ℕ} (hfull : room < (rollIn l f.2 text).count) :
    (printFiles (l.upTo (some (count + room : ℕ))) encoding count (f :: rest)).runOn d =
      (.ok (), d.listedWith f ((rollIn l f.2 text).lines.take room)) := by
  have hroom : (((count + room : ℕ) : Int) - count).toNat = room := by omega
  rw [runOn_printFiles_of_not_fits h fun hfits => absurd hfull (Nat.not_lt_of_le (fits_some.mp hfits)), hroom]

end Read

/-- A listing without a limit prints what is made of its sources. -/
theorem prints_printFiles (l : Listing) (encoding : Wording) (fs : List (Project × FilePath)) (count : ℕ)
    (d : Desk) :
    Prints d (listed l encoding d fs).lines ((printFiles (l.upTo none) encoding count fs).runOn d).2 := by
  induction fs generalizing count d with
  | nil => exact .done d
  | cons f rest ih =>
      cases h : (d.opening f).outlets.site.readSource encoding f.2 with
      | error e =>
          obtain ⟨d₀, hopened, hrun⟩ := runOn_printFiles_of_error h l rest
          obtain ⟨halt, d', hfailed, hfail⟩ := runOn_orFail_error Failure.isReportOrFile e d₀
          rw [listed_of_error h, hrun, hfail]
          exact hopened.append hfailed
      | ok text =>
          have hprints := d.prints_listedWith f (rollIn l f.2 text).lines
          cases hroll : (rollIn l f.2 text).outcome with
          | ok =>
              rw [listed_of_ok h hroll, runOn_printFiles_of_fits h hroll (fits_none _ _)]
              exact hprints.append (ih _ _)
          | error e =>
              obtain ⟨halt, d', hfailed, hfail⟩ :=
                runOn_orFail_error Failure.isReportOrFile e (d.listedWith f (rollIn l f.2 text).lines)
              rw [listed_of_fault h hroll, runOn_printFiles_of_fault h hroll (fits_none _ _), hfail]
              simpa using hprints.append hfailed

/-- With room for all declarations, a listing is that without a limit. -/
theorem printFiles_of_room {fs : List (Project × FilePath)} {room : ℕ}
    (hroom : (listed l encoding d fs).count ≤ room) :
    (printFiles (l.upTo (some (count + room : ℕ))) encoding count fs).runOn d =
      (printFiles (l.upTo none) encoding count fs).runOn d := by
  induction fs generalizing count room d with
  | nil => rfl
  | cons f rest ih =>
      cases h : (d.opening f).outlets.site.readSource encoding f.2 with
      | error e =>
          obtain ⟨d₀, -, hrun⟩ := runOn_printFiles_of_error h l rest
          rw [hrun, hrun]
      | ok text =>
          cases hroll : (rollIn l f.2 text).outcome with
          | ok =>
              rw [listed_of_ok h hroll, Roll.count_after] at hroom
              have hlimit : count + room = count + (rollIn l f.2 text).lines.length +
                  (room - (rollIn l f.2 text).lines.length) := by omega
              rw [runOn_printFiles_of_fits h hroll (fits_some.mpr (by omega)),
                runOn_printFiles_of_fits h hroll (fits_none _ _), hlimit]
              exact ih (by omega)
          | error e =>
              rw [listed_of_fault h hroll] at hroom
              rw [runOn_printFiles_of_fault h hroll (fits_some.mpr hroom),
                runOn_printFiles_of_fault h hroll (fits_none _ _)]

/-- Without room for all declarations, a listing prints the first lines and ends well. -/
theorem printFiles_of_full {fs : List (Project × FilePath)} {room : ℕ}
    (h : room < (listed l encoding d fs).count) (count : ℕ) :
    ∃ d', (printFiles (l.upTo (some (count + room : ℕ))) encoding count fs).runOn d = (.ok (), d') ∧
      Prints d ((listed l encoding d fs).lines.take room) d' := by
  induction fs generalizing count room d with
  | nil => exact absurd h (Nat.not_lt_zero room)
  | cons f rest ih =>
      cases hread : (d.opening f).outlets.site.readSource encoding f.2 with
      | error e =>
          rw [listed_of_error hread] at h
          exact absurd h (Nat.not_lt_zero room)
      | ok text =>
          have hprints := d.prints_listedWith f ((rollIn l f.2 text).lines.take room)
          cases hroll : (rollIn l f.2 text).outcome with
          | error e =>
              rw [listed_of_fault hread hroll] at h ⊢
              exact ⟨_, runOn_printFiles_of_full hread h, hprints⟩
          | ok =>
              rw [listed_of_ok hread hroll] at h ⊢
              rw [Roll.count_after] at h
              by_cases hfull : room < (rollIn l f.2 text).lines.length
              · rw [Roll.after, List.take_append_of_le_length (Nat.le_of_lt hfull)]
                rw [← Roll.count_of_ok hroll] at hfull
                exact ⟨_, runOn_printFiles_of_full hread hfull, hprints⟩
              · -- What room is left is for the sources after this one.
                have hle : (rollIn l f.2 text).lines.length ≤ room := Nat.le_of_not_lt hfull
                have hlimit : count + room = count + (rollIn l f.2 text).lines.length +
                    (room - (rollIn l f.2 text).lines.length) := by omega
                have hleft : room - (rollIn l f.2 text).lines.length <
                    (listed l encoding (d.listedWith f (rollIn l f.2 text).lines) rest).count := by omega
                obtain ⟨d', hrun, hrest⟩ := ih hleft (count + (rollIn l f.2 text).lines.length)
                rw [List.take_of_length_le hle] at hprints
                rw [runOn_printFiles_of_fits hread hroll (fits_some.mpr hle), hlimit,
                  Roll.after, List.take_append, List.take_of_length_le hle]
                exact ⟨d', hrun, hprints.append hrest⟩

/-- **A listing of some sources with a limit** prints the first lines, ends well if there are more
declarations, and is the listing without a limit otherwise. -/
theorem printFiles_limit (l : Listing) (encoding : Wording) (fs : List (Project × FilePath)) (count room : ℕ)
    (d : Desk) :
    Prints d ((listed l encoding d fs).lines.take room)
        ((printFiles (l.upTo (some (count + room : ℕ))) encoding count fs).runOn d).2 ∧
      (room < (listed l encoding d fs).count →
        ((printFiles (l.upTo (some (count + room : ℕ))) encoding count fs).runOn d).1 = .ok ()) ∧
      ((listed l encoding d fs).count ≤ room →
        (printFiles (l.upTo (some (count + room : ℕ))) encoding count fs).runOn d =
          (printFiles (l.upTo none) encoding count fs).runOn d) := by
  by_cases hfull : room < (listed l encoding d fs).count
  · obtain ⟨d', hrun, hprints⟩ := printFiles_of_full hfull count
    rw [hrun]
    exact ⟨hprints, fun _ => rfl, fun hroom => absurd hfull (Nat.not_lt_of_le hroom)⟩
  · have hroom : (listed l encoding d fs).count ≤ room := Nat.le_of_not_lt hfull
    have hall := prints_printFiles l encoding fs count d
    rw [← printFiles_of_room hroom] at hall
    rw [List.take_of_length_le (Nat.le_trans (Roll.length_lines_le_count _) hroom)]
    exact ⟨hall, fun h => absurd h hfull, fun _ => printFiles_of_room hroom⟩

/-- **What comes after the source with the first declaration beyond the limit makes no difference**: neither
which sources these are nor what they hold. -/
theorem printFiles_congr {before : List (Project × FilePath)} {room : ℕ}
    (h : room < (listed l encoding d before).count) (hd : d.journal.WritesNoFile) {s' : Site}
    (hdecode : s'.decode = d.outlets.site.decode)
    (hread : ∀ f ∈ before, s'.read f.2 = d.outlets.site.read f.2) (count : ℕ)
    (after after' : List (Project × FilePath)) :
    (printFiles (l.upTo (some (count + room : ℕ))) encoding count (before ++ after')).runOn (d.onSite s') =
      Prod.map id (fun d' => d'.onSite s')
        ((printFiles (l.upTo (some (count + room : ℕ))) encoding count (before ++ after)).runOn d) := by
  induction before generalizing count room d with
  | nil => exact absurd h (Nat.not_lt_zero room)
  | cons f rest ih =>
      obtain ⟨hfirst, hrest⟩ := List.forall_mem_cons.mp hread
      cases htext : (d.opening f).outlets.site.readSource encoding f.2 with
      | error e =>
          rw [listed_of_error htext] at h
          exact absurd h (Nat.not_lt_zero room)
      | ok text =>
          have htext' : ((d.onSite s').opening f).outlets.site.readSource encoding f.2 = .ok text := by
            rw [Desk.onSite_opening f hd, ← htext]
            have hopened : (d.opening f).outlets.site = d.outlets.site := Desk.site_note hd _
            rw [hopened]
            exact Site.readSource_congr hdecode hfirst encoding
          rw [List.cons_append, List.cons_append]
          by_cases hfull : room < (rollIn l f.2 text).count
          · rw [runOn_printFiles_of_full htext hfull, runOn_printFiles_of_full htext' hfull,
              Desk.onSite_listedWith f _ hd]
            rfl
          · cases hroll : (rollIn l f.2 text).outcome with
            | error e =>
                rw [listed_of_fault htext hroll] at h
                exact absurd h hfull
            | ok =>
                rw [listed_of_ok htext hroll, Roll.count_after] at h
                rw [Roll.count_of_ok hroll] at hfull
                have hroom : Fits (some (count + room : ℕ)) count (rollIn l f.2 text).lines.length :=
                  fits_some.mpr (Nat.le_of_not_lt hfull)
                have hlimit : count + room = count + (rollIn l f.2 text).lines.length +
                    (room - (rollIn l f.2 text).lines.length) := by omega
                rw [runOn_printFiles_of_fits htext hroll hroom, runOn_printFiles_of_fits htext' hroll hroom,
                  Desk.onSite_listedWith f _ hd, hlimit]
                refine ih (by omega) ?_ ?_ ?_ _
                · rwa [Desk.journal_listedWith]
                · rwa [Desk.site_listedWith f _ hd]
                · rwa [Desk.site_listedWith f _ hd]

/-! ## The command -/

variable (settings : Settings) (sol : Solution) (names : List String) (d : Desk)

/-- How the declarations of a solution are listed without a limit. -/
def listing : Listing :=
  ⟨(sol.path.map FilePath.parent).getD d.outlets.site.here, settings.probe.identifierFields, none⟩

/-- What is made of some sources without a limit, in the order of these. -/
def rollFor (fs : List (Project × FilePath)) : Roll :=
  listed (listing settings sol d) settings.workspace.encoding d fs

/-- The lines of the listing without a limit. -/
def methodLines : List String :=
  (rollFor settings sol d (filesOf (wanted names sol.projects))).lines

/-- How many declarations the listing without a limit looks at: those with lines, and the one that ends it by
having none. -/
def methodCount : ℕ :=
  (rollFor settings sol d (filesOf (wanted names sol.projects))).count

theorem runOn_methods (limit : Option Int) :
    (methods settings sol names limit).runOn d =
      (printFiles ((listing settings sol d).upTo limit) settings.workspace.encoding 0
        (filesOf (wanted names sol.projects))).runOn d := by
  rw [methods, runOn_bind_of_ok (runOn_site d)]
  rfl

/-- **A listing with a limit** prints the first lines of the listing without one. If there are declarations
beyond the limit it ends well, and otherwise it does the same. All declarations have lines, except that roles
with halves may leave the last one without. What comes after the source with the first declaration beyond the
limit makes no difference. -/
theorem methods_limit (most : ℕ) :
    Prints d (methodLines settings sol names d) ((methods settings sol names none).runOn d).2 ∧
      Prints d ((methodLines settings sol names d).take most)
        ((methods settings sol names (some most)).runOn d).2 ∧
      (most < methodCount settings sol names d →
        ((methods settings sol names (some most)).runOn d).1 = .ok ()) ∧
      (methodCount settings sol names d ≤ most →
        (methods settings sol names (some most)).runOn d = (methods settings sol names none).runOn d) ∧
      (methodLines settings sol names d).length ≤ methodCount settings sol names d ∧
      ((∀ role ∈ settings.probe.identifierFields, ∃ name, role = .plain name) →
        (methodLines settings sol names d).length = methodCount settings sol names d) ∧
      ∀ (before after after' : List (Project × FilePath)) (sol' : Solution) (s' : Site),
        most < (rollFor settings sol d before).count →
        filesOf (wanted names sol.projects) = before ++ after →
        filesOf (wanted names sol'.projects) = before ++ after' →
        sol'.path = sol.path → s'.here = d.outlets.site.here → s'.decode = d.outlets.site.decode →
        (∀ f ∈ before, s'.read f.2 = d.outlets.site.read f.2) → d.journal.WritesNoFile →
        (methods settings sol' names (some most)).runOn (d.onSite s') =
          Prod.map id (fun d' => d'.onSite s') ((methods settings sol names (some most)).runOn d) := by
  have hlimit := printFiles_limit (listing settings sol d) settings.workspace.encoding
    (filesOf (wanted names sol.projects)) 0 most d
  simp only [Nat.zero_add] at hlimit
  obtain ⟨hcut, hmore, hsame⟩ := hlimit
  simp only [runOn_methods]
  refine ⟨prints_printFiles _ _ _ 0 d, hcut, hmore, hsame, Roll.length_lines_le_count _, ?_, ?_⟩
  · intro hroles
    exact (Roll.count_of_ok (outcome_listed hroles _ _ _)).symm
  · intro before after after' sol' s' hlines hfiles hfiles' hpath hhere hdecode hread hd
    have hlisting : listing settings sol' (d.onSite s') = listing settings sol d := by
      rw [listing, listing, hpath]
      exact congrArg (fun here => (⟨(sol.path.map FilePath.parent).getD here, _, none⟩ : Listing)) hhere
    have hcongr := printFiles_congr hlines hd hdecode hread 0 after after'
    simp only [Nat.zero_add] at hcongr
    rw [hlisting, hfiles, hfiles']
    exact hcongr

/-- Two methods in one source, and another source that is not there. -/
def goneSolution : Solution where
  path := some ⟨1, ["w", "s.sln"]⟩
  projects := [⟨⟨"A"⟩, "App", none, [.ofPath ⟨1, ["w", "A.cs"]⟩, .ofPath ⟨1, ["w", "Gone.cs"]⟩], []⟩]

/-- The first of the two sources. -/
def goneSource : String :=
  "class A \x7b void M() \x7b \x7d\nvoid N() \x7b \x7d \x7d"

/-- A desk over the first source. -/
def goneDesk : Desk where
  outlets := {
    site := {
      tree := .dir [("w", .dir [("A.cs", .file goneSource.toUTF8.toList)])]
      here := ⟨1, ["w"]⟩
      home := ⟨1, ["w", "home"]⟩ } }
  journal := { level := some .warning, handlers := [⟨.console, .stderr, .warning⟩] }
  stamp := ""

theorem methodLines_goneDesk : methodLines {} goneSolution [] goneDesk = ["A.cs:1 A.M", "A.cs:2 A.N"] := by
  decide +kernel

/-- A limit of one is met before the missing source is looked for, and a limit of two is not. -/
theorem methods_limit_goneDesk :
    methodLines {} goneSolution [] goneDesk = ["A.cs:1 A.M", "A.cs:2 A.N"] ∧
      Prints goneDesk ["A.cs:1 A.M"] ((methods {} goneSolution [] (some 1)).runOn goneDesk).2 ∧
      ((methods {} goneSolution [] (some 1)).runOn goneDesk).1 = .ok () ∧
      (methods {} goneSolution [] (some 2)).runOn goneDesk =
        (methods {} goneSolution [] none).runOn goneDesk := by
  obtain ⟨-, hprints, hends, -, -, hplain, -⟩ := methods_limit {} goneSolution [] goneDesk 1
  obtain ⟨-, -, -, hsame, -⟩ := methods_limit {} goneSolution [] goneDesk 2
  have hroles : ∀ role ∈ ({} : Settings).probe.identifierFields, ∃ name, role = .plain name :=
    List.forall_mem_singleton.mpr ⟨"name", rfl⟩
  rw [← hplain hroles, methodLines_goneDesk] at hends hsame
  rw [methodLines_goneDesk] at hprints
  exact ⟨methodLines_goneDesk, hprints, hends (by decide), hsame (by decide)⟩

/-- A listing whose limit is not beyond the lines of the listing without one may fail. -/
theorem not_methods_limit :
    ¬ ∀ (settings : Settings) (sol : Solution) (names : List String) (d : Desk) (most : ℕ),
      1 ≤ most → most ≤ (methodLines settings sol names d).length →
        ((methods settings sol names (some most)).runOn d).1 = .ok () := by
  intro hall
  have hlines : 2 ≤ (methodLines {} goneSolution [] goneDesk).length := by
    rw [methodLines_goneDesk]
    decide
  have hfails : ((methods {} goneSolution [] (some 2)).runOn goneDesk).1.isOk = false := by decide +kernel
  have hends : ((methods {} goneSolution [] (some 2)).runOn goneDesk).1 = .ok () :=
    hall {} goneSolution [] goneDesk 2 (by decide) hlines
  rw [hends] at hfails
  exact absurd hfails (by decide)

end Session

end SolutionSurvey
