import SolutionSurvey.Journal.Logger
import SolutionSurvey.Proofs.Files.Change
import SolutionSurvey.Proofs.Files.Written
import SolutionSurvey.Proofs.Journal.Setup
import SolutionSurvey.Proofs.Journal.Streams

/-!
# Levels of outputs

After a good set-up, a call writes a note to an output exactly if the note reaches both the level of the
journal and the level of the output. So an output with a level of its own below that of the journal does not
get all the notes that its level asks for, and only then.

## Main definitions

* `Spot`, `Destination.spot` — where a destination is.
* `Outlets.Gains` — the lines by which two outlets differ at a spot.
* `Outlets.Writes` — the same for all spots.
* `LoggingSettings.ownRank`, `LoggingSettings.leastRank` — from which rank on an output should get the notes,
  and from which rank on it gets them.
* `Journal.call_gains` — what a call writes to each output.
-/

namespace SolutionSurvey

/-! ## Spots -/

/-- Where things are written: to a stream, or to the file at some segments from the root. -/
inductive Spot where
  | out
  | err
  | file (segments : List String)
  deriving DecidableEq

/-- Where a destination is, for a current directory. -/
def Destination.spot (here : FilePath) : Destination → Spot
  | .stdout => .out
  | .stderr => .err
  | .file p => .file (p.normalize here).inTree.segments

namespace Outlets

variable {o o' o'' : Outlets}

/-- Whether outlets have a spot: the streams always, a file if it is there. -/
def Has (o : Outlets) : Spot → Prop
  | .file segments => ∃ content, o.site.tree.HasFile segments content
  | _ => True

/-- Other outlets have some lines more at a spot, and nothing else there. -/
def Gains (o o' : Outlets) (lines : List String) : Spot → Prop
  | .out => o'.out = o.out ++ String.join (lines.map (· ++ "\n"))
  | .err => o'.err = o.err ++ String.join (lines.map (· ++ "\n"))
  | .file segments => ∃ old, o.site.tree.HasFile segments old ∧
      o'.site.tree.HasFile segments (old ++ lines.flatMap fun line => (line ++ "\n").toUTF8.toList)

theorem Gains.has {lines : List String} {spot : Spot} (h : o.Gains o' lines spot) : o'.Has spot := by
  cases spot with
  | file segments =>
      obtain ⟨old, -, hnew⟩ := h
      exact ⟨_, hnew⟩
  | _ => trivial

theorem gains_nil {spot : Spot} (h : o.Has spot) : o.Gains o [] spot := by
  cases spot with
  | file segments =>
      obtain ⟨old, hold⟩ := h
      exact ⟨old, hold, by simpa using hold⟩
  | _ => simp [Gains]

theorem Gains.append {first second : List String} {spot : Spot} (h : o.Gains o' first spot)
    (h' : o'.Gains o'' second spot) : o.Gains o'' (first ++ second) spot := by
  cases spot with
  | file segments =>
      obtain ⟨old, hold, hfirst⟩ := h
      obtain ⟨old', hold', hsecond⟩ := h'
      refine ⟨old, hold, ?_⟩
      rw [List.flatMap_append, ← List.append_assoc, hfirst.unique hold']
      exact hsecond
  | out => simp only [Gains] at *; rw [h', h, List.map_append, String.join_append, String.append_assoc]
  | err => simp only [Gains] at *; rw [h', h, List.map_append, String.join_append, String.append_assoc]

/-- Other outlets have some lines more at each spot that was there, and the same current directory. -/
structure Writes (o o' : Outlets) (lines : Spot → List String) : Prop where
  here : o'.site.here = o.site.here
  gains : ∀ spot, o.Has spot → o.Gains o' (lines spot) spot

theorem Writes.nothing (o : Outlets) : o.Writes o fun _ => [] :=
  ⟨rfl, fun _ => gains_nil⟩

theorem Writes.append {first second : Spot → List String} (h : o.Writes o' first) (h' : o'.Writes o'' second) :
    o.Writes o'' fun spot => first spot ++ second spot where
  here := h'.here.trans h.here
  gains spot hspot :=
    have hfirst := h.gains spot hspot
    hfirst.append (h'.gains spot hfirst.has)

/-- A line at a spot, and none at the others. -/
def single (at_ : Spot) (line : String) (spot : Spot) : List String :=
  if at_ = spot then [line] else []

/-- A line is written to its destination and nowhere else. -/
theorem writes_line {d : Destination} (h : o.Has (d.spot o.site.here)) (line : String) :
    o.Writes (o.line d line) (single (d.spot o.site.here) line) := by
  cases d with
  | stdout =>
      refine ⟨rfl, fun spot hspot => ?_⟩
      cases spot with
      | out => simp [Gains, Destination.spot, single, Outlets.line, print]
      | err => simp [Gains, Destination.spot, single, Outlets.line, print]
      | file segments => exact gains_nil hspot
  | stderr =>
      refine ⟨rfl, fun spot hspot => ?_⟩
      cases spot with
      | out => simp [Gains, Destination.spot, single, Outlets.line, complain]
      | err => simp [Gains, Destination.spot, single, Outlets.line, complain]
      | file segments => exact gains_nil hspot
  | file p =>
      obtain ⟨old, hold⟩ := h
      obtain ⟨tree, happend, hnew, hkeeps⟩ := FileTree.append_of_hasFile hold (line ++ "\n").toUTF8.toList
      have hline : o.line (.file p) line = { o with site.tree := tree } := by
        rw [Outlets.line, append, place, happend]
      rw [hline]
      refine ⟨rfl, fun spot hspot => ?_⟩
      cases spot with
      | out => simp [Gains, single, Destination.spot]
      | err => simp [Gains, single, Destination.spot]
      | file segments =>
          rw [single, Destination.spot]
          by_cases hsegments : segments = (p.normalize o.site.here).inTree.segments
          · subst hsegments
            rw [if_pos rfl]
            exact ⟨old, hold, by simpa using hnew⟩
          · rw [if_neg fun heq => hsegments (Spot.file.inj heq).symm]
            obtain ⟨content, hcontent⟩ := hspot
            exact ⟨content, hcontent, by simpa using hkeeps segments hsegments content hcontent⟩

/-- After the directories above a file were made, everything that was there before still is. -/
theorem openAbove_eq_ok {p : WordedPath} (h : o.openAbove p = .ok o') :
    o'.site.here = o.site.here ∧ ∀ spot, o.Has spot → o'.Has spot := by
  simp only [openAbove] at h
  split at h
  · cases h
  · split at h
    · next tree hdirs =>
      cases h
      refine ⟨rfl, fun spot hspot => ?_⟩
      cases spot with
      | file segments =>
          obtain ⟨content, hcontent⟩ := hspot
          exact ⟨content, FileTree.keeps_makeDirs hdirs segments content hcontent⟩
      | _ => trivial
    · cases h

/-- After a file was made in its directory, it is there, and what was there before still is. -/
theorem openName_eq_ok {p : WordedPath} (h : o.openName p = .ok o') :
    o'.site.here = o.site.here ∧ o'.Has ((Destination.file p).spot o.site.here) ∧
      ∀ spot, o.Has spot → o'.Has spot := by
  simp only [openName, place] at h
  split at h
  · cases h
  · split at h
    · next tree happend =>
      cases h
      have hstraight : FileTree.Straight (p.normalize o.site.here).inTree.segments := fun s hs =>
        (WordedPath.isName_of_mem_normalize hs).2
      obtain ⟨hfile, hkeeps⟩ := FileTree.append_eq_ok hstraight happend
      refine ⟨rfl, hfile, fun spot hspot => ?_⟩
      cases spot with
      | file segments =>
          obtain ⟨content, hcontent⟩ := hspot
          by_cases hsegments : segments = (p.normalize o.site.here).inTree.segments
          · exact hsegments ▸ hfile
          · exact ⟨content, hkeeps segments hsegments content hcontent⟩
      | _ => trivial
    · cases h

theorem openFile_eq_ok {p : WordedPath} (h : o.openFile p = .ok o') :
    o'.site.here = o.site.here ∧ o'.Has ((Destination.file p).spot o.site.here) ∧
      ∀ spot, o.Has spot → o'.Has spot := by
  obtain ⟨above, habove, hname⟩ := bind_eq_ok.mp h
  obtain ⟨hhere, hkept⟩ := openAbove_eq_ok habove
  obtain ⟨hhere', hhas, hkept'⟩ := openName_eq_ok hname
  rw [hhere] at hhere' hhas
  exact ⟨hhere', hhas, fun spot hspot => hkept' spot (hkept spot hspot)⟩

/-- After the files of some outputs were opened, all of the outputs have their spots. -/
theorem has_of_open {outs : List LogOutput} (h : outs.foldlM openOutput o = .ok o') :
    o'.site.here = o.site.here ∧ (∀ out ∈ outs, o'.Has (out.destination.spot o.site.here)) ∧
      ∀ spot, o.Has spot → o'.Has spot := by
  induction outs generalizing o with
  | nil =>
      cases h
      exact ⟨rfl, nofun, fun _ => id⟩
  | cons out rest ih =>
      rw [List.foldlM_cons] at h
      obtain ⟨o₁, hout, hrest⟩ := bind_eq_ok.mp h
      have hstep : o₁.site.here = o.site.here ∧ o₁.Has (out.destination.spot o.site.here) ∧
          ∀ spot, o.Has spot → o₁.Has spot := by
        rw [openOutput, LogOutput.file?] at hout
        cases hdestination : out.destination with
        | file p =>
            rw [hdestination] at hout
            exact openFile_eq_ok hout
        | _ =>
            rw [hdestination] at hout
            cases hout
            exact ⟨rfl, trivial, fun _ => id⟩
      obtain ⟨hhere, hfirst, hkept⟩ := hstep
      obtain ⟨hhere', hall, hkept'⟩ := ih hrest
      rw [hhere] at hhere' hall
      exact ⟨hhere', List.forall_mem_cons.mpr ⟨hkept' _ hfirst, hall⟩, fun spot hspot =>
        hkept' spot (hkept spot hspot)⟩

end Outlets

/-! ## Notes -/

namespace Journal

variable {j : Journal} {o o' : Outlets} {n : Note} {stamp : String} {here : FilePath}

/-- The lines of a note that some outputs write to a spot: its written form where they write, or a report on
the error output if it has none. -/
def linesAt (here : FilePath) (stamp : String) (n : Note) (hs : List Handler) (spot : Spot) : List String :=
  hs.flatMap fun h =>
    match written h stamp n with
    | .ok line => Outlets.single (h.destination.spot here) line spot
    | .error f => Outlets.single .err (unwrittenReport f) spot

theorem writes_emit (stamp : String) (n : Note) {h : Handler} (hspot : o.Has (h.destination.spot o.site.here)) :
    o.Writes (emit stamp n o h) (linesAt o.site.here stamp n [h]) := by
  unfold linesAt
  simp only [List.flatMap_singleton, emit]
  cases written h stamp n with
  | ok line => exact Outlets.writes_line hspot line
  | error f => exact Outlets.writes_line (d := .stderr) trivial (unwrittenReport f)

theorem writes_emits {hs : List Handler} (hhere : o.site.here = here)
    (hspots : ∀ h ∈ hs, o.Has (h.destination.spot here)) :
    o.Writes (hs.foldl (emit stamp n) o) (linesAt here stamp n hs) := by
  induction hs generalizing o with
  | nil => exact .nothing o
  | cons h rest ih =>
      obtain ⟨hspot, hrest⟩ := List.forall_mem_cons.mp hspots
      subst hhere
      have hfirst := writes_emit stamp n hspot
      have hlater := ih hfirst.here fun h' hh' => (hfirst.gains _ (hrest h' hh')).has
      have hlines : linesAt o.site.here stamp n (h :: rest) = fun spot =>
          linesAt o.site.here stamp n [h] spot ++ linesAt o.site.here stamp n rest spot := by
        funext spot
        simp only [linesAt, List.flatMap_cons, List.flatMap_nil, List.append_nil]
      rw [hlines]
      exact hfirst.append hlater

/-- The current directory is the given one, and all outputs of a journal have their spots. -/
structure Ready (j : Journal) (here : FilePath) (o : Outlets) : Prop where
  directory : o.site.here = here
  spots : ∀ h ∈ j.handlers, o.Has (h.destination.spot here)

theorem Ready.of_writes {lines : Spot → List String} (h : j.Ready here o) (hwrites : o.Writes o' lines) :
    j.Ready here o' :=
  ⟨hwrites.here.trans h.directory, fun handler hmem => (hwrites.gains _ (h.spots handler hmem)).has⟩

/-- A note is written by the outputs that take it. -/
theorem writes_deliver (h : j.Ready here o) (hsome : j.handlers ≠ []) (bare : String) :
    o.Writes (j.deliver stamp bare n o) (linesAt here stamp n (j.receivers n)) := by
  rw [deliver, if_neg (by simpa using hsome)]
  exact writes_emits h.directory (forall_mem_receivers h.spots n)

/-- Without outputs, a note is at most written to the error output. -/
theorem Ready.deliver (h : j.Ready here o) (bare : String) : j.Ready here (j.deliver stamp bare n o) := by
  by_cases hsome : j.handlers = []
  · rw [Journal.deliver, if_pos (by simpa using hsome)]
    split
    · exact h.of_writes (Outlets.writes_line (d := .stderr) trivial bare)
    · exact h
  · exact h.of_writes (writes_deliver h hsome bare)

/-! ### Calls -/

theorem call_of_none {c : LogCall} (h : j.noteOf c = .ok none) : j.call stamp c o = .ok o := by
  rw [call, h]
  rfl

theorem call_of_note (hset : j.level.isSome) {c : LogCall} (h : j.noteOf c = .ok (some n)) :
    j.call stamp c o = .ok (j.deliver stamp (n.toLiteral stamp) n o) := by
  have hlevel : ¬ j.level.isNone := by
    rw [Option.isNone_iff_eq_none]
    exact Option.isSome_iff_ne_none.mp hset
  rw [call, h]
  change j.write stamp n o = _
  rw [write, if_neg hlevel]

/-- What some calls leave, one after the other; each has its time. A call that is refused leaves nothing. -/
def callAll (j : Journal) (calls : List (String × LogCall)) (o : Outlets) : Outlets :=
  calls.foldl (fun o c => (j.call c.1 c.2 o).toOption.getD o) o

/-- After a call, the outputs of a journal that was set up have their spots. -/
theorem Ready.call (h : j.Ready here o) (hset : j.level.isSome) (c : String × LogCall) :
    j.Ready here ((j.call c.1 c.2 o).toOption.getD o) := by
  cases hnote : j.noteOf c.2 with
  | error f =>
      rw [Journal.call, hnote]
      exact h
  | ok taken =>
      cases taken with
      | none =>
          rw [call_of_none hnote]
          exact h
      | some n =>
          rw [call_of_note hset hnote]
          exact h.deliver _

theorem Ready.callAll (h : j.Ready here o) (hset : j.level.isSome) (calls : List (String × LogCall)) :
    j.Ready here (j.callAll calls o) := by
  induction calls generalizing o with
  | nil => exact h
  | cons c rest ih => exact ih (h.call hset c)

/-! ### Levels -/

theorem accept_eq_ok {callee : String} {taken : List String} {fields : List (String × Value)} :
    LogCall.accept callee taken fields = .ok () ↔ fields.find? (fun f => taken.contains f.1) = none := by
  rw [LogCall.accept]
  cases fields.find? fun f => taken.contains f.1 <;> simp

/-- Who is called makes no difference to what is accepted. -/
theorem accept_congr {callee callee' : String} {taken : List String} {fields : List (String × Value)}
    (h : LogCall.accept callee taken fields = .ok ()) : LogCall.accept callee' taken fields = .ok () :=
  accept_eq_ok.mpr (accept_eq_ok.mp h)

theorem rank_of_takeNote {c : LogCall} {l : Level} {event : Value} {fields : List (String × Value)}
    (h : takeNote c l event fields = .ok (some n)) : n.rank = l.number := by
  obtain ⟨-, -, hn⟩ := bind_eq_ok.mp h
  cases hn
  rfl

/-- Before the journal is set up, all notes are taken. -/
theorem leastRank_empty : ({} : Journal).leastRank = 0 :=
  rfl

/-- A note of a level is taken if the level is not below that of the journal. -/
theorem noteAt_of_all {c : LogCall} {l : Level} {fields : List (String × Value)}
    (h : ({} : Journal).noteAt c l fields = .ok (some n)) (j : Journal) :
    j.noteAt c l fields = .ok (if n.rank < j.leastRank then none else some n) := by
  rw [noteAt, leastRank_empty, if_neg (Nat.not_lt_zero _)] at h
  obtain ⟨⟨⟩, haccept, htake⟩ := bind_eq_ok.mp h
  rw [noteAt, rank_of_takeNote htake]
  split
  · exact bind_eq_ok.mpr ⟨(), accept_congr haccept, rfl⟩
  · exact bind_eq_ok.mpr ⟨(), haccept, htake⟩

theorem number_of_ofNumber? {rank : ℕ} {l : Level} (h : Level.ofNumber? rank = some l) : l.number = rank := by
  simpa using List.find?_some h

theorem noteRanked_of_all {c : LogCall} (h : ({} : Journal).noteRanked c = .ok (some n)) (j : Journal) :
    j.noteRanked c = .ok (if n.rank < j.leastRank then none else some n) := by
  obtain ⟨⟨⟩, haccept, hrest⟩ := bind_eq_ok.mp h
  refine bind_eq_ok.mpr ⟨(), haccept, ?_⟩
  split at hrest
  · cases hrest
  · split at hrest
    · cases hrest
    · cases hrest
    · next rank hrank =>
      split at hrest
      · cases hrest
      · next hzero =>
        split at hrest
        · next l hl =>
          have hsame : n.rank = rank.toNat := (rank_of_takeNote hrest).trans (number_of_ofNumber? hl)
          rw [leastRank_empty, Int.ofNat_eq_natCast] at hzero
          have hleast : rank < Int.ofNat j.leastRank ↔ n.rank < j.leastRank := by
            rw [hsame, Int.ofNat_eq_natCast]
            omega
          simp only [hleast, hrest]
          split <;> rfl
        · cases hrest

/-- A note is taken if it reaches the level of the journal. -/
theorem noteOf_of_all {c : LogCall} (h : ({} : Journal).noteOf c = .ok (some n)) (j : Journal) :
    j.noteOf c = .ok (if n.rank < j.leastRank then none else some n) := by
  rw [noteOf] at h ⊢
  cases hmethod : LogMethod.ofName? c.method with
  | none => rw [hmethod] at h; cases h
  | some m =>
      rw [hmethod] at h
      cases m with
      | level l => exact noteAt_of_all h j
      | ranked => exact noteRanked_of_all h j
      | exception =>
          obtain ⟨⟨⟩, haccept, hrest⟩ := bind_eq_ok.mp h
          exact bind_eq_ok.mpr ⟨(), haccept, noteAt_of_all hrest j⟩

end Journal

/-- The rank from which on an output asks for notes: its own level, or else that of the journal. -/
def LoggingSettings.ownRank (settings : LoggingSettings) (out : LogOutput) : ℕ :=
  (out.level.getD settings.level).number

/-- The rank from which on an output gets notes. -/
def LoggingSettings.leastRank (settings : LoggingSettings) (out : LogOutput) : ℕ :=
  max settings.level.number (settings.ownRank out)

/-- The lines of a note at a spot, if each output writes the notes from some rank on. -/
def LoggingSettings.linesFrom (settings : LoggingSettings) (least : LogOutput → ℕ) (here : FilePath)
    (stamp : String) (n : Note) : Spot → List String :=
  Journal.linesAt here stamp n
    ((settings.outputs.filter fun out => decide (least out ≤ n.rank)).map (Journal.handlerOf settings.level))

namespace Journal

variable {settings : LoggingSettings} {j j₀ : Journal} {o o' : Outlets} {n : Note} {stamp : String}
  {here : FilePath}

/-- What a good set-up leaves. -/
theorem ready_of_configure (h : configure settings o j₀ = (.ok (), j, o')) :
    j.level = some settings.level ∧ j.handlers = settings.outputs.map (handlerOf settings.level) ∧
      j.Ready o.site.here o' := by
  obtain ⟨reached, hall, heq⟩ | ⟨before, out, after, reached, f, -, -, -, heq⟩ :=
    attachAll_cases settings.level settings.outputs (j₀.cleared settings.level) o
  · obtain ⟨hhere, hspots, -⟩ := Outlets.has_of_open hall
    rw [configure, heq] at h
    cases h
    refine ⟨rfl, rfl, hhere, fun handler hhandler => ?_⟩
    obtain ⟨out, hout, rfl⟩ := List.mem_map.mp hhandler
    exact hspots out hout
  · rw [configure, heq] at h
    cases h

/-- The outputs that take a note are those whose own level and the level of the journal it reaches. -/
theorem receivers_eq (hlevel : j.level = some settings.level)
    (hhandlers : j.handlers = settings.outputs.map (handlerOf settings.level)) :
    j.receivers n = (settings.outputs.filter fun out => decide (settings.leastRank out ≤ n.rank)).map
      (handlerOf settings.level) := by
  have hthreshold : j.threshold = settings.level := by rw [threshold, hlevel, Option.getD_some]
  rw [receivers, hthreshold, hhandlers]
  split
  · next hreached =>
    rw [List.filter_map]
    congr 1
    refine List.filter_congr fun out _ => decide_eq_decide.mpr ?_
    change settings.ownRank out ≤ n.rank ↔ max settings.level.number (settings.ownRank out) ≤ n.rank
    rw [Nat.max_le]
    exact ⟨fun hown => ⟨hreached, hown⟩, And.right⟩
  · next hbelow =>
    rw [List.filter_eq_nil_iff.mpr, List.map_nil]
    intro out _
    rw [decide_eq_true_eq]
    exact fun hleast => hbelow (Nat.max_le.mp hleast).1

/-- **What a call writes to each output.** After a good set-up and any calls, a call that takes a note when
all levels pass is accepted, and at the spot of each output it writes exactly the lines of those outputs
there whose own level and the level of the journal the note reaches. These are the outputs whose own level
it reaches, if no output has a level of its own below that of the journal. -/
theorem call_gains (hset : configure settings o j₀ = (.ok (), j, o')) (earlier : List (String × LogCall))
    (stamp : String) {c : LogCall} (hnote : ({} : Journal).noteOf c = .ok (some n)) :
    ∃ o'', j.call stamp c (j.callAll earlier o') = .ok o'' ∧
      (∀ out ∈ settings.outputs, (j.callAll earlier o').Gains o''
        (settings.linesFrom settings.leastRank o.site.here stamp n (out.destination.spot o.site.here))
        (out.destination.spot o.site.here)) ∧
      ((∀ out ∈ settings.outputs, settings.level.number ≤ settings.ownRank out) →
        settings.linesFrom settings.leastRank o.site.here stamp n =
          settings.linesFrom settings.ownRank o.site.here stamp n) := by
  obtain ⟨hlevel, hhandlers, hready⟩ := ready_of_configure hset
  have hpresent : j.level.isSome := by rw [hlevel, Option.isSome_some]
  have hnow := hready.callAll hpresent earlier
  have hhas (out : LogOutput) (hout : out ∈ settings.outputs) :
      (j.callAll earlier o').Has (out.destination.spot o.site.here) :=
    hnow.spots (handlerOf settings.level out) (hhandlers ▸ List.mem_map_of_mem hout)
  have htaken := noteOf_of_all hnote j
  have hleast : j.leastRank = settings.level.number := by rw [Journal.leastRank, hlevel]; rfl
  have hsame : (∀ out ∈ settings.outputs, settings.level.number ≤ settings.ownRank out) →
      settings.linesFrom settings.leastRank o.site.here stamp n =
        settings.linesFrom settings.ownRank o.site.here stamp n := by
    intro hnone
    rw [LoggingSettings.linesFrom, LoggingSettings.linesFrom]
    congr 2
    refine List.filter_congr fun out hout => ?_
    rw [LoggingSettings.leastRank, Nat.max_eq_right (hnone out hout)]
  by_cases hbelow : n.rank < j.leastRank
  · rw [if_pos hbelow] at htaken
    refine ⟨_, call_of_none htaken, fun out hout => ?_, hsame⟩
    have hempty : j.receivers n = [] := by
      rw [receivers, if_neg]
      rw [threshold, hlevel, Option.getD_some]
      omega
    rw [LoggingSettings.linesFrom, ← receivers_eq hlevel hhandlers, hempty]
    exact Outlets.gains_nil (hhas out hout)
  · rw [if_neg hbelow] at htaken
    refine ⟨_, call_of_note hpresent htaken, fun out hout => ?_, hsame⟩
    have hsome : j.handlers ≠ [] := by
      rw [hhandlers]
      exact fun hnil => List.not_mem_nil (List.map_eq_nil_iff.mp hnil ▸ hout)
    rw [LoggingSettings.linesFrom, ← receivers_eq hlevel hhandlers]
    exact (writes_deliver hnow hsome _).gains _ (hhas out hout)

/-! ### An output below the level of the journal -/

/-- A site with a directory and nothing in it. -/
def emptySite : Site where
  tree := .dir [("w", .dir [])]
  here := ⟨1, ["w"]⟩
  home := ⟨1, ["w"]⟩

/-- A journal of warnings, with an output that asks for all notes and a file that asks for errors. -/
def unevenSettings : LoggingSettings where
  level := .warning
  outputs := [{ format := .json, destination := .stdout, level := some .debug },
    { format := .json, destination := .file ⟨1, ["w", "j.log"]⟩, level := some .error }]

/-- What setting it up leaves. -/
def unevenSetUp : SetUp :=
  setUp unevenSettings {} { site := emptySite }

/-- A call that takes a note of a level. -/
def remark (l : Level) : LogCall :=
  ⟨l.name, .null, .text "x", []⟩

theorem noteOf_remark (l : Level) : ({} : Journal).noteOf (remark l) = .ok (some (.make .null l (.text "x") [])) := by
  cases l <;> rfl

theorem configure_unevenSettings :
    configure unevenSettings { site := emptySite } = (.ok (), unevenSetUp.journal, unevenSetUp.left) :=
  rfl

/-- After a remark that is lost, a warning is written to the standard output and not to the file. -/
theorem call_gains_warning :
    configure unevenSettings { site := emptySite } = (.ok (), unevenSetUp.journal, unevenSetUp.left) ∧
      ({} : Journal).noteOf (remark .warning) = .ok (some (.make .null .warning (.text "x") [])) ∧
      ∃ o, unevenSetUp.journal.call "T" (remark .warning)
          (unevenSetUp.journal.callAll [("T", remark .debug)] unevenSetUp.left) = .ok o ∧
        (unevenSetUp.journal.callAll [("T", remark .debug)] unevenSetUp.left).Gains o
          ["\x7b\"event\": \"x\", \"level\": \"warning\", \"timestamp\": \"T\"\x7d"] .out ∧
        (unevenSetUp.journal.callAll [("T", remark .debug)] unevenSetUp.left).Gains o []
          (.file ["w", "j.log"]) := by
  obtain ⟨o, hcall, hgains, -⟩ :=
    call_gains configure_unevenSettings [("T", remark .debug)] "T"
      (noteOf_remark .warning)
  have hout := hgains _ List.mem_cons_self
  have hfile := hgains _ (List.mem_cons_of_mem _ List.mem_cons_self)
  have hlines : unevenSettings.linesFrom unevenSettings.leastRank emptySite.here "T"
      (.make .null .warning (.text "x") []) .out =
        ["\x7b\"event\": \"x\", \"level\": \"warning\", \"timestamp\": \"T\"\x7d"] := by
    decide +kernel
  have hnone : unevenSettings.linesFrom unevenSettings.leastRank emptySite.here "T"
      (.make .null .warning (.text "x") []) (.file ["w", "j.log"]) = [] := by
    decide +kernel
  exact ⟨configure_unevenSettings, noteOf_remark .warning, o, hcall, hlines ▸ hout, hnone ▸ hfile⟩

/-- Not every output gets all notes that its own level asks for. -/
theorem not_call_gains_ownRank :
    ¬ ∀ (settings : LoggingSettings) (j₀ j : Journal) (o o' o'' : Outlets) (stamp : String) (c : LogCall)
      (n : Note), configure settings o j₀ = (.ok (), j, o') → ({} : Journal).noteOf c = .ok (some n) →
        j.call stamp c o' = .ok o'' → ∀ out ∈ settings.outputs, o'.Gains o''
          (settings.linesFrom settings.ownRank o.site.here stamp n (out.destination.spot o.site.here))
          (out.destination.spot o.site.here) := by
  intro hall
  have hlost : unevenSetUp.left.out = unevenSetUp.left.out ++ String.join ((unevenSettings.linesFrom
      unevenSettings.ownRank emptySite.here "T" (.make .null .debug (.text "x") []) .out).map (· ++ "\n")) :=
    hall unevenSettings {} _ _ _ _ "T" (remark .debug) _ configure_unevenSettings (noteOf_remark .debug) rfl _
      List.mem_cons_self
  exact absurd hlost (by decide +kernel)

end Journal

end SolutionSurvey
