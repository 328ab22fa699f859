import SolutionSurvey.Command.Session

/-!
# Journals without files

A journal whose outputs are streams writes the same whatever the file tree is, and leaves the tree as it is.

## Main definitions

* `Outlets.onSite`, `Desk.onSite` — the same with another file tree.
* `Journal.WritesNoFile` — a journal does not write to files.
* `Desk.onSite_note` — notes are written the same with another file tree.
-/

namespace SolutionSurvey

namespace Outlets

/-- The same texts with another file tree. -/
def onSite (o : Outlets) (s : Site) : Outlets :=
  { o with site := s }

end Outlets

namespace Journal

/-- No output of a journal is a file. -/
def WritesNoFile (j : Journal) : Prop :=
  ∀ h ∈ j.handlers, h.destination.file? = none

theorem line_onSite {destination : Destination} (h : destination.file? = none) (line : String) (o : Outlets)
    (s : Site) : (o.onSite s).line destination line = (o.line destination line).onSite s := by
  cases destination with
  | file p => cases h
  | _ => rfl

theorem emit_onSite {h : Handler} (hfile : h.destination.file? = none) (stamp : String) (n : Note)
    (o : Outlets) (s : Site) : emit stamp n (o.onSite s) h = (emit stamp n o h).onSite s := by
  rw [emit, emit]
  cases written h stamp n with
  | ok line => exact line_onSite hfile line o s
  | error f => exact line_onSite rfl _ o s

/-- All outputs that write a note are outputs of the journal. -/
theorem forall_mem_receivers {j : Journal} {p : Handler → Prop} (h : ∀ out ∈ j.handlers, p out) (n : Note) :
    ∀ out ∈ j.receivers n, p out :=
  fun out hout => h out (mem_receivers_iff.mp hout).1

theorem deliver_onSite {j : Journal} (hj : j.WritesNoFile) (stamp bare : String) (n : Note) (o : Outlets)
    (s : Site) : j.deliver stamp bare n (o.onSite s) = (j.deliver stamp bare n o).onSite s := by
  have hfold (hs : List Handler) (hfiles : ∀ h ∈ hs, h.destination.file? = none) (o : Outlets) :
      hs.foldl (emit stamp n) (o.onSite s) = (hs.foldl (emit stamp n) o).onSite s := by
    induction hs generalizing o with
    | nil => rfl
    | cons h rest ih =>
        obtain ⟨hfirst, hrest⟩ := List.forall_mem_cons.mp hfiles
        rw [List.foldl_cons, List.foldl_cons, emit_onSite hfirst, ih hrest]
  rw [deliver, deliver]
  split
  · split <;> rfl
  · exact hfold _ (forall_mem_receivers hj n) o

theorem record_onSite {j : Journal} (hj : j.WritesNoFile) (stamp : String) (e : Event) (o : Outlets)
    (s : Site) :
    j.record stamp e (o.onSite s) = (j.record stamp e o).onSite s := by
  simp only [record, write]
  by_cases hset : j.level.isNone
  · simp only [if_pos hset]
    cases wideForm stamp (.ofEvent e) <;> rfl
  · simp only [if_neg hset]
    exact deliver_onSite hj stamp _ _ o s

end Journal

namespace Desk

/-- The same desk with another file tree. -/
def onSite (d : Desk) (s : Site) : Desk :=
  { d with outlets := d.outlets.onSite s }

/-- **Notes of a journal without files are written the same** with another file tree. -/
theorem onSite_note {d : Desk} (hd : d.journal.WritesNoFile) (events : List Event) (s : Site) :
    (d.onSite s).note events = (d.note events).onSite s := by
  have hfold (es : List Event) (o : Outlets) :
      es.foldl (fun o e => d.journal.record d.stamp e o) (o.onSite s) =
        (es.foldl (fun o e => d.journal.record d.stamp e o) o).onSite s := by
    induction es generalizing o with
    | nil => rfl
    | cons e rest ih => rw [List.foldl_cons, List.foldl_cons, Journal.record_onSite hd, ih]
  simp only [note, onSite, hfold]

/-- Notes of a journal without files leave the file tree as it is. -/
theorem site_note {d : Desk} (hd : d.journal.WritesNoFile) (events : List Event) :
    (d.note events).outlets.site = d.outlets.site := by
  have hsame : d.onSite d.outlets.site = d := rfl
  have hnote := onSite_note hd events d.outlets.site
  rw [hsame] at hnote
  rw [hnote]
  rfl

end Desk

end SolutionSurvey
