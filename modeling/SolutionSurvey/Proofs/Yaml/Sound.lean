import SolutionSurvey.Proofs.Outcome
import SolutionSurvey.Proofs.Value.Cells
import SolutionSurvey.Yaml.Document

/-!
# Values read from YAML

What is read from a file is made of scalars and of collections that refer to what else was made: so no mapping
in it has a key twice, at any depth, and whatever comes again inside it is around that place.

## Main definitions

* `Yaml.Builder.Simple` — only scalars are outside the cells of the values so far.
* `Yaml.Keeps` — computations that keep the values so far simple.
* `Yaml.tidy_of_read`, `Yaml.contained_of_read` — what is known of the value of a file.
-/

namespace SolutionSurvey

namespace Yaml

open Value

/-! ## Scalars -/

theorem isLeaf_of_readBool {s : Wording} {v : Value} (h : readBool s = .ok v) : IsLeaf v := by
  rw [readBool] at h
  split at h
  · cases h
    trivial
  · cases h

theorem isLeaf_of_readInt {s : Wording} {v : Value} (h : readInt s = .ok v) : IsLeaf v := by
  have hint {n : Int} (h : (pure (.int n) : Except Failure Value) = .ok v) : IsLeaf v := by
    cases h
    trivial
  simp only [readInt] at h
  split at h
  · cases h
  · split at h
    case h_6 =>
      split at h <;> obtain ⟨n, -, h⟩ := bind_eq_ok.mp h <;> exact hint h
    all_goals
      obtain ⟨n, -, h⟩ := bind_eq_ok.mp h
      exact hint h

theorem isLeaf_of_readFloat {s : Wording} {v : Value} (h : readFloat s = .ok v) : IsLeaf v := by
  have hfloat {x : Double} (h : (pure (.float x) : Except Failure Value) = .ok v) : IsLeaf v := by
    cases h
    trivial
  simp only [readFloat] at h
  split at h
  · cases h
  · split at h
    · obtain ⟨x, -, h⟩ := bind_eq_ok.mp h
      exact hfloat h
    · split at h
      · obtain ⟨x, -, h⟩ := bind_eq_ok.mp h
        exact hfloat h
      · split at h
        · obtain ⟨parts, -, h⟩ := bind_eq_ok.mp h
          obtain ⟨x, -, h⟩ := bind_eq_ok.mp h
          exact hfloat h
        · obtain ⟨x, -, h⟩ := bind_eq_ok.mp h
          exact hfloat h

theorem isLeaf_of_readBinary {s : Wording} {place : Mark} {v : Value} (h : readBinary s place = .ok v) :
    IsLeaf v := by
  rw [readBinary] at h
  split at h
  · cases h
  · split at h
    · cases h
      trivial
    · cases h

theorem isLeaf_of_readTime {cs : List Char} {v : Value} (h : readTime cs = .ok v) : IsLeaf v := by
  simp only [readTime] at h
  split at h
  · cases h
  · split at h
    · obtain ⟨-, -, h⟩ := bind_eq_ok.mp h
      cases h
      trivial
    · -- The offset is either not written or read first.
      split at h
      all_goals
        obtain ⟨offset, -, h⟩ := bind_eq_ok.mp h
        obtain ⟨-, -, h⟩ := bind_eq_ok.mp h
        obtain ⟨-, -, h⟩ := bind_eq_ok.mp h
        cases h
        trivial

/-- A scalar stands for a value without others inside. -/
theorem isLeaf_of_scalarValue {g : Graph} {number : ℕ} {v : Value} (h : g.scalarValue number = .ok v) :
    IsLeaf v := by
  have hother {r : Except Failure Value} (hr : ∀ w, r = .ok w → IsLeaf w)
      (h : r.mapError Fault.failure = .ok v) : IsLeaf v := by
    cases r with
    | error f => cases h
    | ok w =>
      cases h
      exact hr _ rfl
  simp only [Graph.scalarValue] at h
  obtain ⟨s, -, h⟩ := bind_eq_ok.mp h
  split at h
  · cases h
    trivial
  · exact hother (fun _ => isLeaf_of_readBool) h
  · exact hother (fun _ => isLeaf_of_readInt) h
  · exact hother (fun _ => isLeaf_of_readFloat) h
  · exact isLeaf_of_readBinary h
  · split at h
    · exact hother (fun _ => isLeaf_of_readTime) h
    · cases h
    · cases h
  · cases h
    exact Value.isLeaf_ofWording _

/-! ## Building -/

/-- The values so far are simple. -/
structure Builder.Simple (b : Builder) : Prop where
  known : ∀ r, some r ∈ b.known → r.Simple
  cells : ∀ c ∈ b.cells, c.Simple

/-- A computation keeps the values so far simple, and gives what has a property. -/
def Keeps {α : Type} (x : Build α) (p : α → Prop) : Prop :=
  ∀ b a b', b.Simple → x.run b = .ok (a, b') → p a ∧ b'.Simple

namespace Keeps

variable {α β : Type} {x : Build α} {f : α → Build β} {p : α → Prop} {q : β → Prop}

theorem pure {a : α} (h : p a) : Keeps (Pure.pure a) p := by
  intro b a' b' hb hrun
  cases hrun
  exact ⟨h, hb⟩

theorem throw {e : Fault} : Keeps (MonadExcept.throw e : Build α) p :=
  fun _ _ _ _ hrun => by cases hrun

theorem bind (hx : Keeps x p) (hf : ∀ a, p a → Keeps (f a) q) : Keeps (x >>= f) q := by
  intro b c b'' hb hrun
  rw [StateT.run_bind] at hrun
  obtain ⟨⟨a, b'⟩, hfirst, hsecond⟩ := bind_eq_ok.mp hrun
  obtain ⟨ha, hb'⟩ := hx b a b' hb hfirst
  exact hf a ha b' c b'' hb' hsecond

/-- Looking at the values so far. -/
theorem get : Keeps (MonadState.get : Build Builder) Builder.Simple := by
  intro b a b' hb hrun
  cases hrun
  exact ⟨hb, hb⟩

/-- Changing the values so far. -/
theorem change {g : Builder → Builder} (h : ∀ b, b.Simple → (g b).Simple) :
    Keeps (modify g) fun _ => True := by
  intro b a b' hb hrun
  cases hrun
  exact ⟨trivial, h b hb⟩

/-- A computation that does not look at the values so far. -/
theorem lift {y : Except Fault α} (h : ∀ a, y = .ok a → p a) : Keeps (liftM y) p := by
  intro b a b' hb hrun
  cases y with
  | error e => cases hrun
  | ok c =>
      cases hrun
      exact ⟨h a rfl, hb⟩

theorem mapM {part : α → Build β} {l : List α} (h : ∀ a ∈ l, Keeps (part a) q) :
    Keeps (l.mapM part) fun bs => ∀ b ∈ bs, q b := by
  induction l with
  | nil => exact pure nofun
  | cons a rest ih =>
      rw [List.mapM_cons]
      refine bind (h a List.mem_cons_self) fun b hb => ?_
      refine bind (ih fun c hc => h c (List.mem_cons_of_mem _ hc)) fun bs hbs => ?_
      exact pure (List.forall_mem_cons.mpr ⟨hb, hbs⟩)

end Keeps

theorem keeps_nodeAt (number : ℕ) : Keeps (nodeAt number) fun _ => True :=
  .bind .get fun _ _ => .pure trivial

theorem keeps_addCell {c : Cell} (h : c.Simple) : Keeps (addCell c) fun _ => True := by
  refine .bind .get fun b _ => ?_
  refine .bind (.change fun b hb => ⟨hb.known, fun d hd => ?_⟩) fun _ _ => .pure trivial
  rcases Array.mem_push.mp hd with hold | rfl
  · exact hb.cells d hold
  · exact h

/-- What a node stands for is remembered. -/
theorem keeps_remember (number : ℕ) {r : Ref} (h : r.Simple) :
    Keeps (do
      modify fun b => { b with known := b.known.setIfInBounds number (some r) }
      pure r) Ref.Simple := by
  refine .bind (.change fun b hb => ⟨fun r' hr' => ?_, hb.cells⟩) fun _ _ => .pure h
  rcases Array.mem_or_eq_of_mem_setIfInBounds hr' with hold | hnew
  · exact hb.known r' hold
  · rw [Option.some.inj hnew]
    exact h

/-- What a node stands for is simple. -/
theorem keeps_visit (number : ℕ) : Keeps (visit number) Ref.Simple := by
  rw [visit]
  refine .bind .get fun b hb => ?_
  split
  · next r hr => exact .pure (hb.known r (Array.mem_of_getElem? (Option.join_eq_some_iff.mp hr)))
  · refine .bind (keeps_nodeAt number) fun n _ => ?_
    extract_lets finish known
    have hknown : Keeps (known ()) Ref.Simple := by
      dsimp only [known]
      split
      · refine .bind (keeps_addCell nofun) fun cell _ => ?_
        exact .bind (.change fun b hb => ⟨hb.known, hb.cells⟩) fun _ _ => keeps_remember number trivial
      · refine .bind .get fun b _ => .bind (.lift fun v => isLeaf_of_scalarValue) fun v hv => ?_
        exact keeps_remember number hv
    split
    · exact .bind (p := fun _ => True) .throw fun _ _ => hknown
    · exact hknown

/-- What the entries of a mapping stand for is simple. -/
theorem keeps_visitEntries (start : Mark) (entries : List (ℕ × ℕ)) :
    Keeps (visitEntries start entries) fun writes => ∀ w ∈ writes, w.2.Simple := by
  induction entries with
  | nil => exact .pure nofun
  | cons e rest ih =>
      rw [visitEntries]
      refine .bind (keeps_visit e.1) fun key _ => ?_
      split
      · exact .bind (keeps_nodeAt e.1) fun _ _ => .throw
      · refine .bind (keeps_visit e.2) fun r hr => .bind ih fun writes hwrites => ?_
        exact .pure (List.forall_mem_cons.mpr ⟨hr, hwrites⟩)

theorem keeps_mappingEntries (number : ℕ) : Keeps (mappingEntries number) fun _ => True := by
  rw [mappingEntries]
  refine .bind (keeps_nodeAt number) fun n _ => ?_
  split
  · refine .bind .get fun b _ => .bind .get fun b' _ => .bind (.lift fun _ _ => trivial) fun g _ => ?_
    exact .bind (.change fun b hb => ⟨hb.known, hb.cells⟩) fun _ _ => .bind .get fun _ _ => .pure trivial
  · exact .throw

theorem keeps_visitPairs (activity : String) (start : Mark) (items : List ℕ) :
    Keeps (visitPairs activity start items) fun rs => ∀ r ∈ rs, r.Simple := by
  induction items with
  | nil => exact .pure nofun
  | cons i rest ih =>
      rw [visitPairs]
      refine .bind (keeps_nodeAt i) fun item _ => ?_
      split
      · refine .bind (keeps_visit _) fun key hkey => .bind (keeps_visit _) fun value hvalue => ?_
        refine .bind (keeps_addCell ⟨hkey, hvalue⟩) fun pair _ => .bind ih fun rs hrs => ?_
        exact .pure (List.forall_mem_cons.mpr ⟨trivial, hrs⟩)
      · exact .throw
      · exact .throw

theorem keeps_pairItems (activity : String) (n : Node) :
    Keeps (pairItems activity n) fun rs => ∀ r ∈ rs, r.Simple := by
  rw [pairItems]
  split
  · exact keeps_visitPairs _ _ _
  · exact .throw

/-- The cell for a collection is simple. -/
theorem keeps_cellOf (number : ℕ) : Keeps (cellOf number) Cell.Simple := by
  rw [cellOf]
  refine .bind (keeps_nodeAt number) fun n _ => ?_
  split
  · refine .bind (.lift fun _ _ => trivial) fun items _ => ?_
    exact .bind (.mapM fun i _ => keeps_visit i) fun rs hrs => .pure hrs
  · refine .bind (keeps_mappingEntries number) fun entries _ => ?_
    exact .bind (keeps_visitEntries n.start entries) fun writes hwrites => .pure hwrites
  · refine .bind (keeps_mappingEntries number) fun entries _ => ?_
    exact .bind (keeps_visitEntries n.start entries) fun writes _ => .pure trivial
  · exact .bind (keeps_pairItems _ n) fun rs hrs => .pure hrs
  · exact .bind (keeps_pairItems _ n) fun rs hrs => .pure hrs

theorem keeps_fillCells (fuel : ℕ) : Keeps (fillCells fuel) fun _ => True := by
  induction fuel with
  | zero => exact .pure trivial
  | succ fuel ih =>
      rw [fillCells]
      refine .bind .get fun b _ => ?_
      split
      · exact .pure trivial
      · refine .bind (.change fun b hb => ⟨hb.known, hb.cells⟩) fun _ _ => ?_
        refine .bind (keeps_cellOf _) fun filled hfilled => ?_
        refine .bind (.change fun b hb => ⟨hb.known, fun c hc => ?_⟩) fun _ _ => ih
        rcases Array.mem_or_eq_of_mem_setIfInBounds hc with hold | rfl
        · exact hb.cells c hold
        · exact hfilled

/-! ## Documents -/

/-- The value of a document is read off simple cells. -/
theorem exists_cells_of_toValue {d : Document} {v : Value} (h : d.toValue = .ok v) :
    ∃ (cells : Cells) (r : Ref), cells.Simple ∧ r.Simple ∧ v = cells.valueOf r := by
  rw [Document.toValue] at h
  obtain ⟨⟨r, b⟩, hrun, hv⟩ := bind_eq_ok.mp h
  cases hv
  have hkeeps : Keeps (do
      let r ← visit d.root
      fillCells (d.graph.size + 1)
      pure r) Ref.Simple :=
    .bind (keeps_visit _) fun r hr => .bind (keeps_fillCells _) fun _ _ => .pure hr
  obtain ⟨hr, hb⟩ := hkeeps _ r b ⟨fun r hr => by simp at hr, fun c hc => by simp at hc⟩ hrun
  refine ⟨b.cells, r, fun number => ?_, hr, rfl⟩
  rw [Array.getD_eq_getD_getElem?]
  rcases hc : b.cells[number]? with _ | c
  · exact nofun
  · exact hb.cells c (Array.mem_of_getElem? hc)

theorem sound_of_read {bs : List UInt8} {v : Value} (h : read bs = .ok v) : Tidy v ∧ Contained [] [] v := by
  obtain ⟨d, -, hd⟩ := bind_eq_ok.mp h
  cases d with
  | none =>
      cases hd
      exact ⟨trivial, .leaf trivial⟩
  | some d =>
      obtain ⟨cells, r, hcells, hr, rfl⟩ := exists_cells_of_toValue hd
      exact Cells.sound_valueOf hcells hr

/-- **The value of a file has no key twice** in any of its mappings. -/
theorem tidy_of_read {bs : List UInt8} {v : Value} (h : read bs = .ok v) : Tidy v :=
  (sound_of_read h).1

/-- **Whatever comes again in the value of a file is around that place.** -/
theorem contained_of_read {bs : List UInt8} {v : Value} (h : read bs = .ok v) : Contained [] [] v :=
  (sound_of_read h).2

end Yaml

end SolutionSurvey
