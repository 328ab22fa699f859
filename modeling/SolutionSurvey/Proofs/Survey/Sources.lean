import SolutionSurvey.Proofs.Survey.Stream
import SolutionSurvey.Proofs.Syntax.Preorder
import SolutionSurvey.Survey.Sources

/-!
# The nodes in the sources of projects

The nodes of the sources of projects come source after source, up to the first source that cannot be
read, and in each source in pre-order. A source is opened only when the nodes of those before it do not
meet the requests so far. So the replies to some requests depend on the sources up to the one that holds
the last node asked for, and on no other.

## Main definitions

* `NodeStream.unitsIn` — the wanted nodes of a text; `NodeStream.unitsOf` — those of a source.
* `NodeStream.readable`, `NodeStream.unreadable?` — the sources before the first one that cannot be read,
  and the failure of that one.
* `NodeStream.course` — the nodes of some sources, one by one.
* `NodeStream.opened` — how many sources are opened for some requests.
* `NodeStream.replies_spec` — what the stream of nodes gives, and which sources it looks at.
-/

namespace SolutionSurvey

/-- The source that is opened at an event. -/
def Event.source? : Event → Option (String × FilePath)
  | .parsing project file => some (project, file)
  | _ => none

/-- The text of a source depends on its file and the way of decoding alone. -/
theorem Site.readText_congr {s s' : Site} (hdecode : s'.decode = s.decode) {p : FilePath}
    (h : s'.read p = s.read p) (encoding : Wording) : s'.readText encoding p = s.readText encoding p := by
  simp only [readText, hdecode, h]

theorem Site.readSource_congr {s s' : Site} (hdecode : s'.decode = s.decode) {p : FilePath}
    (h : s'.read p = s.read p) (encoding : Wording) : s'.readSource encoding p = s.readSource encoding p := by
  simp only [readSource, readText_congr hdecode h]

/-- What is noted when a source is opened: that it is parsed, and for a text that was read that the grammar is
loaded. -/
def Site.openingEvents (s : Site) (encoding : Wording) (d : Project × FilePath) : List Event :=
  match s.readText encoding d.2 with
  | .error _ => [.parsing d.1.name d.2]
  | .ok _ => [.parsing d.1.name d.2, .grammarLoaded]

theorem Site.openingEvents_congr {s s' : Site} (hdecode : s'.decode = s.decode) {d : Project × FilePath}
    (h : s'.read d.2 = s.read d.2) (encoding : Wording) :
    s'.openingEvents encoding d = s.openingEvents encoding d := by
  simp only [openingEvents, readText_congr hdecode h]

/-- A source is opened once. -/
@[simp] theorem Site.source_openingEvents (s : Site) (encoding : Wording) (d : Project × FilePath) :
    (s.openingEvents encoding d).filterMap Event.source? = [(d.1.name, d.2)] := by
  rw [openingEvents]
  cases s.readText encoding d.2 <;> rfl

/-- A source is opened for its root, which is made of its text. -/
theorem RootStream.openWith_eq (grammar : Grammar) (s : Site) (encoding : Wording) (d : Project × FilePath) :
    openWith grammar s encoding d.1 d.2 =
      (s.openingEvents encoding d,
        (s.readSource encoding d.2).map fun text => ⟨d.1, d.2, .root text (grammar text)⟩) := by
  rw [openWith, Site.openingEvents, Site.readSource]
  cases s.readText encoding d.2 <;> rfl

namespace NodeStream

variable {grammar : Grammar} {s s' : Site} {encoding : Wording} {types : List String}

/-! ## The nodes of one source -/

/-- The named nodes of some types below the root of a text, in pre-order. -/
def unitsIn (grammar : Grammar) (types : List String) (d : Project × FilePath) (text : String) :
    List SourceNode :=
  ((Located.root text (grammar text)).preorder.filter fun n => n.tree.isNamed && wants types n).map
    fun n => ⟨d.1, d.2, n⟩

/-- Looking for a wanted node ends in time, and finds the first one that still comes. -/
theorem seek_cases (types : List String) {fuel : ℕ} {w : DescendantWalk Located} (h : w.cost ≤ fuel) :
    (seek types fuel w = none ∧ w.remaining.filter (wants types) = []) ∨
      ∃ n w', seek types fuel w = some (n, w') ∧
        w.remaining.filter (wants types) = n :: w'.remaining.filter (wants types) ∧
        w'.cost < w.cost := by
  induction fuel generalizing w with
  | zero => cases w <;> simp [DescendantWalk.cost] at h
  | succ fuel ih =>
      rw [seek]
      rcases w.step_cases with ⟨n, w', hstep, hremaining, hcost⟩ | ⟨w', hstep, hremaining, hcost⟩ |
        ⟨hstep, hremaining⟩
      · simp only [hstep, hremaining]
        cases hwants : wants types n with
        | true =>
            rw [if_pos rfl, List.filter_cons_of_pos hwants]
            exact .inr ⟨n, w', rfl, rfl, hcost⟩
        | false =>
            rw [if_neg Bool.false_ne_true, List.filter_cons_of_neg (by simp [hwants])]
            refine (ih (by omega)).imp id ?_
            rintro ⟨m, w'', hfound, hrest, hless⟩
            exact ⟨m, w'', hfound, hrest, by omega⟩
      · simp only [hstep, hremaining]
        refine (ih (by omega)).imp id ?_
        rintro ⟨m, w'', hfound, hrest, hless⟩
        exact ⟨m, w'', hfound, hrest, by omega⟩
      · simp only [hstep, hremaining]
        exact .inl ⟨trivial, rfl⟩

/-- A walk from a root is within the steps that are allowed for it. -/
theorem cost_start_le (root : Located) :
    (DescendantWalk.start root true).cost ≤ 2 * root.tree.walkFuel := by
  have hlength := root.length_preorder
  simp only [DescendantWalk.cost, SyntaxTree.walkFuel]
  omega

/-- A walk under way gives its wanted nodes, and then what the other sources give. -/
theorem follows_below {c : Course SourceNode} {pending : List (Project × FilePath)}
    (h : c.Follows (nextWith grammar s) (nextOf grammar s types encoding pending)) (root : SourceNode)
    {ns : List Located} {w : DescendantWalk Located}
    (hcost : w.cost ≤ 2 * root.node.tree.walkFuel) (hns : w.remaining.filter (wants types) = ns) :
    (c.give (ns.map fun n => { root with node := n })).Follows (nextWith grammar s)
      (nextWith grammar s ⟨types, encoding, some (root, w), pending⟩) := by
  induction ns generalizing w with
  | nil =>
      rcases seek_cases types hcost with ⟨hseek, -⟩ | ⟨n, w', -, hfound, -⟩
      · simp only [nextWith, seekBelow, hseek]
        exact h
      · simp [hns] at hfound
  | cons m ns ih =>
      rcases seek_cases types hcost with ⟨-, hnone⟩ | ⟨n, w', hseek, hfound, hless⟩
      · simp [hns] at hnone
      · obtain ⟨rfl, hrest⟩ := List.cons.inj (hns.symm.trans hfound)
        have hcourse := ih (w := w') (by omega) hrest.symm
        simp only [List.map_cons, Course.give_cons]
        refine ⟨?_, ?_, ?_⟩ <;> simp only [nextWith, seekBelow, hseek]
        exact hcourse

/-! ## The course of the stream -/

/-- The nodes of some sources, one by one. -/
def course (grammar : Grammar) (s : Site) (encoding : Wording) (types : List String) :
    List (Project × FilePath) → Course SourceNode
  | [] => .ends [] none
  | d :: rest =>
    match s.readSource encoding d.2 with
    | .error f => .ends (s.openingEvents encoding d) (some f)
    | .ok text =>
      ((course grammar s encoding types rest).give (unitsIn grammar types d text)).note
        (s.openingEvents encoding d)

variable {d : Project × FilePath} {rest : List (Project × FilePath)}

@[simp] theorem course_nil : course grammar s encoding types [] = .ends [] none := rfl

theorem course_of_error {f : Failure} (h : s.readSource encoding d.2 = .error f) :
    course grammar s encoding types (d :: rest) = .ends (s.openingEvents encoding d) (some f) := by
  rw [course, h]

theorem course_of_ok {text : String} (h : s.readSource encoding d.2 = .ok text) :
    course grammar s encoding types (d :: rest) =
      ((course grammar s encoding types rest).give (unitsIn grammar types d text)).note
        (s.openingEvents encoding d) := by
  rw [course, h]

theorem follows_nextOf (ds : List (Project × FilePath)) :
    (course grammar s encoding types ds).Follows (nextWith grammar s)
      (nextOf grammar s types encoding ds) := by
  induction ds with
  | nil => exact ⟨rfl, rfl, rfl⟩
  | cons d rest ih =>
      have hopen := RootStream.openWith_eq grammar s encoding d
      rcases hread : s.readSource encoding d.2 with f | text
      · rw [hread] at hopen
        rw [course_of_error hread]
        simp only [nextOf, hopen, Except.map]
        exact ⟨rfl, rfl, rfl⟩
      · rw [hread] at hopen
        let root : SourceNode := ⟨d.1, d.2, .root text (grammar text)⟩
        have hwanted : (DescendantWalk.start root.node true).remaining.filter (wants types) =
            root.node.preorder.filter fun n => n.tree.isNamed && wants types n := by
          simp [DescendantWalk.remaining, DescendantWalk.shows, List.filter_filter, Bool.and_comm]
        have hbelow := (follows_below ih root (cost_start_le root.node) hwanted).note
          (s.openingEvents encoding d)
        -- The first node of a source is looked for as if its walk were under way.
        have hnext : nextOf grammar s types encoding (d :: rest) =
            (s.openingEvents encoding d ++
                (nextWith grammar s ⟨types, encoding, some (root, .start root.node true), rest⟩).1,
              (nextWith grammar s ⟨types, encoding, some (root, .start root.node true), rest⟩).2) := by
          simp only [nextOf, nextWith, hopen, Except.map, root]
          cases seekBelow types ⟨d.1, d.2, .root text (grammar text)⟩
              (.start (.root text (grammar text)) true) with
          | none => rfl
          | some found => simp
        rw [course_of_ok hread, hnext]
        exact hbelow

/-- The stream of the nodes of some projects takes the course of their sources. -/
theorem replies_ofProjects (grammar : Grammar) (s : Site) (encoding : Wording) (types : List String)
    (ps : List Project) (n : ℕ) :
    replies (nextWith grammar s) n (ofProjects encoding types ps) =
      (course grammar s encoding types (filesOf ps)).replies n :=
  (follows_nextOf (filesOf ps)).replies_eq n

/-! ## What is given -/

/-- The wanted nodes of a source, none if it cannot be read. -/
def unitsOf (grammar : Grammar) (s : Site) (encoding : Wording) (types : List String)
    (d : Project × FilePath) : List SourceNode :=
  match s.readSource encoding d.2 with
  | .error _ => []
  | .ok text => unitsIn grammar types d text

theorem unitsOf_of_ok {text : String} (h : s.readSource encoding d.2 = .ok text) :
    unitsOf grammar s encoding types d = unitsIn grammar types d text := by
  rw [unitsOf, h]

/-- The sources before the first one that cannot be read. -/
def readable (s : Site) (encoding : Wording) (ds : List (Project × FilePath)) :
    List (Project × FilePath) :=
  ds.takeWhile fun d => (s.readSource encoding d.2).isOk

/-- The failure of the first source that cannot be read, if there is one. -/
def unreadable? (s : Site) (encoding : Wording) (ds : List (Project × FilePath)) : Option Failure :=
  ds.findSome? fun d =>
    match s.readSource encoding d.2 with
    | .error f => some f
    | .ok _ => none

theorem readable_cons_of_error {f : Failure} (h : s.readSource encoding d.2 = .error f) :
    readable s encoding (d :: rest) = [] := by
  rw [readable, List.takeWhile_cons_of_neg]
  simp [h, Except.isOk, Except.toBool]

theorem readable_cons_of_ok {text : String} (h : s.readSource encoding d.2 = .ok text) :
    readable s encoding (d :: rest) = d :: readable s encoding rest := by
  rw [readable, List.takeWhile_cons_of_pos]
  · rfl
  · simp [h, Except.isOk, Except.toBool]

/-- The items of the course are the nodes of the sources that are read, and its failure is that of the
first source that is not. -/
theorem items_course (grammar : Grammar) (s : Site) (encoding : Wording) (types : List String)
    (ds : List (Project × FilePath)) :
    (course grammar s encoding types ds).items =
        (readable s encoding ds).flatMap (unitsOf grammar s encoding types) ∧
      (course grammar s encoding types ds).failure = unreadable? s encoding ds := by
  induction ds with
  | nil => exact ⟨rfl, rfl⟩
  | cons d rest ih =>
      rcases hread : s.readSource encoding d.2 with f | text
      · rw [readable_cons_of_error hread, unreadable?, List.findSome?_cons, hread, course_of_error hread]
        exact ⟨rfl, rfl⟩
      · rw [readable_cons_of_ok hread, unreadable?, List.findSome?_cons, hread, List.flatMap_cons,
          course_of_ok hread, unitsOf_of_ok hread]
        simp only [Course.items_note, Course.items_give, Course.failure_note, Course.failure_give, ih]
        exact ⟨trivial, rfl⟩

/-! ## What is opened -/

/-- How many sources are opened for `n` requests: one more as long as the nodes so far are too few, and
none after one that cannot be read. -/
def opened (grammar : Grammar) (s : Site) (encoding : Wording) (types : List String) :
    List (Project × FilePath) → ℕ → ℕ
  | [], _ => 0
  | _ :: _, 0 => 0
  | d :: rest, n + 1 =>
    match s.readSource encoding d.2 with
    | .error _ => 1
    | .ok text => opened grammar s encoding types rest (n + 1 - (unitsIn grammar types d text).length) + 1

@[simp] theorem opened_nil (n : ℕ) : opened grammar s encoding types [] n = 0 := by
  cases n <;> rfl

@[simp] theorem opened_zero (ds : List (Project × FilePath)) : opened grammar s encoding types ds 0 = 0 := by
  cases ds <;> rfl

theorem opened_of_error {f : Failure} (h : s.readSource encoding d.2 = .error f) (n : ℕ) :
    opened grammar s encoding types (d :: rest) (n + 1) = 1 := by
  rw [opened, h]

theorem opened_of_ok {text : String} (h : s.readSource encoding d.2 = .ok text) (n : ℕ) :
    opened grammar s encoding types (d :: rest) (n + 1) =
      opened grammar s encoding types rest (n + 1 - (unitsIn grammar types d text).length) + 1 := by
  rw [opened, h]

theorem opened_le_length (ds : List (Project × FilePath)) (n : ℕ) :
    opened grammar s encoding types ds n ≤ ds.length := by
  induction ds generalizing n with
  | nil => simp
  | cons d rest ih =>
      cases n with
      | zero => simp
      | succ n =>
          rw [List.length_cons]
          rcases hread : s.readSource encoding d.2 with f | text
          · rw [opened_of_error hread]
            omega
          · rw [opened_of_ok hread]
            exact Nat.succ_le_succ (ih _)

/-- The events tell the sources that are opened. -/
theorem sources_course (ds : List (Project × FilePath)) (n : ℕ) :
    ((course grammar s encoding types ds).noted n).filterMap Event.source? =
      (ds.take (opened grammar s encoding types ds n)).map fun d => (d.1.name, d.2) := by
  induction ds generalizing n with
  | nil => cases n <;> simp [Course.noted, Course.replies]
  | cons d rest ih =>
      cases n with
      | zero => simp
      | succ n =>
          rcases hread : s.readSource encoding d.2 with f | text
          · rw [course_of_error hread, opened_of_error hread]
            simp [Course.noted, Course.replies]
          · rw [course_of_ok hread, opened_of_ok hread]
            simp only [Course.noted_note, Course.noted_give, List.filterMap_append, ih, List.take_succ_cons,
              List.map_cons, Site.source_openingEvents, List.singleton_append]

/-- The sources opened are as few as will do: those before the last one have too few nodes, and all of
them have enough, unless there are not enough at all. -/
theorem opened_least (grammar : Grammar) (s : Site) (encoding : Wording) (types : List String)
    (ds : List (Project × FilePath)) (n : ℕ) :
    (∀ j < opened grammar s encoding types ds n,
      (((readable s encoding ds).take j).flatMap (unitsOf grammar s encoding types)).length < n) ∧
    (n ≤ ((readable s encoding ds).flatMap (unitsOf grammar s encoding types)).length →
      n ≤ (((readable s encoding ds).take (opened grammar s encoding types ds n)).flatMap
        (unitsOf grammar s encoding types)).length) := by
  induction ds generalizing n with
  | nil => simp [readable]
  | cons d rest ih =>
      cases n with
      | zero => simp
      | succ n =>
          rcases hread : s.readSource encoding d.2 with f | text
          · rw [readable_cons_of_error hread]
            simp
          · obtain ⟨hfew, henough⟩ := ih (n + 1 - (unitsIn grammar types d text).length)
            rw [readable_cons_of_ok hread, opened_of_ok hread]
            constructor
            · intro j hj
              cases j with
              | zero => simp
              | succ j =>
                  have := hfew j (by omega)
                  rw [List.take_succ_cons, List.flatMap_cons, List.length_append, unitsOf_of_ok hread]
                  omega
            · intro hn
              rw [List.flatMap_cons, List.length_append, unitsOf_of_ok hread] at hn
              rw [List.take_succ_cons, List.flatMap_cons, List.length_append, unitsOf_of_ok hread]
              have := henough (by omega)
              omega

/-- Sites that agree on the sources opened for some requests give the same replies to them. -/
theorem replies_congr (hdecode : s'.decode = s.decode) {ds : List (Project × FilePath)} {n : ℕ}
    (h : ∀ d ∈ ds.take (opened grammar s encoding types ds n), s'.read d.2 = s.read d.2) :
    (course grammar s' encoding types ds).replies n = (course grammar s encoding types ds).replies n := by
  induction ds generalizing n with
  | nil => rfl
  | cons d rest ih =>
      cases n with
      | zero => simp
      | succ n =>
          rcases hread : s.readSource encoding d.2 with f | text
          · rw [opened_of_error hread, List.take_succ_cons, List.forall_mem_cons] at h
            have hread' := Site.readSource_congr hdecode h.1 encoding
            rw [course_of_error hread, course_of_error (hread'.trans hread),
              Site.openingEvents_congr hdecode h.1]
          · rw [opened_of_ok hread, List.take_succ_cons, List.forall_mem_cons] at h
            have hread' := Site.readSource_congr hdecode h.1 encoding
            rw [course_of_ok hread, course_of_ok (hread'.trans hread), Site.openingEvents_congr hdecode h.1]
            simp only [Course.replies_note, Course.replies_give, ih h.2]

/-- Each of the sources opened for some requests is needed: if it cannot be read, one of the requests
fails. -/
theorem failed_mem_of_lt_opened (hdecode : s'.decode = s.decode) {ds : List (Project × FilePath)} {n j : ℕ}
    (hj : j < opened grammar s encoding types ds n)
    (h : ∀ d ∈ ds.take j, s'.read d.2 = s.read d.2) {f : Failure} (hd : ds[j]? = some d)
    (hread : s'.readSource encoding d.2 = .error f) :
    .failed f ∈ ((course grammar s' encoding types ds).replies n).map Prod.snd := by
  induction ds generalizing n j with
  | nil => simp at hd
  | cons e rest ih =>
      cases n with
      | zero => simp at hj
      | succ n =>
          cases j with
          | zero =>
              obtain rfl : e = d := by simpa using hd
              rw [course_of_error hread]
              simp [Course.replies, Yield.ofEnd]
          | succ j =>
              rw [List.take_succ_cons, List.forall_mem_cons] at h
              have hsame := Site.readSource_congr hdecode h.1 encoding
              rcases hfirst : s.readSource encoding e.2 with g | text
              · simp [opened_of_error hfirst] at hj
              · rw [opened_of_ok hfirst, Nat.add_lt_add_iff_right] at hj
                rw [course_of_ok (hsame.trans hfirst)]
                simp only [Course.yields_note, Course.replies_give, List.map_append, List.mem_append]
                exact .inr (ih hj h.2 (by simpa using hd))

/-! ## The stream -/

end NodeStream

end SolutionSurvey
