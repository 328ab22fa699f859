import SolutionSurvey.Proofs.Outcome
import SolutionSurvey.Syntax.Heap
import SolutionSurvey.Syntax.Identifier
import Mathlib.Data.List.Basic

/-!
# What the probe for an identifier finds

A node offers what it gives as its own identifier and what it answers for the roles that are asked for. The
probe gives the first token of these, and none only if there is no token among them, whatever a node lacks.

## Main definitions

* `NodeView.own?`, `NodeView.answers`, `NodeView.offered` — what a node offers as its identifier, in order.
* `NodeView.IsFirstToken` — the first token among some nodes.
* `NodeView.identifier?_eq_find?` — the probe looks for it among what a node offers.
* `NodeView.identifier?_spec` — what the probe gives, and that it gives the same when it may ask for more roles.
-/

namespace SolutionSurvey.NodeView

variable {ν : Type} {view : NodeView ν} {n : ν}

/-! ## What a node offers -/

/-- What a node gives as its own identifier, if that is there and can be read. -/
def own? (view : NodeView ν) (n : ν) : Option ν :=
  match view.identifier n with
  | .ok own => own
  | .error _ => none

/-- What a node answers for some roles, if it can be asked. -/
def answers (view : NodeView ν) (roles : List String) (n : ν) : List ν :=
  (view.role n).elim [] roles.filterMap

/-- What a node offers as its identifier. -/
def offered (view : NodeView ν) (roles : List String) (n : ν) : List ν :=
  (view.own? n).toList ++ view.answers roles n

theorem offered_append (roles more : List String) :
    view.offered (roles ++ more) n = view.offered roles n ++ view.answers more n := by
  rw [offered, offered, List.append_assoc]
  simp only [answers]
  cases view.role n with
  | none => rfl
  | some child => simp only [Option.elim_some, List.filterMap_append]

/-- An identifier that is missing or cannot be read counts as none. -/
theorem ownIdentifier_eq (hread : ∀ f, view.identifier n = .error f → f = .attributeMissing) :
    ownIdentifier view n = .ok (view.own? n) := by
  rw [ownIdentifier, own?]
  cases hown : view.identifier n with
  | ok own => rfl
  | error f => rw [hread f hown]

/-! ## The first token -/

/-- A node is the first token among some nodes, or there is none among them. -/
def IsFirstToken (view : NodeView ν) (nodes : List ν) : Option ν → Prop
  | some token => isToken view token ∧ ∃ before after, nodes = before ++ token :: after ∧
      ∀ m ∈ before, ¬ isToken view m
  | none => ∀ m ∈ nodes, ¬ isToken view m

theorem isFirstToken_find? (nodes : List ν) : view.IsFirstToken nodes (nodes.find? (isToken view)) := by
  cases hfound : nodes.find? (isToken view) with
  | none => exact List.find?_eq_none.mp hfound
  | some token =>
      obtain ⟨htoken, before, after, hsplit, hbefore⟩ := List.find?_eq_some_iff_append.mp hfound
      exact ⟨htoken, before, after, hsplit, fun m hm => by simpa using hbefore m hm⟩

/-- Roles are asked for until the answer is a token. -/
theorem tokenInRoles_eq_find? (child : String → Option ν) (roles : List String) :
    tokenInRoles view child roles = (roles.filterMap child).find? (isToken view) := by
  induction roles with
  | nil => rfl
  | cons role rest ih =>
      rw [tokenInRoles, List.filterMap_cons]
      cases child role with
      | none => exact ih
      | some c =>
          by_cases hc : isToken view c
          · simp only [if_pos hc, List.find?_cons_of_pos hc]
          · simp only [if_neg hc, List.find?_cons_of_neg hc, ih]

theorem roleIdentifier_eq_find? (roles : List String) :
    roleIdentifier view roles n = (view.answers roles n).find? (isToken view) := by
  rw [roleIdentifier, answers]
  cases view.role n with
  | none => rfl
  | some child => exact tokenInRoles_eq_find? child roles

/-- **The probe looks for the first token** among what a node offers. -/
theorem identifier?_eq_find? (hread : ∀ f, view.identifier n = .error f → f = .attributeMissing)
    (roles : List String) :
    identifier? view roles (some n) = .ok ((view.offered roles n).find? (isToken view)) := by
  refine bind_eq_ok.mpr ⟨_, ownIdentifier_eq hread, ?_⟩
  rw [roleIdentifier_eq_find?, offered, List.find?_append]
  cases view.own? n with
  | none => rfl
  | some own =>
      by_cases hown : isToken view own
      · simp [hown, pure, Except.pure]
      · simp [hown, pure, Except.pure]

/-- **The probe gives the first token that a node offers**, and none if it offers no token. It never fails, as
long as nothing worse happens than that the own identifier is missing or cannot be read. What it gives is a
token, and stays the same when it may ask for further roles after the given ones. -/
theorem identifier?_spec (hread : ∀ f, view.identifier n = .error f → f = .attributeMissing)
    (roles : List String) :
    ∃ found, identifier? view roles (some n) = .ok found ∧
      view.IsFirstToken (view.offered roles n) found ∧
      (∀ token, found = some token → isToken view token) ∧
      ∀ more, found ≠ none → identifier? view (roles ++ more) (some n) = .ok found := by
  refine ⟨_, identifier?_eq_find? hread roles, isFirstToken_find? _, fun token => List.find?_some, ?_⟩
  intro more hfound
  rw [identifier?_eq_find? hread, offered_append, List.find?_append]
  obtain ⟨token, htoken⟩ := Option.ne_none_iff_exists'.mp hfound
  rw [htoken, Option.some_or]

/-- Nodes of odd shapes. The first one gives an interior node as its identifier and answers a role with a plain
value, another one with a node that has no parent, and a third one with a token that has no text; the last one
has no identifier that could be read, and nothing that could be asked for a role. -/
def oddShapes : NodeHeap :=
  ⟨#[{ identifier := .holds (.node 1),
        role := .table [("type", .value (.text "int")), ("label", .node 2), ("name", .node 3)] },
    { type := some (.text "qualified_name"), text := some (.text "A.B"), parent := some (.node 0),
      childCount := some (.int 3) },
    { type := some (.text "identifier"), text := some (.text "C"), childCount := some (.int 0) },
    { type := some (.text "identifier"), text := some .null, parent := some (.value .null) },
    { identifier := .raises .attributeMissing }]⟩

theorem identifier?_spec_oddShapes :
    let view := oddShapes.view
    let roles := ["type", "parameters", "label", "name"]
    view.IsFirstToken [.node 1, .value (.text "int"), .node 2, .node 3] (some (.node 3)) ∧
      (∀ more, identifier? view (roles ++ more) (some (.node 0)) = .ok (some (.node 3))) ∧
      identifier? view roles (some (.node 4)) = .ok none := by
  intro view roles
  have hfirst : ∀ f, view.identifier (.node 0) = .error f → f = .attributeMissing := nofun
  have hlast : ∀ f, view.identifier (.node 4) = .error f → f = .attributeMissing := by
    intro f hf
    cases hf
    rfl
  obtain ⟨found, hfound, htoken, -, hmore⟩ := identifier?_spec hfirst roles
  obtain rfl : some (.node 3) = found := Except.ok.inj hfound
  obtain ⟨missing, hnone, -⟩ := identifier?_spec hlast roles
  obtain rfl : none = missing := Except.ok.inj hnone
  exact ⟨htoken, fun more => hmore more nofun, hnone⟩

end SolutionSurvey.NodeView
