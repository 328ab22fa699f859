import SolutionSurvey.Syntax.View
import SolutionSurvey.Text.Encoding

/-!
# Identifiers of declarations

Declarations do not all name themselves in one way. The probe asks a node for the identifier it gives
itself, then for the children in the roles that may hold one, and stops at the first token among the
answers. Having none is an ordinary outcome.

## Main definitions

* `defaultRoles` — the role that holds an identifier unless the caller says otherwise.
* `ownIdentifier`, `roleIdentifier` — the two places where a node may have its identifier.
* `identifier?` — the identifier of a node.
* `NodeView.upToRoles` — the readings of nodes where only some roles can be asked for.
* `tokenText` — the text of a token.
-/

namespace SolutionSurvey

variable {ν : Type}

/-- The roles that are asked for an identifier by default. -/
def defaultRoles : List String := ["name"]

/-- The identifier that a node gives itself. One that is missing or cannot be read is as none; any other
failure of the reading goes to the caller. -/
def ownIdentifier (view : NodeView ν) (n : ν) : Except Failure (Option ν) :=
  match view.identifier n with
  | .error .attributeMissing => .ok none
  | r => r

/-- The first token among the children in some roles, which are asked for one after the other. -/
def tokenInRoles (view : NodeView ν) (child : String → Option ν) : List String → Option ν
  | [] => none
  | role :: rest =>
    match child role with
    | some c => if isToken view c then some c else tokenInRoles view child rest
    | none => tokenInRoles view child rest

/-- The first token among a node's children in the given roles, if it can be asked for them. -/
def roleIdentifier (view : NodeView ν) (roles : List String) (n : ν) : Option ν :=
  (view.role n).bind fun child => tokenInRoles view child roles

/-- The identifier of a node: the one that it gives itself if that is a token, or else the first token
among its children in the given roles. -/
def identifier? (view : NodeView ν) (roles : List String) : Option ν → Except Failure (Option ν)
  | none => .ok none
  | some n => do
    let own ← ownIdentifier view n
    pure (if own.any (isToken view) then own else roleIdentifier view roles n)

/-- The same readings where asking for a role fails after those for the given roles. A node can then be
probed if it gives a token of itself or in one of these roles, or if it has no roles at all. -/
def NodeView.upToRoles (view : NodeView ν) (roles : List String) (f : Failure) : NodeView ν :=
  { view with
    role := fun _ => none
    identifier := fun n =>
      match identifier? view roles (some n) with
      | .ok found => if found.isSome || (view.role n).isNone then .ok found else .error f
      | .error e => .error e }

/-- The text of a token. Bytes are read as UTF-8; anything else is given as it is. -/
def tokenText (view : NodeView ν) : Option ν → Except Failure Value
  | none => .ok .null
  | some n =>
    match view.text n with
    | .ok (.bytes bs) => (Encoding.decode .utf8 bs).map .ofWording
    | r => r

end SolutionSurvey
