import SolutionSurvey.Failure
import SolutionSurvey.Text.Encoding
import SolutionSurvey.Value.Cycle

/-!
# Checking values

Checks turn dynamic values into settings. Checks of different parts are made side by side, so that all
complaints come out together and in order; a failure that is no complaint ends the whole check.

## Main definitions

* `Checked` — the outcome of a check.
* `Checked.both`, `Checked.each`, `Checked.inside` — checks of several parts, and of a part.
* `checkText`, `checkList`, `checkChoice`, `checkSection`, `checkField` — checks by the form of a value.
-/

namespace SolutionSurvey

/-- The outcome of a check: a value, complaints, or another failure. -/
abbrev Checked (α : Type) := Except Failure α

namespace Checked

variable {α β : Type}

/-- Two checks side by side. Complaints of both come out together; another failure goes before them. -/
def both (a : Checked α) (b : Checked β) : Checked (α × β) :=
  match a, b with
  | .ok a, .ok b => .ok (a, b)
  | .error (.invalid vs), .error (.invalid ws) => .error (.invalid (vs ++ ws))
  | .error (.invalid _), .error f => .error f
  | .error f, _ => .error f
  | _, .error f => .error f

/-- A check that is worth nothing because of a complaint. Only another failure goes before this complaint. -/
def outdoneBy (a complaint : Checked α) : Checked α :=
  match a with
  | .ok _ | .error (.invalid _) => complaint
  | .error f => .error f

/-- A check of a part, whose complaints say where the part is. -/
def inside (step : Step) : Checked α → Checked α
  | .error (.invalid vs) => .error (.invalid (vs.map (Violation.inside step)))
  | r => r

/-- Checks of some parts side by side, with the number of each. -/
def eachFrom (check : Value → Checked α) (i : Nat) : List Value → Checked (List α)
  | [] => .ok []
  | v :: rest =>
    (both (inside (.index i) (check v)) (eachFrom check (i + 1) rest)).map fun p => p.1 :: p.2

/-- Checks of the items of a list side by side. -/
def each (check : Value → Checked α) (items : List Value) : Checked (List α) :=
  eachFrom check 0 items

/-- Two good outcomes are good together. -/
@[simp] theorem both_ok (a : α) (b : β) : both (.ok a) (.ok b) = .ok (a, b) := rfl

end Checked

/-! ## Checks by form -/

/-- A single complaint about a value. -/
def complain {α : Type} (sort message : String) (input : Value) : Checked α :=
  .error (.invalid [⟨[], sort, message, input⟩])

/-- The complaint about a value that writes no text in UTF-8. -/
def complainUnreadable {α : Type} (v : Value) : Checked α :=
  complain "string_unicode" "Input should be a valid string, unable to parse raw data as a unicode string" v

/-- A text; bytes count as the text that they write in UTF-8. -/
def checkText : Value → Checked Wording
  | .text s => .ok (.plain s)
  | .broken head half rest => .ok (.broken head half rest)
  | .bytes bs =>
    match Encoding.decode .utf8 bs with
    | .ok w => .ok w
    | .error _ => complainUnreadable (.bytes bs)
  | v => complain "string_type" "Input should be a valid string" v

/-- A list; a set and a pair count as the list of their items. -/
def checkList {α : Type} (check : Value → Checked α) (v : Value) : Checked (List α) :=
  match v.opened with
  | .list items => Checked.each check items
  | .set items => Checked.each check items
  | .pair a b => Checked.each check [a, b]
  | _ => complain "list_type" "Input should be a valid list" v

/-- One of some words, given by what reads them; `words` tells a reader which ones they are. A text with
halves cannot be compared with them. -/
def checkChoice {α : Type} (words : String) (read : String → Option α) (v : Value) : Checked α :=
  match v with
  | .broken .. => complainUnreadable v
  | v =>
    match v.text?.bind read with
    | some a => .ok a
    | none => complain "literal_error" ("Input should be " ++ words) v

/-- A mapping, by the name of what it stands for. -/
def checkSection {α : Type} (name : String) (check : Value → Checked α) (v : Value) : Checked α :=
  match v.opened with
  | .map entries => check (.map entries)
  | _ => complain "model_type" ("Input should be a valid dictionary or instance of " ++ name) v

/-- The field of a mapping; one that is missing has its default, which is not checked. -/
def checkField {α : Type} (name : String) (default : α) (check : Value → Checked α) (v : Value) :
    Checked α :=
  match v.field? name with
  | some f => Checked.inside (.field name) (check f)
  | none => .ok default

end SolutionSurvey
