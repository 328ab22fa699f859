import SolutionSurvey.Yaml.Building

/-!
# Documents of YAML

The value of a whole file.

## Main definitions

* `Yaml.read` — the value of the only document of a file; null if there is none.
-/

namespace SolutionSurvey.Yaml

/-- The value of the only document of a file; null if there is none. -/
def read (bs : List UInt8) : Meaning Value := do
  match ← Document.read? (.ofBytes bs) with
  | none => pure .null
  | some d => d.toValue

end SolutionSurvey.Yaml
