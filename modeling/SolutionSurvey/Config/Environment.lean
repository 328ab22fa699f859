import SolutionSurvey.Failure
import SolutionSurvey.Json.Reader
import SolutionSurvey.Text.Casing
import SolutionSurvey.Value.Merge

/-!
# Settings from environment variables

A variable `CODEPARSER__SECTION` holds a whole section as JSON, and `CODEPARSER__SECTION__KEY` one of its
keys: as JSON where the key is a list, as it is otherwise. The names of variables are read in lower case.
Further parts of a name lead into mappings below the key.

## Main definitions

* `Environment` — the variables.
* `Shape` — what a key may hold, as far as variables show it; `sections` gives that of each section.
* `Environment.section?` — what the variables say about a section.
* `Environment.entries` — what they say about all sections.
-/

namespace SolutionSurvey

/-- The variables, in order. Bytes of a value that are not UTF-8 stand there as halves. -/
abbrev Environment := List (String × Wording)

/-- What a key may hold. -/
inductive Shape where
  | plain
  /-- A list, with the fields of its items. -/
  | list (fields : List (String × Shape))
  deriving Repr, Inhabited

namespace Shape

/-- The fields below a shape. -/
def fields : Shape → List (String × Shape)
  | .plain => []
  | .list fs => fs

/-- Whether a variable holds this as JSON. -/
def isStructured : Shape → Bool
  | .plain => false
  | .list _ => true

end Shape

/-- The sections with their keys. -/
def sections : List (String × List (String × Shape)) :=
  [("logging", [("level", .plain),
      ("outputs", .list [("format", .plain), ("destination", .plain), ("level", .plain)])]),
    ("workspace", [("source_extensions", .list []), ("excluded_dirs", .list []), ("encoding", .plain)]),
    ("probe", [("identifier_fields", .list [])])]

namespace Environment

/-- What every name starts with. -/
def lead : String := "codeparser__"

/-- The variables with their names in lower case; of equal names the last value counts. -/
def lowered (env : Environment) : Environment :=
  let put (done : Environment) (e : String × Wording) : Environment :=
    let name := Text.lower e.1
    if done.any fun d => d.1 == name then
      done.map fun d => if d.1 == name then (name, e.2) else d
    else done ++ [(name, e.2)]
  env.foldl put []

/-- The parts of a name between double underscores. -/
def partsOf : List Char → List Char → List String
  | done, [] => [String.ofList done.reverse]
  | done, '_' :: '_' :: rest => String.ofList done.reverse :: partsOf [] rest
  | done, c :: rest => partsOf (c :: done) rest

/-- The shape at the end of some parts, if they lead to a field. -/
def shapeAt : List (String × Shape) → List String → Option Shape
  | _, [] => none
  | fields, [key] => fields.lookup key
  | fields, key :: rest => (fields.lookup key).bind fun s => shapeAt s.fields rest

/-- Entries with a value at the end of some parts. What is no mapping on the way stays. -/
def putAt (value : Value) : List String → Entries → Entries
  | [], entries => entries
  | [key], entries => Value.put (.text key) value entries
  | key :: rest, entries =>
    match Value.get? (.text key) entries with
    | none => Value.put (.text key) (.map (putAt value rest [])) entries
    | some (.map below) => Value.put (.text key) (.map (putAt value rest below)) entries
    | some _ => entries

/-- The value of a variable for a shape. An empty text is no JSON and stays as it is. -/
def valueOf (shape : Option Shape) (text : Wording) : Option Value :=
  if shape.any Shape.isStructured && text != .plain "" then Json.read? text else some (.ofWording text)

/-- The keys of a section that have variables of their own. -/
def keys (env : Environment) (name : String) (fields : List (String × Shape)) :
    Except Failure Entries :=
  let stem := lead ++ name ++ "__"
  let add (done : Entries) (e : String × Wording) : Except Failure Entries :=
    if stem.toList.isPrefixOf e.1.toList then
      let parts := partsOf [] (e.1.toList.drop stem.length)
      match valueOf (shapeAt fields parts) e.2 with
      | some v => .ok (putAt v parts done)
      | none => .error (.unreadableVariable name)
    else .ok done
  env.foldlM add []

/-- Entries whose keys are spelled as the fields are, whatever their case. -/
def respell (fields : List (String × Shape)) (entries : Entries) : Entries :=
  Value.ofWrites (entries.map fun e =>
    match e.1.text?.bind fun k => fields.find? fun f => f.1 == Text.lower k with
    | some f => (.text f.1, e.2)
    | none => e)

/-- What the variables, with names in lower case, say about a section. A section that is null counts as
not there. -/
def section? (env : Environment) (name : String) (fields : List (String × Shape)) :
    Except Failure (Option Value) := do
  match env.lookup (lead ++ name) with
  | none =>
    let ks ← keys env name fields
    pure (if ks.isEmpty then none else some (.map (respell fields ks)))
  | some text =>
    match Json.read? text with
    | none => .error (.unreadableVariable name)
    | some .null => pure none
    | some (.map entries) => do
      pure (some (.map (respell fields (Value.overlay entries (← keys env name fields)))))
    | some v => pure (some v)

/-- What the variables say about all sections. -/
def entries (env : Environment) : Except Failure Entries := do
  let env := env.lowered
  let found ← sections.mapM fun s => do
    pure ((← section? env s.1 s.2).map fun v => (Value.text s.1, v))
  pure (found.filterMap id)

end Environment

end SolutionSurvey
