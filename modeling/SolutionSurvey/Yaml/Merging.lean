import SolutionSurvey.Yaml.Meaning

/-!
# Merged mappings of YAML

A key with the tag of merging stands for the entries of another mapping, or of several, which come before
the mapping's own ones. They are put there once, at the first look at the mapping. Where a mapping is to be
merged into itself, it counts as what it is without the keys that are being merged.

## Main definitions

* `Yaml.Merge` — computations that change the nodes of a document.
* `Yaml.takeMerge` — the first key for merging in some entries.
* `Yaml.mergeInto` — puts merged entries into a mapping.
-/

namespace SolutionSurvey.Yaml

/-- Computations that change the nodes of a document and may meet a problem. -/
abbrev Merge := StateT Graph (Except Fault)

/-- The entries of a mapping. -/
def Graph.entriesOf (g : Graph) (number : Nat) : List (Nat × Nat) :=
  match (g.node number).content with
  | .mapping entries => entries
  | _ => []

/-- The number of entries in all mappings. -/
def Graph.entryCount (g : Graph) : Nat :=
  g.foldl (fun count n => count + match n.content with
    | .mapping entries => entries.length
    | _ => 0) 0

/-- The value of the first key for merging, and the entries without it. -/
def takeMerge (g : Graph) : List (Nat × Nat) → Option (Nat × List (Nat × Nat))
  | [] => none
  | (k, v) :: rest =>
    if (g.node k).tag == .merge then some (v, rest)
    else (takeMerge g rest).map fun r => (r.1, (k, v) :: r.2)

/-- Gives a mapping other entries. -/
def setEntries (number : Nat) (entries : List (Nat × Nat)) : Merge Unit :=
  modify fun g => g.modify number fun n => { n with content := .mapping entries }

/-- Makes a key with the tag of a default a text. -/
def retagKey (number : Nat) : Merge Unit := do
  if ((← get).node number).tag == .value then
    modify fun g => g.modify number fun n => { n with tag := .str }

/-- What messages call the activity of reading a mapping. -/
def mappingActivity : String := "while constructing a mapping"

/-- Puts the entries of merged mappings before those of a mapping, after the ones in `gathered`; `fuel`
bounds the number of keys for merging. -/
def mergeInto : Nat → Nat → List (Nat × Nat) → Merge Unit
  | 0, _, _ => pure ()
  | fuel + 1, number, gathered => do
    let entries := (← get).entriesOf number
    match takeMerge (← get) entries with
    | none =>
      entries.forM fun e => retagKey e.1
      if !gathered.isEmpty then setEntries number (gathered ++ entries)
    | some (v, rest) =>
      setEntries number rest
      let start := ((← get).node number).start
      let source := (← get).node v
      let more ← match source.content with
        | .mapping _ => do
          mergeInto fuel v []
          pure ((← get).entriesOf v)
        | .sequence items => do
          let each ← items.mapM fun i => do
            let item := (← get).node i
            match item.content with
            | .mapping _ => do
              mergeInto fuel i []
              pure ((← get).entriesOf i)
            | other =>
              throw (.during mappingActivity start
                ("expected a mapping for merging, but found " ++ other.form) item.start)
          pure each.reverse.flatten
        | .scalar _ =>
          throw (.during mappingActivity start
            "expected a mapping or list of mappings for merging, but found scalar" source.start)
      mergeInto fuel number (gathered ++ more)

end SolutionSurvey.Yaml
