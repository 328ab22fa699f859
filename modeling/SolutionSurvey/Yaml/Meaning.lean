import SolutionSurvey.Text.Base64
import SolutionSurvey.Text.Casing
import SolutionSurvey.Yaml.Calendar
import SolutionSurvey.Yaml.Node

/-!
# What scalars of YAML stand for

The value of a scalar by its tag.

## Main definitions

* `Yaml.Meaning` — the outcome of finding out what a node stands for.
* `Yaml.readBool`, `Yaml.readInt`, `Yaml.readFloat`, `Yaml.readBinary` — values by tag.
* `Yaml.Graph.scalarValue` — the value of a node with the tag of a scalar.
-/

namespace SolutionSurvey.Yaml

/-- The outcome of finding out what a node stands for. -/
abbrev Meaning (α : Type) := Except Fault α

/-- A problem without an activity. -/
def refuse {α : Type} (fault : String) (place : Mark) : Meaning α :=
  .error (.plain fault place)

/-! ## Scalars -/

/-- The signs of a text without underscores. -/
def withoutGaps (w : Wording) : List Sign :=
  w.signs.filter (· != .char '_')

/-- A text in lower case. -/
def lowered (w : Wording) : Wording :=
  w.mapRuns Text.lower

/-- A truth value. -/
def readBool (w : Wording) : Except Failure Value :=
  let word := lowered w
  match word.plain?.bind fun s => Tag.truthWords.lookup s with
  | some b => .ok (.bool b)
  | none => .error (.unknownKey (.ofWording word))

/-- The sign at the start of a number and what follows it. -/
def splitSign : List Sign → Bool × List Sign
  | .char '-' :: rest => (true, rest)
  | .char '+' :: rest => (false, rest)
  | signs => (false, signs)

/-- The whole number that signs write in a base. A half is no digit. -/
def readWhole (base : Nat) (signs : List Sign) : Except Failure Int :=
  match signs.mapM Sign.char? with
  | some cs => Whole.read base cs
  | none => .error (.value (.notWhole (.ofSigns signs) base))

/-- A whole number: of base two after `0b`, of base sixteen after `0x`, of base eight after another zero,
of base sixty with colons, and of base ten otherwise. -/
def readInt (w : Wording) : Except Failure Value := do
  let signs := withoutGaps w
  if signs.isEmpty then .error .emptyNumber
  else
    let (negative, body) := splitSign signs
    let n ← match body with
      | [] => .error .emptyNumber
      | [.char '0'] => pure 0
      | .char '0' :: .char 'b' :: rest => readWhole 2 rest
      | .char '0' :: .char 'x' :: rest => readWhole 16 rest
      | .char '0' :: rest => readWhole 8 (.char '0' :: rest)
      | body =>
        if body.contains (.char ':') then
          return .int ((if negative then -1 else 1) *
            (← (body.splitOn (.char ':')).foldlM (fun (n : Int) part => do
              pure (n * 60 + (← readWhole 10 part))) 0))
        else readWhole 10 body
    pure (.int (if negative then -n else n))

/-- A decimal number of base ten. -/
def readDecimal (signs : List Sign) : Except Failure Double :=
  match (signs.mapM Sign.char?).bind fun cs => Double.read? (Text.trimChars (Text.plainDigits cs)) with
  | some x => .ok x
  | none => .error (.value (.notDecimal (.ofSigns signs)))

/-- The sum of the parts of a number of base sixty, last first, each of them times its power. -/
def sumSixties (sum : Double) (power : Nat) : List Double → Except Failure Double
  | [] => .ok sum
  | d :: rest =>
    let factor := Double.ofInt power
    if factor.isFinite then sumSixties (sum.add (d.mul factor)) (power * 60) rest
    else .error .tooLargeForDouble

/-- A decimal number: an infinity or what is no number after a point, of base sixty with colons, and of
base ten otherwise. -/
def readFloat (w : Wording) : Except Failure Value := do
  let signs := (lowered (.ofSigns (withoutGaps w))).signs
  if signs.isEmpty then .error .emptyNumber
  else
    let (negative, body) := splitSign signs
    let x ← if body == ".inf".toList.map .char then pure (Double.infinite false)
      else if body == ".nan".toList.map .char then pure Double.nan
      else if body.contains (.char ':') then do
        let parts ← (body.splitOn (.char ':')).mapM readDecimal
        sumSixties (.ofInt 0) 1 parts.reverse
      else readDecimal body
    pure (.float (if negative then x.negate else x))

/-- The fault of the first run of signs beyond ASCII, if there is one. -/
def firstBeyond (i : Nat) : List Sign → Option EncodeFault
  | [] => none
  | sign :: rest =>
    if sign.code < 128 then firstBeyond (i + 1) rest
    else
      let run := (sign :: rest).takeWhile fun s => 128 ≤ s.code
      some ⟨"ascii", sign.code, i, i + run.length, "ordinal not in range(128)"⟩

/-- Bytes written as letters. -/
def readBinary (w : Wording) (place : Mark) : Meaning Value :=
  match firstBeyond 0 w.signs with
  | some e => refuse ("failed to convert base64 data into ascii: " ++ e.message) place
  | none =>
    match Text.Base64.decode (w.signs.filterMap Sign.char?) with
    | .ok bs => .ok (.bytes bs)
    | .error f => refuse ("failed to decode base64 data: " ++ f.message) place

/-! ## The text of a scalar -/

/-- The text of a node that should be a scalar. A mapping stands for its default, if it has one; `fuel`
bounds the number of nodes on the way, which has no end where a default is inside itself. -/
def Graph.textOf (g : Graph) : Nat → Nat → Meaning Wording
  | 0, _ => .error (.failure .endless)
  | fuel + 1, number =>
    let n := g.node number
    match n.content with
    | .scalar s => .ok s
    | .sequence _ => refuse "expected a scalar node, but found sequence" n.start
    | .mapping entries =>
      match entries.find? fun e => (g.node e.1).tag == .value with
      | some e => g.textOf fuel e.2
      | none => refuse "expected a scalar node, but found mapping" n.start

/-- The value of a node with the tag of a scalar. -/
def Graph.scalarValue (g : Graph) (number : Nat) : Meaning Value := do
  let n := g.node number
  let other (r : Except Failure Value) : Meaning Value := r.mapError .failure
  let s ← g.textOf (g.size + 1) number
  match n.tag with
  | .null => pure .null
  | .bool => other (readBool s)
  | .int => other (readInt s)
  | .float => other (readFloat s)
  | .binary => readBinary s n.start
  | .timestamp =>
    match n.content with
    | .scalar (.plain s) => other (readTime s.toList)
    | .scalar (.broken ..) => .error (.failure .attributeMissing)
    | _ => .error (.failure (.type .notMatched))
  | _ => pure (.ofWording s)

end SolutionSurvey.Yaml
