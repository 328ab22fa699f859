import SolutionSurvey.CSharp.Lexer

/-!
# Reading tokens by rules

A rule reads some tokens and gives a part of the syntax tree, or refuses. Rules refer to each other only
through the kinds of parts that they ask for, so that each rule stands by itself and one recursion ties
them together.

## Main definitions

* `CSharp.Rule` — the rules.
* `CSharp.Part` — the kinds of parts that rules ask for, and `CSharp.Parts`, what reads them.
* `symbol`, `contextual`, `identifier`, `maybe`, `many`, `separated`, `balanced` — rules out of which
  others are made.
-/

namespace SolutionSurvey.CSharp

/-- A rule: it reads from the beginning of a list of tokens, or refuses. -/
abbrev Rule (α : Type) := StateT (List Token) Option α

/-- Branches of a syntax tree. -/
abbrev Branches := List Branch

/-- The kinds of parts that rules ask for. -/
inductive Part where
  | type
  /-- A type in an expression, where a question mark may also ask for a condition. -/
  | testedType
  | expression
  /-- An expression that is neither an assignment nor a function. -/
  | condition
  /-- An expression of operators that bind more tightly than a conditional expression. -/
  | operation
  /-- An expression of operators that bind more tightly than a comparison. -/
  | term
  /-- An operand of operators with two sides. -/
  | unary
  | pattern
  | statement
  | block
  /-- A declaration in a type or a namespace. -/
  | member
  /-- A declaration beside the statements of a source. -/
  | declaration
  deriving Repr, DecidableEq, Inhabited

/-- What reads the parts that a rule asks for. -/
abbrev Parts := Part → Rule SyntaxTree

/-! ## Single tokens -/

/-- The next token, if it passes a test. -/
def tokenIf (test : Token → Bool) : Rule Token := fun ts =>
  match ts with
  | t :: rest => if test t then some (t, rest) else none
  | [] => none

/-- Goes on only if the tokens that follow pass a test; reads nothing. -/
def look (test : List Token → Bool) : Rule Unit := fun ts =>
  if test ts then some ((), ts) else none

/-- Whether the next token is spelled in one of some ways. -/
def nextIs (spellings : List String) : List Token → Bool
  | t :: _ => spellings.contains t.text
  | [] => false

/-- A part without a role. -/
def plain (t : SyntaxTree) : Branches := [(none, t)]

/-- A token of one spelling as a leaf that is not named. -/
def Token.keyword (t : Token) : SyntaxTree :=
  .leaf t.text false t.tree.start t.tree.stop

/-- Whether a token stands for its own spelling. -/
def Token.isPlain (t : Token) : Bool :=
  t.tree.type == t.text || t.tree.type == "boolean_literal"

/-- A symbol or word of one of some spellings. -/
def symbolOf (spellings : List String) : Rule SyntaxTree :=
  Token.keyword <$> tokenIf fun t => t.isPlain && spellings.contains t.text

/-- A symbol or word. -/
def symbol (spelling : String) : Rule Branches :=
  plain <$> symbolOf [spelling]

/-- A token of a type, as it is. -/
def ofType (type : String) : Rule SyntaxTree :=
  Token.tree <$> tokenIf fun t => t.tree.type == type

/-- An identifier. -/
def identifier : Rule SyntaxTree := ofType "identifier"

/-- An identifier that is spelled in one of some ways, as a word. -/
def contextual (spellings : List String) : Rule SyntaxTree :=
  Token.keyword <$> tokenIf fun t => t.tree.type == "identifier" && spellings.contains t.text

/-- A word in a place where only some identifiers or words have a meaning. -/
def wordOf (spellings : List String) : Rule SyntaxTree :=
  symbolOf spellings <|> contextual spellings

/-- A token of another type, as a leaf of a given type. -/
def renamed (type : String) (r : Rule SyntaxTree) : Rule SyntaxTree :=
  (fun t => .leaf type true t.start t.stop) <$> r

/-! ## Combinations -/

/-- A part in a role. -/
def inRole (role : String) (r : Rule SyntaxTree) : Rule Branches :=
  (fun t => [(some role, t)]) <$> r

/-- A part without a role. -/
def part (r : Rule SyntaxTree) : Rule Branches :=
  plain <$> r

/-- One rule after another. -/
def seq : List (Rule Branches) → Rule Branches
  | [] => pure []
  | r :: rest => do
    let first ← r
    let others ← seq rest
    pure (first ++ others)

/-- The first rule that does not refuse. -/
def choice {α : Type} : List (Rule α) → Rule α
  | [] => failure
  | r :: rest => r <|> choice rest

/-- What a rule reads, or nothing. -/
def maybe (r : Rule Branches) : Rule Branches :=
  r <|> pure []

/-- A named node over what a rule reads. -/
def named (type : String) (r : Rule Branches) : Rule SyntaxTree :=
  SyntaxTree.spanning type <$> r

/-- A named node over what some rules read one after another. -/
def node (type : String) (rs : List (Rule Branches)) : Rule SyntaxTree :=
  named type (seq rs)

/-- What a rule reads as often as it can, at most `count` times. -/
def manyUpTo (r : Rule Branches) : Nat → Rule Branches
  | 0 => pure []
  | count + 1 => (do
      let first ← r
      let others ← manyUpTo r count
      pure (first ++ others)) <|> pure []

/-- What a rule reads as often as it can. -/
def many (r : Rule Branches) : Rule Branches := fun ts =>
  manyUpTo r ts.length ts

/-- Operands of an operator that groups to the left. -/
def leftGrouped (type : String) (operator operand : Rule SyntaxTree) : Rule SyntaxTree :=
  let rec go : Nat → SyntaxTree → Rule SyntaxTree
    | 0, left => pure left
    | count + 1, left => (do
        let op ← operator
        let right ← operand
        go count (.spanning type [(some "left", left), (some "operator", op), (some "right", right)])) <|>
        pure left
  do
    let first ← operand
    fun ts => go ts.length first ts

/-- One or more parts with a separator between them. -/
def separated (separator : String) (r : Rule Branches) : Rule Branches :=
  seq [r, many (seq [symbol separator, r])]

/-- Any number of parts with commas between them, in brackets; a comma may also come last. -/
def bracketed (opening : String) (r : Rule Branches) (closing : String) : Rule Branches :=
  seq [symbol opening, maybe (seq [separated "," r, maybe (symbol ",")]), symbol closing]

/-! ## Symbols that start with a closing angle bracket -/

/-- Closing angle brackets that touch each other and the symbol after them, as one symbol of the given
spelling. -/
def joined (spelling : String) : Rule SyntaxTree := fun ts =>
  let rec go : List Token → Nat → String → Option (SyntaxTree × List Token)
    | [], _, _ => none
    | t :: rest, at_, wanted =>
      if t.tree.start.offset != at_ then none
      else if t.text = wanted then
        some (.leaf spelling false (ts.head?.map fun t => t.tree.start).get! t.tree.stop, rest)
      else if t.text = ">" ∧ wanted.startsWith ">" then
        go rest t.tree.stop.offset (wanted.drop 1).toString
      else none
  match ts with
  | t :: _ => go ts t.tree.start.offset spelling
  | [] => none

/-- Whether the next symbol is a closing angle bracket that touches another one or an equals sign. -/
def touchesNext : List Token → Bool
  | a :: b :: _ => a.text == ">" && (b.text == ">" || b.text == ">=") &&
    a.tree.stop.offset == b.tree.start.offset
  | _ => false

/-! ## Tokens without structure -/

/-- Whether a token opens brackets. -/
def opens (t : Token) : Bool :=
  t.isPlain && ["(", "[", "\x7b"].contains t.text

/-- Whether a token closes brackets. -/
def closes (t : Token) : Bool :=
  t.isPlain && [")", "]", "\x7d"].contains t.text

/-- The tokens before the first one that is spelled in one of some ways or closes a bracket that is open
before them, and the rest. -/
def balancedTokens (stops : List String) : Nat → List Token → List Token × List Token
  | _, [] => ([], [])
  | depth, t :: rest =>
    if depth = 0 ∧ (stops.contains t.text ∨ closes t) then ([], t :: rest)
    else
      let depth := if opens t then depth + 1 else if closes t then depth - 1 else depth
      let (taken, left) := balancedTokens stops depth rest
      (t :: taken, left)

/-- The tokens after the brackets that a list of tokens starts with. -/
def afterBrackets : List Token → List Token
  | t :: rest => if opens t then (balancedTokens [] 0 rest).2.drop 1 else t :: rest
  | [] => []

/-- The tokens inside of the brackets that a list of tokens starts with. -/
def insideBrackets : List Token → List Token
  | t :: rest => if opens t then (balancedTokens [] 0 rest).1 else []
  | [] => []

/-- The tokens before a stop, as they are; at least one. -/
def balanced (stops : List String) : Rule Branches := fun ts =>
  match balancedTokens stops 0 ts with
  | ([], _) => none
  | (taken, rest) => some (taken.map fun t => (none, t.tree), rest)

end SolutionSurvey.CSharp
