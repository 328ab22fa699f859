import SolutionSurvey.CSharp.DeclarationRule

/-!
# Sources of C#

The syntax tree of a source. Comments belong to the smallest node that has tokens on both sides of them, and
so do directives. Only the directives that choose parts of a source are nodes over these parts, provided that
the parts are whole items; if they are not, all parts are read one after another.

## Main definitions

* `CSharp.partsOf` — what reads the parts of a source, the rules tied together.
* `CSharp.weave` — a tree with comments and directives put in their places.
* `CSharp.directiveTree` — the tree of a directive.
* `CSharp.Source` — a source with its tree, and whether all of it has a form.
* `CSharp.parse` — the source of a text.
-/

namespace SolutionSurvey.CSharp

/-- The rules tied together; a part lies at most `levels` levels deep. -/
def partsOf : Nat → Parts
  | 0, _ => failure
  | levels + 1, p =>
    let below := partsOf levels
    match p with
    | .type => typeRule false below
    | .testedType => typeRule true below
    | .expression => expressionRule below
    | .condition => conditionRule below
    | .operation => operationRule 0 below
    | .term => operationRule 11 below
    | .unary => unaryRule below
    | .pattern => patternRule below
    | .statement => statementRule below
    | .block => blockRule below
    | .member => memberRule below
    | .declaration => declarationRule below

/-! ## Comments and directives -/

/-- Comments and directives as branches. -/
def extraBranches (es : List SyntaxTree) : Branches :=
  es.map fun e => (none, e)

/-- The comments and directives that stand before a place, and the others. -/
def splitAt (place : Place) (es : List SyntaxTree) : List SyntaxTree × List SyntaxTree :=
  es.span fun e => e.start.offset < place.offset

mutual

/-- A tree with the comments and directives that stand inside of it put in their places, and those that
are left. -/
def weave (es : List SyntaxTree) : SyntaxTree → SyntaxTree × List SyntaxTree
  | .mk type named start stop branches =>
    let (branches, es) := weaveBranches true es branches
    (.mk type named start stop branches, es)

/-- The same for the branches of a node; what stands before its first branch is left. -/
def weaveBranches (first : Bool) (es : List SyntaxTree) :
    List (Option String × SyntaxTree) → Branches × List SyntaxTree
  | [] => ([], es)
  | (role, t) :: rest =>
    let (before, es) := if first then ([], es) else splitAt t.start es
    let (t, es) := weave es t
    let (others, es) := weaveBranches false es rest
    (extraBranches before ++ (role, t) :: others, es)

end

/-- The root over the items of a source and all its comments and directives. A root over nothing stands at
the end of its source. -/
def unitOf (stop : Place) (items : Branches) (es : List SyntaxTree) : SyntaxTree :=
  let (branches, left) := weaveBranches false es items
  match branches ++ extraBranches left with
  | [] => .leaf "compilation_unit" true stop stop
  | bs => .spanning "compilation_unit" bs

/-! ## Directives -/

/-- The words of directives that are no identifiers. -/
def directiveWords : List String :=
  ["warning", "disable", "restore", "checksum", "enable", "annotations", "warnings", "default", "hidden"]

/-- The branch of a token after the head of a directive. -/
def lineBranch (t : Token) : Branch :=
  (none, if directiveWords.contains t.text then t.keyword else t.tree)

/-- A directive that has no effect on the items around it. -/
def directiveTree (head : Token) (line : List Token) : SyntaxTree :=
  .spanning ("preproc_" ++ (head.text.drop 1).toString) ((none, head.tree) :: line.map lineBranch)

/-- The directives that choose parts of a source. -/
def choosing : List String := ["#if", "#elif", "#else", "#endif"]

/-- The end of the line of a directive. -/
def lineEnd (place : Place) : Token := ⟨"\n", .leaf "\n" false place place⟩

/-! ## Sources -/

/-- The tokens among lexemes. The directives that choose parts are tokens if they are `chosen` to be. -/
def tokensOf (chosen : Bool) (ls : List Lexeme) : List Token :=
  ls.flatMap fun
    | .token t => [t]
    | .directive head line =>
      if chosen && choosing.contains head.text then
        head :: line ++ [lineEnd ((line.getLast?.getD head).tree.stop)]
      else []
    | _ => []

/-- The comments among lexemes, with the directives that are not tokens. -/
def extrasOf (chosen : Bool) (ls : List Lexeme) : List SyntaxTree :=
  ls.filterMap fun
    | .extra t => some t
    | .directive head line =>
      if chosen && choosing.contains head.text then none else some (directiveTree head line)
    | _ => none

/-- Whether there is a fault among lexemes. -/
def hasFault (ls : List Lexeme) : Bool :=
  ls.any fun
    | .fault => true
    | _ => false

/-- Whether a directive that chooses parts is among lexemes. -/
def hasChoice (ls : List Lexeme) : Bool :=
  ls.any fun
    | .directive head _ => choosing.contains head.text
    | _ => false

mutual

/-- Whether a tree has a node over tokens that belong nowhere. -/
def hasStray : SyntaxTree → Bool
  | .mk type _ _ _ branches => type == faultType || hasStrayBranch branches

/-- Whether one of some branches has a node over tokens that belong nowhere. -/
def hasStrayBranch : List (Option String × SyntaxTree) → Bool
  | [] => false
  | (_, t) :: rest => hasStray t || hasStrayBranch rest

end

/-- A source with its syntax tree. It is broken if some part of it has no form. -/
structure Source where
  text : String
  tree : SyntaxTree
  broken : Bool
  deriving Repr, Inhabited

/-- The items of a list of tokens. -/
def itemsOf (ts : List Token) : Branches :=
  match unitRule (partsOf (24 * ts.length + 64)) ts with
  | some (items, _) => items
  | none => []

/-- The tree of some lexemes up to a place. -/
def treeOf (chosen : Bool) (stop : Place) (ls : List Lexeme) : SyntaxTree :=
  unitOf stop (itemsOf (tokensOf chosen ls)) (extrasOf chosen ls)

/-- The source of a text. -/
def parse (text : String) : Source :=
  let ls := lex text
  let stop := Place.start.afterAll text.toList
  let tree := treeOf true stop ls
  let tree := if hasStray tree && hasChoice ls then treeOf false stop ls else tree
  ⟨text, tree, hasFault ls || hasStray tree⟩

/-- The root of a source. -/
def Source.root (s : Source) : Located :=
  .root s.text s.tree

end SolutionSurvey.CSharp
