import SolutionSurvey.CSharp.Grammar

/-!
# Parts of C# between directives

A condition on symbols chooses what is read of the parts between its directives. All of them belong to the
syntax tree, whatever is chosen.

## Main definitions

* `CSharp.symbolCondition` — the condition of a directive.
* `CSharp.conditional` — parts between directives, any number of them under each condition.
* `CSharp.conditionalOne` — the same with at most one part under each condition.
-/

namespace SolutionSurvey.CSharp

/-! ## Conditions -/

/-- The types of tokens that are conditions by themselves. -/
def symbolLiterals : List String :=
  ["boolean_literal", "integer_literal", "character_literal"]

/-- Operands of a condition on symbols with the operators between them. -/
def symbolOperation (operand : Rule SyntaxTree) : Rule SyntaxTree :=
  leftGrouped "binary_expression" (symbolOf ["||"])
    (leftGrouped "binary_expression" (symbolOf ["&&"])
      (leftGrouped "binary_expression" (symbolOf ["==", "!="]) operand))

/-- An operand of a condition on symbols, in which brackets lie at most `levels` levels deep. -/
def symbolOperand : Nat → Rule SyntaxTree
  | 0 => failure
  | levels + 1 => choice [
      identifier,
      Token.tree <$> tokenIf fun t => symbolLiterals.contains t.tree.type,
      node "unary_expression" [inRole "operator" (symbolOf ["!"]), inRole "argument" (symbolOperand levels)],
      node "parenthesized_expression" [symbol "(", part (symbolOperation (symbolOperand levels)),
        symbol ")"]]

/-- A condition on symbols, up to the end of its line. -/
def symbolCondition : Rule Branches := do
  let t ← fun ts => symbolOperation (symbolOperand ts.length) ts
  let _ ← symbol "\n"
  pure [(some "condition", t)]

/-- A directive without a condition. -/
def bareDirective (head : String) : Rule Branches := do
  let t ← symbol head
  let _ ← symbol "\n"
  pure t

/-! ## Parts between directives -/

/-- What stands between directives instead of another part, at most `count` times. -/
def alternative (r : Rule Branches) : Nat → Rule Branches
  | 0 => failure
  | count + 1 => choice [
      inRole "alternative" (node "preproc_else" [bareDirective "#else", r]),
      inRole "alternative" (node "preproc_elif" [symbol "#elif", symbolCondition, r,
        maybe (alternative r count)])]

/-- What a rule reads between directives, of which a condition chooses some, as a node of some type. -/
def between (type : String) (r : Rule Branches) : Rule SyntaxTree :=
  node type [symbol "#if", symbolCondition, r, maybe (fun ts => alternative r ts.length ts),
    bareDirective "#endif"]

/-- Parts between directives. -/
def conditional (r : Rule Branches) : Rule SyntaxTree :=
  between "preproc_if" (many r)

/-- At most one part between any two directives. -/
def conditionalOne (type : String) (r : Rule Branches) : Rule SyntaxTree :=
  between type (maybe r)

end SolutionSurvey.CSharp
