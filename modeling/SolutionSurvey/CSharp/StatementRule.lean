import SolutionSurvey.CSharp.ExpressionRule

/-!
# Statements of C#

## Main definitions

* `CSharp.variableDeclaration`, `CSharp.functionBody` — parts that declarations share with statements.
* `CSharp.localFunction` — functions inside of functions.
* `CSharp.blockRule` — blocks.
* `CSharp.statementRule` — statements.
-/

namespace SolutionSurvey.CSharp

/-! ## Shared parts -/

/-- Names in brackets, each for a part of a value. -/
def tuplePattern : Nat → Rule SyntaxTree
  | 0 => failure
  | levels + 1 => node "tuple_pattern" [symbol "(", separated "," (choice [
      part (renamed "discard" (contextual ["_"])), inRole "name" identifier, part (tuplePattern levels)]),
      symbol ")"]

/-- Names in brackets at the beginning of a list of tokens. -/
def tupleNames : Rule SyntaxTree := fun ts => tuplePattern ts.length ts

/-- A variable with its value, up to the end of its declaration. -/
def variableDeclarator (parts : Parts) (stops : List String) : Rule SyntaxTree :=
  node "variable_declarator" [inRole "name" identifier,
    maybe (part (bracketedArguments parts)),
    maybe (seq [symbol "=", valueUpTo parts stops])]

/-- Names for the parts of a value of a type that is found out. -/
def deconstruction (parts : Parts) (stops : List String) : Rule SyntaxTree :=
  node "variable_declarator" [part tupleNames, symbol "=", valueUpTo parts stops]

/-- Variables of one type. -/
def variableDeclaration (parts : Parts) (stops : List String) : Rule SyntaxTree :=
  node "variable_declaration" [do
    let type ← parts .type
    let declarator :=
      if type.type = "implicit_type" then
        choice [variableDeclarator parts ("," :: stops), deconstruction parts ("," :: stops)]
      else variableDeclarator parts ("," :: stops)
    let names ← separated "," (part declarator)
    pure ((some "type", type) :: names)]

/-- The expression that a function stands for, with the arrow before it. -/
def arrowClause (parts : Parts) : Rule SyntaxTree :=
  node "arrow_expression_clause" [symbol "=>", valueUpTo parts [";"]]

/-- The body of a function: a block, an expression, or nothing. -/
def functionBody (parts : Parts) : Rule Branches :=
  choice [
    inRole "body" (parts .block),
    seq [inRole "body" (arrowClause parts), symbol ";"],
    symbol ";"]

/-! ## Modifiers -/

/-- The words that are always modifiers. -/
def modifierWords : List String :=
  ["abstract", "const", "extern", "fixed", "internal", "new", "override", "private", "protected",
    "public", "readonly", "sealed", "static", "unsafe", "virtual", "volatile"]

/-- The words that are modifiers only where something that they can modify follows. -/
def contextualModifiers : List String :=
  ["async", "file", "partial", "required"]

/-- Any number of modifiers. The contextual ones are taken for modifiers only if `all` of them are. -/
def modifiers (all : Bool) : Rule Branches :=
  many (choice [
    part (modifierOf modifierWords),
    do
      if all then pure () else failure
      part (node "modifier" [part (contextual contextualModifiers)])])

/-! ## Statements -/

/-- A function inside of a function. -/
def localFunction (parts : Parts) : Rule SyntaxTree :=
  let rest (all : Bool) : Rule SyntaxTree :=
    node "local_function_statement" [attributeLists parts, modifiers all, inRole "type" (parts .type),
      inRole "name" identifier, maybe (inRole "type_parameters" (typeParameters parts)),
      inRole "parameters" (parameterList parts), constraints parts, functionBody parts]
  choice [rest true, rest false]

/-- A declaration of variables as a statement. -/
def localDeclaration (parts : Parts) : Rule SyntaxTree :=
  node "local_declaration_statement" [
    maybe (seq [maybe (part (contextual ["await"])), symbol "using"]),
    many (part (modifierOf modifierWords)),
    part (variableDeclaration parts [";"]), symbol ";"]

/-- An expression in a role, in brackets after a word. -/
def headed (role : String) (parts : Parts) : Rule Branches :=
  seq [symbol "(", inRole role (parts .expression), symbol ")"]

/-- A clause that catches what a block throws. -/
def catchClause (parts : Parts) : Rule SyntaxTree :=
  node "catch_clause" [symbol "catch",
    maybe (part (node "catch_declaration" [symbol "(", inRole "type" (parts .type),
      maybe (inRole "name" identifier), symbol ")"])),
    maybe (part (node "catch_filter_clause" [part (contextual ["when"]), symbol "(",
      part (parts .expression), symbol ")"])),
    inRole "body" (parts .block)]

/-- A section of a switch statement, under one label. -/
def switchSection (parts : Parts) : Rule SyntaxTree :=
  let label := choice [
    seq [symbol "case", part (parts .pattern), maybe (part (whenClause parts)), symbol ":"],
    seq [symbol "case", part (node "constant_pattern" [part (parts .condition)]), symbol ":"],
    seq [symbol "default", symbol ":"]]
  node "switch_section" [label, many (part (parts .statement))]

/-! ## Blocks and statements -/

/-- A block; one without known structure keeps its tokens as they are. -/
def blockRule (parts : Parts) : Rule SyntaxTree :=
  choice [
    node "block" [symbol "\x7b", many (part (parts .statement)), symbol "\x7d"],
    node "block" [symbol "\x7b", maybe (balanced []), symbol "\x7d"]]

/-- The head of a loop with a counter: what starts it, what it goes on under, and what each turn ends
with. -/
def counterHead (parts : Parts) : Rule Branches :=
  let expression := inRole "initializer" (parts .expression)
  seq [symbol "(",
    choice [
      seq [inRole "initializer" (variableDeclaration parts [";"]), symbol ";"],
      seq [maybe (separated "," expression), symbol ";"]],
    maybe (inRole "condition" (parts .expression)), symbol ";",
    maybe (separated "," (inRole "update" (parts .expression))), symbol ")"]

/-- The head of a loop over elements. -/
def elementsHead (parts : Parts) : Rule Branches :=
  seq [symbol "(",
    choice [
      seq [inRole "type" (parts .type), inRole "left" (choice [identifier, tupleNames]), symbol "in"],
      seq [inRole "left" (parts .operation), symbol "in"]],
    inRole "right" (parts .expression), symbol ")"]

/-- What a statement uses until its end. -/
def usedResource (parts : Parts) : Rule Branches :=
  seq [symbol "(", choice [
    do
      let v ← variableDeclaration parts [")"]
      look (nextIs [")"])
      pure (plain v),
    part (parts .expression)], symbol ")"]

/-- A statement that starts with a word of its own. -/
def wordStatement (parts : Parts) : Rule SyntaxTree :=
  let body := inRole "body" (parts .statement)
  choice [
    parts .block,
    node "empty_statement" [symbol ";"],
    node "if_statement" [symbol "if", headed "condition" parts, inRole "consequence" (parts .statement),
      maybe (seq [symbol "else", inRole "alternative" (parts .statement)])],
    node "while_statement" [symbol "while", headed "condition" parts, body],
    node "do_statement" [symbol "do", body, symbol "while", headed "condition" parts, symbol ";"],
    node "for_statement" [symbol "for", counterHead parts, body],
    node "foreach_statement" [maybe (part (contextual ["await"])), symbol "foreach", elementsHead parts, body],
    node "return_statement" [symbol "return", maybe (valueUpTo parts [";"]), symbol ";"],
    node "break_statement" [symbol "break", symbol ";"],
    node "continue_statement" [symbol "continue", symbol ";"],
    node "goto_statement" [symbol "goto", maybe (part (symbolOf ["case", "default"])),
      maybe (valueUpTo parts [";"]), symbol ";"],
    node "throw_statement" [symbol "throw", maybe (valueUpTo parts [";"]), symbol ";"],
    node "yield_statement" [part (contextual ["yield"]), choice [
      seq [symbol "return", valueUpTo parts [";"]], symbol "break"], symbol ";"],
    node "lock_statement" [symbol "lock", symbol "(", part (parts .expression), symbol ")",
      part (parts .statement)],
    node "fixed_statement" [symbol "fixed", symbol "(", part (variableDeclaration parts [")"]), symbol ")",
      part (parts .statement)],
    do
      look fun ts => nextIs ["\x7b"] (ts.drop 1)
      node "checked_statement" [part (symbolOf ["checked", "unchecked"]), part (parts .block)],
    node "unsafe_statement" [symbol "unsafe", part (parts .block)],
    node "using_statement" [maybe (part (contextual ["await"])), symbol "using", usedResource parts, body],
    node "try_statement" [symbol "try", inRole "body" (parts .block), many (part (catchClause parts)),
      maybe (part (node "finally_clause" [symbol "finally", part (parts .block)]))],
    node "switch_statement" [symbol "switch",
      choice [headed "value" parts, inRole "value" (parts .operation)],
      inRole "body" (node "switch_body" [symbol "\x7b", many (part (switchSection parts)), symbol "\x7d"])],
    do
      look fun ts => nextIs [":"] (ts.drop 1)
      node "labeled_statement" [part identifier, symbol ":", part (parts .statement)],
    conditional (part (choice [parts .declaration, parts .statement]))]

/-- A statement that is an expression. -/
def expressionStatement (parts : Parts) : Rule SyntaxTree :=
  node "expression_statement" [part (parts .expression), symbol ";"]

/-- Tokens up to a semicolon in the place of a statement. -/
def looseStatement : Rule SyntaxTree := do
  look fun ts => !nextIs ["case", "default", "else", "catch", "finally", "#if", "#elif", "#else", "#endif"] ts
  node "expression_statement" [balanced [";", "\x7b"], symbol ";"]

/-- Any statement. A word that waits for a task starts an expression and no declaration. -/
def statementRule (parts : Parts) : Rule SyntaxTree :=
  choice [
    wordStatement parts,
    do
      look fun ts => nextIs ["await"] ts && !nextIs ["using"] (ts.drop 1)
      expressionStatement parts,
    localFunction parts,
    localDeclaration parts,
    expressionStatement parts,
    looseStatement]

end SolutionSurvey.CSharp
