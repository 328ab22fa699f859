import SolutionSurvey.CSharp.TypeRule

/-!
# Expressions and patterns of C#

## Main definitions

* `CSharp.argumentList` — arguments in brackets.
* `CSharp.primaryRule`, `CSharp.postfixRule`, `CSharp.unaryRule` — operands.
* `CSharp.Link`, `CSharp.assemble` — operators with two sides, put together by how tightly they bind.
* `CSharp.queryRule`, `CSharp.lambdaRule`, `CSharp.expressionRule` — expressions.
* `CSharp.patternRule` — patterns.
-/

namespace SolutionSurvey.CSharp

/-! ## Arguments -/

/-- A declaration in the place of an expression. -/
def declarationExpression (parts : Parts) : Rule SyntaxTree :=
  node "declaration_expression" [inRole "type" (parts .type), inRole "name" identifier]

/-- An argument. -/
def argumentRule (parts : Parts) : Rule SyntaxTree :=
  node "argument" [
    maybe (seq [inRole "name" identifier, symbol ":"]),
    maybe (part (symbolOf ["ref", "out", "in"])),
    part (choice [
      do
        let d ← declarationExpression parts
        look (nextIs [",", ")", "]"])
        pure d,
      parts .expression])]

/-- Arguments in round brackets. -/
def argumentList (parts : Parts) : Rule SyntaxTree :=
  choice [
    node "argument_list" [bracketed "(" (part (argumentRule parts)) ")"],
    node "argument_list" [symbol "(", maybe (balanced []), symbol ")"]]

/-- Arguments in square brackets. -/
def bracketedArguments (parts : Parts) : Rule SyntaxTree :=
  node "bracketed_argument_list" [bracketed "[" (part (argumentRule parts)) "]"]

/-- Values in curly brackets. -/
def initializer (parts : Parts) : Rule SyntaxTree :=
  node "initializer_expression" [bracketed "\x7b" (part (parts .expression)) "\x7d"]

/-- A place in an object that is created, for an assignment. -/
def elementBinding (parts : Parts) : Rule SyntaxTree :=
  node "element_binding_expression" [bracketed "[" (part (argumentRule parts)) "]"]

/-! ## Interpolated texts -/

/-- A hole of an interpolated text. -/
def hole (parts : Parts) : Rule SyntaxTree :=
  node "interpolation" [
    part (ofType "interpolation_brace"),
    choice [
      do
        let e ← parts .expression
        look fun ts => nextIs [","] ts || ts.head?.any fun t =>
          t.tree.type == "interpolation_brace" || t.tree.type == "interpolation_format_clause"
        pure (plain e),
      many (part (Token.tree <$> tokenIf fun t => t.tree.type != "interpolation_brace" &&
        t.tree.type != "interpolation_format_clause"))],
    maybe (part (node "interpolation_alignment_clause" [symbol ",", part (parts .expression)])),
    maybe (part (ofType "interpolation_format_clause")),
    part (ofType "interpolation_brace")]

/-- An interpolated text. -/
def interpolatedText (parts : Parts) : Rule SyntaxTree :=
  let quote := part (choice [ofType "\"", ofType "interpolation_quote"])
  node "interpolated_string_expression" [
    part (ofType "interpolation_start"),
    quote,
    many (part (choice [ofType "string_content", ofType "escape_sequence", hole parts])),
    quote]

/-! ## Operands -/

/-- The types of tokens that are expressions by themselves. -/
def literalTypes : List String :=
  ["integer_literal", "real_literal", "string_literal", "verbatim_string_literal", "raw_string_literal",
    "character_literal", "boolean_literal", "null_literal"]

/-- Spellings after a list of type arguments that show that it is one. -/
def afterTypeArguments : List String :=
  ["(", ")", "]", "\x7d", ":", ";", ",", ".", "?", "==", "!=", "|", "^", "&&", "||", "&", "[", "\x7b", "=>",
    "and", "or", "when", "!", ">", "??"]

/-- An identifier with type arguments in an expression. -/
def genericOperand (parts : Parts) : Rule SyntaxTree := do
  let name ← node "generic_name" [part identifier, part (typeArguments parts)]
  look fun ts => ts.isEmpty || nextIs afterTypeArguments ts
  pure name

/-- A member of an object without a name of its own, which may be given one. -/
def anonymousMember (parts : Parts) : Rule Branches :=
  seq [maybe (seq [part identifier, symbol "="]), part (parts .expression)]

/-- The creation of an object or an array. -/
def creation (parts : Parts) : Rule SyntaxTree :=
  choice [
    node "implicit_object_creation_expression" [symbol "new", part (argumentList parts),
      maybe (part (initializer parts))],
    node "implicit_array_creation_expression" [symbol "new", symbol "[", many (symbol ","), symbol "]",
      part (initializer parts)],
    node "anonymous_object_creation_expression" [symbol "new",
      bracketed "\x7b" (anonymousMember parts) "\x7d"],
    node "array_creation_expression" [symbol "new", inRole "type" (createdArray parts),
      maybe (part (initializer parts))],
    node "object_creation_expression" [symbol "new", inRole "type" (parts .type),
      maybe (inRole "arguments" (argumentList parts)), maybe (inRole "initializer" (initializer parts))]]

/-- The words that go on after an operand. -/
def wordsAfterOperand : List String :=
  ["is", "as", "switch", "with", "and", "or", "when", "select", "where", "orderby", "descending", "ascending",
    "equals", "into", "join", "let", "group", "on", "by", "from", "in"]

/-- Whether a token may be the first one of the operand of a cast. -/
def startsCastOperand : List Token → Bool
  | t :: _ =>
    t.tree.type == "identifier" || literalTypes.contains t.tree.type ||
      t.tree.type == "interpolation_start" || t.tree.type == "predefined_type" ||
      ["(", "!", "~", "+", "-", "&", "*", "^", "++", "--", "this", "base", "new", "typeof", "sizeof", "default",
        "checked", "unchecked", "delegate", "stackalloc", "throw"].contains t.text
  | [] => false

/-- A cast. -/
def castRule (parts : Parts) : Rule SyntaxTree :=
  node "cast_expression" [symbol "(", inRole "type" (parts .type), symbol ")",
    do
      look fun ts => startsCastOperand ts && !nextIs wordsAfterOperand ts
      inRole "value" (parts .unary)]

/-- An expression in round brackets, or several of them, which make a tuple. -/
def bracketedExpression (parts : Parts) : Rule SyntaxTree := do
  let opening ← symbol "("
  let first ← argumentRule parts
  let more ← many (seq [symbol ",", part (argumentRule parts)])
  let closing ← symbol ")"
  match more, first.branches with
  | [], [(none, e)] => pure (.spanning "parenthesized_expression" (opening ++ plain e ++ closing))
  | [], _ => failure
  | _, _ => pure (.spanning "tuple_expression" (opening ++ plain first ++ more ++ closing))

/-- A type in round brackets after a word. -/
def typeInBrackets (parts : Parts) : Rule Branches :=
  seq [symbol "(", inRole "type" (parts .type), symbol ")"]

/-- An element of a collection. -/
def collectionElement (parts : Parts) : Rule SyntaxTree :=
  node "collection_element" [part (choice [
    node "spread_element" [symbol "..", part (parts .expression)],
    node "expression_element" [part (parts .expression)]])]

/-- An operand before anything that may follow it. -/
def primaryRule (parts : Parts) : Rule SyntaxTree :=
  choice [
    Token.tree <$> tokenIf fun t => literalTypes.contains t.tree.type,
    interpolatedText parts,
    symbolOf ["this", "base"],
    node "anonymous_method_expression" [many (part (modifierLeaf ["static", "async"])), symbol "delegate",
      maybe (inRole "parameters" (parameterList parts)), part (parts .block)],
    node "makeref_expression" [part (contextual ["__makeref"]), symbol "(", part (parts .expression),
      symbol ")"],
    node "reftype_expression" [part (contextual ["__reftype"]), symbol "(", part (parts .expression),
      symbol ")"],
    node "refvalue_expression" [part (contextual ["__refvalue"]), symbol "(",
      inRole "value" (parts .expression), symbol ",", inRole "type" (parts .type), symbol ")"],
    genericOperand parts,
    node "alias_qualified_name" [inRole "alias" identifier, symbol "::",
      inRole "name" (simpleName parts)],
    identifier,
    do
      look fun ts => nextIs ["."] (ts.drop 1)
      ofType "predefined_type",
    bracketedExpression parts,
    creation parts,
    node "typeof_expression" [symbol "typeof", typeInBrackets parts],
    node "sizeof_expression" [symbol "sizeof", typeInBrackets parts],
    node "default_expression" [symbol "default", maybe (typeInBrackets parts)],
    node "checked_expression" [part (symbolOf ["checked", "unchecked"]), symbol "(",
      part (parts .expression), symbol ")"],
    node "implicit_stackalloc_expression" [symbol "stackalloc", symbol "[", symbol "]",
      part (initializer parts)],
    node "stackalloc_expression" [symbol "stackalloc", inRole "type" (createdArray parts),
      maybe (part (initializer parts))],
    node "collection_expression" [bracketed "[" (part (collectionElement parts)) "]"],
    conditionalOne "preproc_if" (part (parts .expression))]

/-- A condition on what a pattern matches. -/
def whenClause (parts : Parts) : Rule SyntaxTree :=
  node "when_clause" [part (contextual ["when"]), part (parts .condition)]

/-- An arm of a switch expression. -/
def switchArm (parts : Parts) : Rule SyntaxTree :=
  node "switch_expression_arm" [part (parts .pattern), maybe (part (whenClause parts)), symbol "=>",
    part (parts .expression)]

/-- What may follow an operand, at most `count` times. -/
def postfixFrom (parts : Parts) : Nat → SyntaxTree → Rule SyntaxTree
  | 0, t => pure t
  | count + 1, t =>
    let goOn (type role : String) (r : Rule Branches) : Rule SyntaxTree := do
      let more ← r
      postfixFrom parts count (.spanning type ((some role, t) :: more))
    let postfix_ (r : Rule Branches) : Rule SyntaxTree := do
      let more ← r
      postfixFrom parts count (.spanning "postfix_unary_expression" (plain t ++ more))
    choice [
      goOn "member_access_expression" "expression" (seq [part (symbolOf [".", "->"]),
        inRole "name" (choice [genericOperand parts, identifier])]),
      goOn "invocation_expression" "function" (inRole "arguments" (argumentList parts)),
      goOn "element_access_expression" "expression" (inRole "subscript" (bracketedArguments parts)),
      goOn "conditional_access_expression" "condition" (do
        look fun ts => nextIs ["."] (ts.drop 1)
        seq [symbol "?", part (node "member_binding_expression" [symbol ".",
          inRole "name" (choice [genericOperand parts, identifier])])]),
      goOn "conditional_access_expression" "condition" (do
        look fun ts => match ts with
          | a :: b :: _ => a.tree.stop.offset == b.tree.start.offset && b.text == "["
          | _ => false
        seq [symbol "?", part (elementBinding parts)]),
      postfix_ (part (symbolOf ["++", "--"])),
      postfix_ (do
        let mark ← symbol "!"
        look fun ts => !startsCastOperand ts || nextIs wordsAfterOperand ts ||
          nextIs ["+", "-", "&", "*", "^", "++", "--", "("] ts
        pure mark),
      pure t]

/-- An operand with what follows it. -/
def postfixRule (parts : Parts) : Rule SyntaxTree := do
  let t ← primaryRule parts
  fun ts => postfixFrom parts ts.length t ts

/-- An operand with the operators before it. -/
def unaryRule (parts : Parts) : Rule SyntaxTree :=
  choice [
    castRule parts,
    node "prefix_unary_expression" [
      part (symbolOf ["+", "-", "!", "~", "++", "--", "&", "*", "^"]), part (parts .unary)],
    do
      look fun ts => startsCastOperand (ts.drop 1) && !nextIs wordsAfterOperand (ts.drop 1)
      node "await_expression" [part (contextual ["await"]), part (parts .unary)],
    node "throw_expression" [symbol "throw", part (parts .expression)],
    node "ref_expression" [symbol "ref", part (parts .expression)],
    node "range_expression" [symbol "..", maybe (part (parts .unary))],
    postfixRule parts]

/-! ## Operators with two sides -/

/-- What follows the left side of an expression, with how tightly it binds. -/
inductive Link where
  /-- An operator with its right side, which a tighter operator after it may take for itself. Operators group
  to the right or to the left. -/
  | operator (type : String) (level : Nat) (toRight : Bool) (symbol : SyntaxTree)
      (right : Option SyntaxTree)
  /-- What completes an expression. -/
  | completion (level : Nat) (complete : SyntaxTree → SyntaxTree)

/-- How tightly a link binds. -/
def Link.level : Link → Nat
  | .operator _ level _ _ _ => level
  | .completion level _ => level

/-- The operators of each level, those that bind least first. -/
def levels : List (Nat × List String) :=
  [(3, ["??"]), (4, ["||"]), (5, ["&&"]), (6, ["|"]), (7, ["^"]), (8, ["&"]), (9, ["==", "!="]),
    (10, ["<", ">", "<=", ">="]), (11, ["<<", ">>", ">>>"]), (12, ["+", "-"]), (13, ["*", "/", "%"])]

/-- How tightly an operator binds. -/
def levelOf (operator : String) : Nat :=
  ((levels.find? fun l => l.2.contains operator).map Prod.fst).getD 0

/-- How tightly tests and casts by word, copies with changes, choices by pattern and ranges bind. -/
def testLevel : Nat := 10
@[inherit_doc testLevel] def withLevel : Nat := 14
@[inherit_doc testLevel] def switchLevel : Nat := 15
@[inherit_doc testLevel] def rangeLevel : Nat := 16

/-- A test of what an expression is. A type by itself makes a test without a pattern. The word for a type
that is found out makes one, too, and brackets after it then call the test. -/
def testLink (parts : Parts) : Rule Link := do
  let op ← symbolOf ["is"]
  let test (type left : SyntaxTree) : SyntaxTree :=
    .spanning "is_expression" [(some "left", left), (some "operator", op), (some "right", type)]
  choice [
    do
      let type ← choice [
        do
          look fun ts => nextIs ["("] (ts.drop 1)
          node "implicit_type" [part (contextual ["var"])],
        nameRule parts]
      look fun ts => nextIs ["("] ts && !(insideBrackets ts).any (·.text == "_")
      let arguments ← node "argument_list" [bracketed "(" (part (argumentRule parts)) ")"]
      look fun ts => !nextIs ["\x7b"] ts &&
        !ts.head?.any fun t => t.tree.type == "identifier" && !wordsAfterOperand.contains t.text
      pure (.completion testLevel fun left =>
        .spanning "invocation_expression" [(some "function", test type left), (some "arguments", arguments)]),
    do
      let pattern ← parts .pattern
      match pattern.type, pattern.branches with
      | "type_pattern", [(_, type)] => pure (.completion testLevel (test type))
      | _, _ => pure (.completion testLevel fun left => .spanning "is_pattern_expression"
          [(some "expression", left), (none, op), (some "pattern", pattern)])]

/-- A link that binds at least as tightly as `floor`. -/
def linkRule (floor : Nat) (parts : Parts) : Rule Link :=
  let binary (op : Rule SyntaxTree) : Rule Link := do
    let op ← op
    let level := levelOf op.type
    if floor ≤ level then pure () else failure
    let right ← parts .unary
    pure (.operator "binary_expression" level (op.type == "??") op (some right))
  let above (level : Nat) (r : Rule Link) : Rule Link := do
    if floor ≤ level then r else failure
  let completed (r : Rule (String × Branches)) (level : Nat) : Rule Link := do
    let (type, more) ← r
    pure (.completion level fun left => .spanning type (plain left ++ more))
  choice [
    binary (joined ">>>"),
    do
      look fun ts => !nextIs [">="] (ts.drop 2) || !touchesNext (ts.drop 1)
      binary (joined ">>"),
    do
      look fun ts => !touchesNext ts
      binary (symbolOf (levels.flatMap Prod.snd)),
    above testLevel (testLink parts),
    above testLevel do
      let op ← symbolOf ["as"]
      let type ← parts .testedType
      pure (.completion testLevel fun left => .spanning "as_expression"
        [(some "left", left), (some "operator", op), (some "right", type)]),
    do
      let op ← symbolOf [".."]
      let right ← (some <$> parts .unary) <|> pure none
      pure (.operator "range_expression" rangeLevel true op right),
    completed ((fun bs => ("switch_expression", bs)) <$>
      seq [symbol "switch", bracketed "\x7b" (part (switchArm parts)) "\x7d"]) switchLevel,
    completed ((fun bs => ("with_expression", bs)) <$>
      seq [part (contextual ["with"]), bracketed "\x7b" (part (node "with_initializer" [
        part identifier, symbol "=", part (parts .expression)])) "\x7d"]) withLevel]

/-- An expression over an operator and its two sides. A range has no roles. -/
def joining (type : String) (left op : SyntaxTree) (right : Option SyntaxTree) : SyntaxTree :=
  if type = "range_expression" then
    .spanning type (plain left ++ plain op ++ (right.map plain).getD [])
  else
    .spanning type ([(some "left", left), (some "operator", op)] ++
      (right.map fun r => (some "right", r)).toList)

/-- An operator that waits for its right side to be complete. -/
structure Waiting where
  left : SyntaxTree
  type : String
  level : Nat
  operator : SyntaxTree

/-- Closes the operators that wait for their right side and bind at least as tightly as the next link; the
last one comes first. -/
def settle (level : Nat) (toRight : Bool) :
    List Waiting → Option SyntaxTree → List Waiting × Option SyntaxTree
  | [], right => ([], right)
  | w :: rest, right =>
    if level < w.level ∨ (level = w.level ∧ !toRight) then
      settle level toRight rest (some (joining w.type w.left w.operator right))
    else (w :: rest, right)

/-- The expression over operands and the links between them. -/
def assemble (waiting : List Waiting) (current : Option SyntaxTree) : List Link → Option SyntaxTree
  | [] => (settle 0 false waiting current).2
  | .operator type level toRight op right :: rest =>
    let (waiting, left) := settle level toRight waiting current
    match left with
    | none => none
    | some left => assemble (⟨left, type, level, op⟩ :: waiting) right rest
  | .completion level complete :: rest =>
    let (waiting, left) := settle level false waiting current
    match left with
    | none => none
    | some left => assemble waiting (some (complete left)) rest

/-- The links that follow an operand, at most `count`. -/
def links (floor : Nat) (parts : Parts) : Nat → Rule (List Link)
  | 0 => pure []
  | count + 1 => (do
      let l ← linkRule floor parts
      let rest ← links floor parts count
      pure (l :: rest)) <|> pure []

/-- An expression of operators that bind at least as tightly as `floor`. -/
def operationRule (floor : Nat) (parts : Parts) : Rule SyntaxTree := do
  let first ← parts .unary
  let ls ← fun ts => links floor parts ts.length ts
  match assemble [] (some first) ls with
  | some t => pure t
  | none => failure

/-! ## Functions -/

/-- Whether an arrow follows the brackets at the beginning of a list of tokens. -/
def arrowAfterBrackets (ts : List Token) : Bool :=
  nextIs ["("] ts && nextIs ["=>"] (afterBrackets ts)

/-- A function without a name. -/
def lambdaRule (parts : Parts) : Rule SyntaxTree :=
  node "lambda_expression" [
    attributeLists parts,
    many (do
      look fun ts => !nextIs ["=>"] (ts.drop 1)
      part (modifierLeaf ["static", "async"])),
    choice [
      do
        look fun ts => nextIs ["=>"] (ts.drop 1)
        inRole "parameters" (renamed "implicit_parameter" identifier),
      do
        look arrowAfterBrackets
        inRole "parameters" (parameterList parts),
      do
        let type ← parts .type
        look arrowAfterBrackets
        let ps ← inRole "parameters" (parameterList parts)
        pure ((some "type", type) :: ps)],
    symbol "=>",
    inRole "body" (choice [parts .block, parts .expression])]

/-! ## Queries -/

/-- The clause that gives a query its elements. -/
def fromClause (parts : Parts) : Rule SyntaxTree :=
  node "from_clause" [part (contextual ["from"]),
    choice [
      seq [inRole "name" identifier, symbol "in"],
      seq [inRole "type" (parts .type), inRole "name" identifier, symbol "in"]],
    part (parts .expression)]

/-- A clause between the first and the last one of a query. -/
def queryClause (parts : Parts) : Rule SyntaxTree :=
  let expression := part (parts .expression)
  choice [
    fromClause parts,
    node "join_clause" [part (contextual ["join"]),
      choice [
        seq [part identifier, symbol "in"],
        seq [inRole "type" (parts .type), part identifier, symbol "in"]],
      expression, part (contextual ["on"]), expression, part (contextual ["equals"]), expression,
      maybe (part (node "join_into_clause" [part (contextual ["into"]), part identifier]))],
    node "let_clause" [part (contextual ["let"]), part identifier, symbol "=", expression],
    node "order_by_clause" [part (contextual ["orderby"]),
      separated "," (seq [expression, maybe (part (contextual ["ascending", "descending"]))])],
    node "where_clause" [part (contextual ["where"]), expression]]

/-- What follows the first clause of a query, and again after each of at most `count` names for what was
selected. -/
def queryBody (parts : Parts) : Nat → Rule Branches
  | 0 => failure
  | count + 1 => seq [
    many (part (queryClause parts)),
    part (choice [
      node "select_clause" [part (contextual ["select"]), part (parts .expression)],
      node "group_clause" [part (contextual ["group"]), part (parts .expression), part (contextual ["by"]),
        part (parts .expression)]]),
    maybe (seq [part (contextual ["into"]), part identifier, queryBody parts count])]

/-- A query. -/
def queryRule (parts : Parts) : Rule SyntaxTree := do
  look (nextIs ["from"])
  node "query_expression" [part (fromClause parts), fun ts => queryBody parts ts.length ts]

/-! ## Expressions -/

/-- The operators that assign. -/
def assignments : List String :=
  ["=", "+=", "-=", "*=", "/=", "%=", "&=", "|=", "^=", "<<=", "??="]

/-- An assignment to what stands on its left side. -/
def assignmentTo (parts : Parts) (left : SyntaxTree) : Rule SyntaxTree := do
  let op ← choice [joined ">>>=", joined ">>=", symbolOf assignments]
  let right ← parts .expression
  pure (.spanning "assignment_expression" [(some "left", left), (some "operator", op), (some "right", right)])

/-- A choice between two expressions by a condition. -/
def conditionalOn (parts : Parts) (left : SyntaxTree) : Rule SyntaxTree := do
  let rest ← seq [symbol "?", inRole "consequence" (parts .expression), symbol ":",
    inRole "alternative" (parts .expression)]
  pure (.spanning "conditional_expression" ((some "condition", left) :: rest))

/-- An expression that is neither an assignment nor a function. -/
def conditionRule (parts : Parts) : Rule SyntaxTree := do
  let left ← parts .operation
  choice [conditionalOn parts left, pure left]

/-- Any expression. -/
def expressionRule (parts : Parts) : Rule SyntaxTree :=
  choice [
    lambdaRule parts,
    queryRule parts,
    do
      look fun ts => nextIs ["["] ts && nextIs assignments (afterBrackets ts)
      let place ← elementBinding parts
      assignmentTo parts place,
    do
      let left ← parts .operation
      choice [assignmentTo parts left, conditionalOn parts left, pure left],
    initializer parts]

/-! ## Patterns -/

/-- The words that go on after a pattern. -/
def wordsAfterPattern : List String :=
  ["and", "or", "when", "is", "as", "switch", "with", "select", "where", "orderby", "descending", "ascending",
    "equals", "into", "join", "let", "group", "on", "by", "from"]

/-- The name that a pattern gives to what it matches. A word that is followed by an operand goes on after the
pattern and is no name. -/
def designation : Rule Branches := do
  look fun ts => !nextIs ["and", "or", "when"] ts && !((ts.drop 1).head?.any fun t =>
    (t.tree.type == "identifier" && !wordsAfterPattern.contains t.text) || literalTypes.contains t.tree.type)
  choice [part (renamed "discard" (contextual ["_"])), inRole "name" identifier]

/-- A pattern for the properties of an object. -/
def propertyPattern (parts : Parts) : Rule SyntaxTree :=
  node "property_pattern_clause" [bracketed "\x7b" (part (node "subpattern" [
    maybe (seq [part (parts .unary), symbol ":"]), part (parts .pattern)])) "\x7d"]

/-- A pattern for the parts of an object. -/
def positionalPattern (parts : Parts) : Rule SyntaxTree :=
  node "positional_pattern_clause" [bracketed "(" (part (node "subpattern" [
    maybe (seq [part identifier, symbol ":"]), part (parts .pattern)])) ")"]

/-- A pattern that is an expression. No other pattern goes on from it, it discards nothing, and it does not
take the word for a type that is found out for a function. -/
def constantPattern (parts : Parts) : Rule SyntaxTree := do
  look fun ts => !(nextIs ["var"] ts && nextIs ["("] (ts.drop 1))
  let t ← fun ts => do
    let (t, rest) ← node "constant_pattern" [part (parts .term)] ts
    if (ts.take (ts.length - rest.length)).any (·.text == "_") then none else some (t, rest)
  look fun ts => !nextIs ["[", "\x7b", "("] ts && !ts.head?.any fun t =>
    t.tree.type == "identifier" && !wordsAfterPattern.contains t.text
  pure t

/-- What follows the type of a pattern for an object. -/
def recursiveRest (parts : Parts) : Rule Branches :=
  choice [
    seq [part (positionalPattern parts), maybe (part (propertyPattern parts)), maybe designation],
    seq [part (propertyPattern parts), maybe designation]]

/-- A pattern without words between patterns. Brackets that could hold arguments make an expression. -/
def patternStem (parts : Parts) : Rule SyntaxTree :=
  choice [
    node "negated_pattern" [part (contextual ["not"]), part (parts .pattern)],
    node "relational_pattern" [part (symbolOf ["<", "<=", ">", ">="]), part (parts .condition)],
    renamed "discard" (contextual ["_"]),
    node "list_pattern" [bracketed "[" (choice [
      seq [symbol "..", maybe (part (parts .pattern))], part (parts .pattern)]) "]", maybe designation],
    constantPattern parts,
    do
      let t ← node "parenthesized_pattern" [symbol "(", part (parts .pattern), symbol ")"]
      look fun ts => !nextIs ["\x7b"] ts
      pure t,
    node "recursive_pattern" [recursiveRest parts],
    node "recursive_pattern" [inRole "type" (parts .testedType), recursiveRest parts],
    node "declaration_pattern" [inRole "type" (parts .testedType), designation],
    node "type_pattern" [inRole "type" (parts .testedType)]]

/-- Any pattern. -/
def patternRule (parts : Parts) : Rule SyntaxTree :=
  leftGrouped "or_pattern" (contextual ["or"])
    (leftGrouped "and_pattern" (contextual ["and"]) (patternStem parts))

end SolutionSurvey.CSharp
