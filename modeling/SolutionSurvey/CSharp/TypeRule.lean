import SolutionSurvey.CSharp.Conditional

/-!
# Names, types and parameters of C#

## Main definitions

* `CSharp.nameRule`, `CSharp.simpleName` — names.
* `CSharp.typeRule` — types.
* `CSharp.attributeLists`, `CSharp.parameterList`, `CSharp.typeParameters`, `CSharp.constraints` — the
  parts that declarations share.
-/

namespace SolutionSurvey.CSharp

/-! ## Names -/

/-- A list of type arguments, which may all be left out. -/
def typeArguments (parts : Parts) : Rule SyntaxTree :=
  choice [
    node "type_argument_list" [symbol "<", separated "," (part (parts .type)), symbol ">"],
    node "type_argument_list" [symbol "<", many (symbol ","), symbol ">"]]

/-- An identifier with type arguments or without. -/
def simpleName (parts : Parts) : Rule SyntaxTree :=
  choice [node "generic_name" [part identifier, part (typeArguments parts)], identifier]

/-- A name that goes on from its left part, at most `count` more parts. -/
def nameFrom (parts : Parts) : Nat → SyntaxTree → Rule SyntaxTree
  | 0, left => pure left
  | count + 1, left => (do
      let point ← symbol "."
      let right ← simpleName parts
      nameFrom parts count (.spanning "qualified_name"
        ([(some "qualifier", left)] ++ point ++ [(some "name", right)]))) <|> pure left

/-- The first part of a name, which may follow an alias. -/
def firstName (parts : Parts) : Rule SyntaxTree :=
  choice [
    node "alias_qualified_name" [inRole "alias" identifier, symbol "::",
      inRole "name" (simpleName parts)],
    simpleName parts]

/-- A name of one or more parts. -/
def nameRule (parts : Parts) : Rule SyntaxTree := do
  let first ← firstName parts
  fun ts => nameFrom parts ts.length first ts

/-! ## Types -/

/-- The brackets behind the element type of an array. -/
def arrayRank : Rule SyntaxTree :=
  node "array_rank_specifier" [symbol "[", many (symbol ","), symbol "]"]

/-- An element of a tuple type. -/
def tupleElement (parts : Parts) : Rule SyntaxTree :=
  node "tuple_element" [inRole "type" (parts .type), maybe (inRole "name" identifier)]

/-- How a function behind a pointer is called. -/
def callingConvention : Rule SyntaxTree :=
  node "calling_convention" [choice [
    part (contextual ["managed"]),
    seq [part (contextual ["unmanaged"]), maybe (seq [symbol "[",
      separated "," (part (choice [contextual ["Cdecl", "Stdcall", "Thiscall", "Fastcall"], identifier])),
      symbol "]"])]]]

/-- A parameter of a function behind a pointer. What comes last in the list is its result. -/
def pointedParameter (parts : Parts) : Rule Branches :=
  seq [part (node "function_pointer_parameter" [maybe (part (symbolOf ["ref", "out", "in"])),
    maybe (symbol "readonly"), inRole "type" (parts .type)]), symbol ","]

/-- A type before anything that may follow it. The word for a type that is found out is a name where the
type goes on. -/
def typeStem (parts : Parts) : Rule SyntaxTree :=
  choice [
    ofType "predefined_type",
    do
      look fun ts => !nextIs [".", "::", "<", "?", "*", "["] (ts.drop 1)
      node "implicit_type" [part (contextual ["var"])],
    do
      look fun ts => !nextIs ["::", "<"] (ts.drop 1)
      renamed "predefined_type" (contextual ["nint", "nuint"]),
    node "ref_type" [symbol "ref", maybe (symbol "readonly"), inRole "type" (parts .type)],
    do
      look fun ts => nextIs ["ref"] (ts.drop 1) || (ts.drop 2).head?.any fun t =>
        t.tree.type == "identifier" || ["<", ".", "::", "?", "[", "*"].contains t.text
      node "scoped_type" [part (contextual ["scoped"]), inRole "type" (parts .type)],
    node "tuple_type" [symbol "(", part (tupleElement parts), symbol ",",
      separated "," (part (tupleElement parts)), symbol ")"],
    node "function_pointer_type" [symbol "delegate", symbol "*", maybe (part callingConvention), symbol "<",
      many (pointedParameter parts), inRole "returns" (parts .type), symbol ">"],
    nameRule parts]

/-- Spellings after a question mark that show that it belongs to the type before it. -/
def afterNullable : List String :=
  [";", ")", ",", "]", "\x7d", ">", "&&", "||", "??", ":", "=>", "=", "==", "!=", "and", "or"]

/-- What may follow a type: question marks, stars and brackets. In an expression a question mark belongs to
the type only if nothing follows that could be a consequence. -/
def typeFrom (tested : Bool) : Nat → SyntaxTree → Rule SyntaxTree
  | 0, t => pure t
  | count + 1, t =>
    choice [
      do
        look fun ts => !tested || nextIs afterNullable (ts.drop 1)
        let mark ← symbol "?"
        typeFrom tested count (.spanning "nullable_type" ([(some "type", t)] ++ mark)),
      do
        let star ← symbol "*"
        typeFrom tested count (.spanning "pointer_type" ([(some "type", t)] ++ star)),
      do
        let rank ← arrayRank
        typeFrom tested count (.spanning "array_type" [(some "type", t), (some "rank", rank)]),
      pure t]

/-- A type. -/
def typeRule (tested : Bool) (parts : Parts) : Rule SyntaxTree := do
  let stem ← typeStem parts
  fun ts => typeFrom tested ts.length stem ts

/-- The type of an array that is created: brackets that may hold sizes, at most `count` of them. -/
def createdFrom (parts : Parts) : Nat → SyntaxTree → Rule SyntaxTree
  | 0, t => pure t
  | count + 1, t => (do
      let rank ← node "array_rank_specifier" [symbol "[", choice [
        seq [separated "," (part (parts .expression))], many (symbol ",")], symbol "]"]
      createdFrom parts count (.spanning "array_type" [(some "type", t), (some "rank", rank)])) <|> pure t

/-- What may follow the type of the elements of an array that is created: question marks and stars. -/
def elementFrom : Nat → SyntaxTree → Rule SyntaxTree
  | 0, t => pure t
  | count + 1, t =>
    choice [
      do
        let mark ← symbol "?"
        elementFrom count (.spanning "nullable_type" ([(some "type", t)] ++ mark)),
      do
        let star ← symbol "*"
        elementFrom count (.spanning "pointer_type" ([(some "type", t)] ++ star)),
      pure t]

/-- The type of an array that is created. -/
def createdArray (parts : Parts) : Rule SyntaxTree := do
  let stem ← typeStem parts
  let element ← fun ts => elementFrom ts.length stem ts
  look (nextIs ["["])
  fun ts => createdFrom parts ts.length element ts

/-! ## Attributes -/

/-- An argument of an attribute. -/
def attributeArgument (parts : Parts) : Rule SyntaxTree :=
  choice [
    node "attribute_argument" [part identifier, part (symbolOf ["=", ":"]), part (parts .expression)],
    node "attribute_argument" [part (parts .expression)]]

/-- An attribute. -/
def attributeRule (parts : Parts) : Rule SyntaxTree :=
  node "attribute" [inRole "name" (nameRule parts),
    maybe (part (choice [
      node "attribute_argument_list" [bracketed "(" (part (attributeArgument parts)) ")"],
      node "attribute_argument_list" [symbol "(", maybe (balanced []), symbol ")"]]))]

/-- What an attribute list is about. -/
def attributeTarget : Rule SyntaxTree :=
  node "attribute_target_specifier" [
    part (Token.keyword <$> tokenIf fun t => t.tree.branches.isEmpty && t.text != "]"), symbol ":"]

/-- An attribute list. -/
def attributeList (parts : Parts) : Rule SyntaxTree :=
  node "attribute_list" [symbol "[", maybe (part attributeTarget),
    separated "," (part (attributeRule parts)), maybe (symbol ","), symbol "]"]

/-- Any number of attribute lists. One may stand between directives. -/
def attributeLists (parts : Parts) : Rule Branches :=
  many (part (choice [attributeList parts,
    conditionalOne "preproc_if_in_attribute_list" (part (attributeList parts))]))

/-! ## Parameters -/

/-- A modifier of one of some spellings. -/
def modifierOf (spellings : List String) : Rule SyntaxTree :=
  node "modifier" [part (symbolOf spellings)]

/-- A modifier of one of some spellings, as a leaf. -/
def modifierLeaf (spellings : List String) : Rule SyntaxTree :=
  renamed "modifier" (wordOf spellings)

/-- The value that a declaration gives: an expression that ends where the declaration lets it end. -/
def valueUpTo (parts : Parts) (stops : List String) : Rule Branches :=
  choice [
    do
      let value ← parts .expression
      look fun ts => ts.isEmpty || nextIs stops ts
      pure (plain value),
    balanced stops]

/-- The modifiers of a parameter. -/
def parameterModifiers : List String :=
  ["this", "scoped", "ref", "out", "in", "readonly"]

/-- A parameter. A word that could be a modifier is the type if no other type follows, and the type may be
missing. -/
def parameterRule (parts : Parts) : Rule SyntaxTree :=
  let typed (modifiers : List String) : Rule Branches :=
    seq [many (part (modifierLeaf modifiers)), inRole "type" (parts .type), inRole "name" identifier]
  node "parameter" [attributeLists parts,
    choice [typed parameterModifiers, typed (parameterModifiers.erase "scoped"), inRole "name" identifier],
    maybe (seq [symbol "=", valueUpTo parts [",", ")", "]"]])]

/-- The last parameter of a list, if it takes any number of arguments, without a node of its own. -/
def openParameter (parts : Parts) : Rule Branches :=
  seq [attributeLists parts, symbol "params", inRole "type" (parts .type), inRole "name" identifier]

/-- Parameters in brackets. -/
def parameters (parts : Parts) (opening closing : String) : Rule Branches :=
  bracketed opening (choice [openParameter parts, part (parameterRule parts)]) closing

/-- A list of parameters. -/
def parameterList (parts : Parts) : Rule SyntaxTree :=
  node "parameter_list" [parameters parts "(" ")"]

/-- A list of parameters in square brackets. -/
def bracketedParameterList (parts : Parts) : Rule SyntaxTree :=
  node "bracketed_parameter_list" [parameters parts "[" "]"]

/-- A list of type parameters. -/
def typeParameters (parts : Parts) : Rule SyntaxTree :=
  node "type_parameter_list" [symbol "<",
    separated "," (part (node "type_parameter" [attributeLists parts, maybe (part (symbolOf ["in", "out"])),
      inRole "name" identifier])),
    symbol ">"]

/-- What a constraint asks of a type parameter. -/
def constraintRule (parts : Parts) : Rule SyntaxTree :=
  node "type_parameter_constraint" [choice [
    seq [symbol "class", maybe (symbol "?")],
    symbol "struct",
    symbol "default",
    part (node "constructor_constraint" [symbol "new", symbol "(", symbol ")"]),
    part (contextual ["notnull", "unmanaged"]),
    inRole "type" (parts .type)]]

/-- Any number of clauses with constraints. -/
def constraints (parts : Parts) : Rule Branches :=
  many (part (node "type_parameter_constraints_clause" [part (contextual ["where"]), part identifier,
    symbol ":", separated "," (part (constraintRule parts))]))

end SolutionSurvey.CSharp
