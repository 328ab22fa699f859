import SolutionSurvey.CSharp.StatementRule

/-!
# Declarations of C#

## Main definitions

* `CSharp.typeDeclaration` — types and delegates.
* `CSharp.memberRule` — what may stand in a type or a namespace.
* `CSharp.unitRule` — the items of a whole source.
* `CSharp.fault` — a token that belongs to no item.
-/

namespace SolutionSurvey.CSharp

/-! ## Faults -/

/-- The type of the nodes over tokens that belong nowhere. -/
def faultType : String := "ERROR"

/-- A token that belongs to no item, unless it closes the list of items. -/
def fault (closing : List String) : Rule SyntaxTree :=
  node faultType [part (Token.tree <$> tokenIf fun t => !closing.contains t.text)]

/-! ## Types -/

/-- Declarations in curly brackets. -/
def declarationList (parts : Parts) : Rule SyntaxTree :=
  node "declaration_list" [symbol "\x7b",
    many (part (choice [parts .member, fault ["\x7d"]])), symbol "\x7d"]

/-- A base type, which may be given arguments. -/
def baseType (parts : Parts) : Rule Branches :=
  seq [part (parts .type), maybe (part (argumentList parts))]

/-- A base type of a record. One that is given arguments is a node of its own. -/
def recordBase (parts : Parts) : Rule Branches :=
  choice [
    part (node "primary_constructor_base_type" [inRole "type" (nameRule parts), part (argumentList parts)]),
    part (nameRule parts)]

/-- The types that a type is built on. -/
def baseList (r : Rule Branches) : Rule SyntaxTree :=
  node "base_list" [symbol ":", separated "," r]

/-- What stands between the name of a type and its body, with a rule for what it is built on. -/
def typeHead (parts : Parts) (base : Rule Branches) : Rule Branches :=
  seq [maybe (part (typeParameters parts)), maybe (part (parameterList parts)),
    maybe (part (baseList base)), constraints parts]

/-- A part that may be followed by a semicolon. One that touches the part belongs to it and is not shown. -/
def closedBy (r : Rule SyntaxTree) : Rule SyntaxTree := do
  let body ← r
  fun ts =>
    match ts with
    | t :: rest =>
      if t.text = ";" ∧ t.tree.start.offset = body.stop.offset then some (body, rest) else some (body, ts)
    | [] => some (body, ts)

/-- The body of a type, which may be missing. -/
def typeBody (parts : Parts) : Rule Branches :=
  choice [inRole "body" (closedBy (declarationList parts)), symbol ";"]

/-- A member of an enumeration. -/
def enumMember (parts : Parts) : Rule SyntaxTree :=
  node "enum_member_declaration" [attributeLists parts, inRole "name" identifier,
    maybe (seq [symbol "=", do
      let value ← valueUpTo parts [",", "\x7d"]
      pure (value.map fun b => (some "value", b.2))])]

/-- The members of an enumeration. One may stand between directives. -/
def enumMembers (parts : Parts) : Rule SyntaxTree :=
  node "enum_member_declaration_list" [bracketed "\x7b" (part (choice [enumMember parts,
    conditionalOne "preproc_if" (part (enumMember parts))])) "\x7d"]

/-- A declaration of a type or a delegate. The contextual modifiers count only if `all` of them do. -/
def typeDeclarationWith (all : Bool) (parts : Parts) : Rule SyntaxTree :=
  let start : Rule Branches := seq [attributeLists parts, modifiers all]
  choice [
    node "class_declaration" [start, symbol "class", inRole "name" identifier, typeHead parts (baseType parts),
      typeBody parts],
    node "struct_declaration" [start, maybe (symbol "ref"), maybe (part (do
        if all then pure () else failure
        node "modifier" [part (contextual ["partial"])])), symbol "struct", inRole "name" identifier,
      typeHead parts (baseType parts), typeBody parts],
    node "interface_declaration" [start, symbol "interface", inRole "name" identifier,
      typeHead parts (baseType parts), typeBody parts],
    node "enum_declaration" [start, symbol "enum", inRole "name" identifier,
      maybe (part (baseList (baseType parts))), inRole "body" (closedBy (enumMembers parts))],
    node "record_declaration" [start, part (contextual ["record"]),
      maybe (part (symbolOf ["class", "struct"])), inRole "name" identifier,
      typeHead parts (recordBase parts), typeBody parts],
    node "delegate_declaration" [start, symbol "delegate", inRole "type" (parts .type),
      inRole "name" identifier, maybe (inRole "type_parameters" (typeParameters parts)),
      inRole "parameters" (parameterList parts), constraints parts, symbol ";"]]

/-- A declaration of a type or a delegate. -/
def typeDeclaration (parts : Parts) : Rule SyntaxTree :=
  choice [typeDeclarationWith true parts, typeDeclarationWith false parts]

/-! ## Members -/

/-- The names up to a point that say which interface a member implements, at most `count` of them after
the first one. -/
def interfaceFrom (parts : Parts) : Nat → SyntaxTree → Rule SyntaxTree
  | 0, left => pure left
  | count + 1, left => (do
      let point ← symbol "."
      let right ← simpleName parts
      look (nextIs ["."])
      interfaceFrom parts count (.spanning "qualified_name"
        ([(some "qualifier", left)] ++ point ++ [(some "name", right)]))) <|> pure left

/-- The interface that a member implements. -/
def explicitInterface (parts : Parts) : Rule SyntaxTree :=
  named "explicit_interface_specifier" (do
    let first ← firstName parts
    look (nextIs ["."])
    let name ← fun ts => interfaceFrom parts ts.length first ts
    let point ← symbol "."
    pure (plain name ++ point))

/-- The symbols that operators can be declared for. -/
def operatorSymbols : List String :=
  ["+", "-", "*", "/", "%", "&", "|", "^", "!", "~", "++", "--", "<<", "==", "!=", "<", ">", "<=", ">=",
    "true", "false", "is"]

/-- The symbol of an operator. -/
def operatorSymbol : Rule SyntaxTree :=
  choice [joined ">>>", do
    let s ← joined ">>"
    look fun ts => !nextIs [">"] ts
    pure s, symbolOf operatorSymbols]

/-- An accessor of a property or an event. -/
def accessor (parts : Parts) : Rule SyntaxTree :=
  node "accessor_declaration" [attributeLists parts, modifiers false,
    inRole "name" (contextual ["get", "set", "init", "add", "remove"]), functionBody parts]

/-- Accessors in curly brackets. -/
def accessorList (parts : Parts) : Rule SyntaxTree :=
  node "accessor_list" [symbol "\x7b", many (part (choice [accessor parts, fault ["\x7d"]])), symbol "\x7d"]

/-- What follows the type of a member that has one. -/
def typedMember (parts : Parts) (start : Branches) (type : SyntaxTree) : Rule SyntaxTree :=
  let shaped (name role : String) (r : Rule Branches) : Rule SyntaxTree :=
    named name (do
      let rest ← r
      pure (start ++ (some role, type) :: rest))
  let explicit := maybe (part (explicitInterface parts))
  choice [
    shaped "operator_declaration" "type" (seq [explicit, symbol "operator",
      maybe (symbol "checked"), inRole "operator" operatorSymbol,
      inRole "parameters" (parameterList parts), functionBody parts]),
    shaped "indexer_declaration" "type" (seq [explicit, symbol "this",
      inRole "parameters" (bracketedParameterList parts),
      choice [inRole "accessors" (accessorList parts),
        seq [inRole "value" (arrowClause parts), symbol ";"]]]),
    shaped "method_declaration" "returns" (seq [explicit, inRole "name" identifier,
      maybe (inRole "type_parameters" (typeParameters parts)), inRole "parameters" (parameterList parts),
      constraints parts, functionBody parts]),
    shaped "property_declaration" "type" (seq [explicit, inRole "name" identifier, choice [
      seq [inRole "accessors" (accessorList parts),
        maybe (seq [symbol "=", do
          let value ← valueUpTo parts [";"]
          pure (value.map fun b => (some "value", b.2)), symbol ";"])],
      seq [inRole "value" (arrowClause parts), symbol ";"]]])]

/-- What ends the life of an object. Only a word for an outside body may stand before it. -/
def destructor (parts : Parts) : Rule SyntaxTree :=
  node "destructor_declaration" [attributeLists parts, maybe (symbol "extern"), symbol "~",
    inRole "name" identifier, inRole "parameters" (parameterList parts), functionBody parts]

/-- A member of a type. The contextual modifiers count only if `all` of them do. -/
def memberWith (all : Bool) (parts : Parts) : Rule SyntaxTree := do
  let start ← seq [attributeLists parts, modifiers all]
  let shaped (name : String) (r : Rule Branches) : Rule SyntaxTree :=
    named name ((start ++ ·) <$> r)
  choice [
    shaped "event_field_declaration" (seq [symbol "event", part (variableDeclaration parts [";"]),
      symbol ";"]),
    shaped "event_declaration" (seq [symbol "event", inRole "type" (parts .type),
      maybe (part (explicitInterface parts)), inRole "name" identifier,
      choice [inRole "accessors" (accessorList parts), symbol ";"]]),
    shaped "conversion_operator_declaration" (seq [part (symbolOf ["implicit", "explicit"]),
      maybe (part (explicitInterface parts)), symbol "operator", maybe (symbol "checked"),
      inRole "type" (parts .type), inRole "parameters" (parameterList parts), functionBody parts]),
    shaped "constructor_declaration" (seq [inRole "name" identifier,
      inRole "parameters" (parameterList parts),
      maybe (part (node "constructor_initializer" [symbol ":", part (symbolOf ["base", "this"]),
        part (argumentList parts)])),
      functionBody parts]),
    do
      let type ← parts .type
      choice [
        typedMember parts start type,
        named "field_declaration" (do
          let names ← separated "," (part (variableDeclarator parts [",", ";"]))
          let stop ← symbol ";"
          pure (start ++ plain (.spanning "variable_declaration" ((some "type", type) :: names)) ++ stop))]]

/-! ## Namespaces and whole sources -/

/-- A directive that names an alias from outside. -/
def externAlias : Rule SyntaxTree :=
  node "extern_alias_directive" [symbol "extern", part (contextual ["alias"]), inRole "name" identifier,
    symbol ";"]

/-- A directive that opens a namespace or gives a name to a type. -/
def usingDirective (parts : Parts) : Rule SyntaxTree :=
  node "using_directive" [maybe (part (contextual ["global"])), symbol "using", choice [
      seq [maybe (symbol "unsafe"), inRole "name" identifier, symbol "=", part (parts .type)],
      seq [maybe (symbol "static"), maybe (symbol "unsafe"), part (nameRule parts)]],
    symbol ";"]

/-- A namespace with its declarations in brackets, or one for the rest of the source. -/
def namespaceRule (parts : Parts) : Rule SyntaxTree :=
  choice [
    node "namespace_declaration" [symbol "namespace", inRole "name" (nameRule parts),
      inRole "body" (closedBy (declarationList parts))],
    node "file_scoped_namespace_declaration" [symbol "namespace", inRole "name" (nameRule parts),
      symbol ";"]]

/-- Attributes of the whole program. -/
def globalAttribute (parts : Parts) : Rule SyntaxTree :=
  node "global_attribute" [symbol "[", part (contextual ["assembly", "module"]), symbol ":",
    separated "," (part (attributeRule parts)), maybe (symbol ","), symbol "]"]

/-- Whatever may be declared in a type or a namespace. -/
def memberRule (parts : Parts) : Rule SyntaxTree :=
  choice [conditional (part (parts .member)), namespaceRule parts, usingDirective parts, externAlias,
    typeDeclaration parts, destructor parts, memberWith true parts, memberWith false parts]

/-- A declaration beside the statements of a source. -/
def declarationRule (parts : Parts) : Rule SyntaxTree :=
  choice [namespaceRule parts, usingDirective parts, externAlias, globalAttribute parts,
    typeDeclaration parts]

/-- An item of a whole source: a declaration, a statement, or some of them between directives. -/
def unitItem (parts : Parts) : Rule SyntaxTree :=
  choice [
    conditional (part (choice [declarationRule parts, parts .statement])),
    declarationRule parts,
    node "global_statement" [part (parts .statement)]]

/-- All items of a source. -/
def unitRule (parts : Parts) : Rule Branches :=
  many (part (choice [unitItem parts, fault []]))

end SolutionSurvey.CSharp
