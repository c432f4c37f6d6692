import TypedClient.Graphql.Parser
import TypedClient.Graphql.TypeSystem

/-!
# Reading schemas

The grammar of the schema definition language.
-/

namespace TypedClient

namespace Parser

def description? : Parser (Option String) := do
  match ← get with
  | .string s :: rest => set rest; return some s
  | _ => return none

def inputValue (depth : Nat) : Parser InputValue := do
  let description ← description?
  let (name, type) ← named (typeRef depth)
  return {
    description := description
    name := name
    type := type
    default := ← default? depth
    directives := ← directives depth }

def argumentDefinitions (depth : Nat) : Parser (List InputValue) :=
  ifOpening .round (deeper depth fun d => enclosedSome .round (inputValue d))

def fieldDefinition (depth : Nat) : Parser FieldDefinition := do
  let description ← description?
  let name ← name
  let arguments ← argumentDefinitions depth
  expect .colon
  return {
    description := description
    name := name
    arguments := arguments
    type := ← typeRef depth
    directives := ← directives depth }

def enumValue (depth : Nat) : Parser EnumValue := do
  return {
    description := ← description?
    name := ← name
    directives := ← directives depth }

/-- The items of a body in braces, if there is one. -/
def body {α : Type} (item : Nat → Parser α) : Parser (List α) :=
  ifOpening .curly (deeper nesting fun d => enclosedSome .curly (item d))

/-- One or more items with a separator between them, which may also stand before the first. -/
def separated {α : Type} (separator : Token) (item : Parser α) : Parser (List α) := do
  let _ ← accept separator
  let first ← item
  let rest ← manyWhile (· == separator) do
    expect separator
    item
  return first :: rest

def interfaces : Parser (List String) := do
  if ← accept (.name "implements") then separated .ampersand name else return []

def unionMembers : Parser (List String) := do
  if ← accept .equals then separated .bar name else return []

/-- Directives and body of a type whose keyword is given. -/
def typeBody (keyword : String) : Parser (List Directive × TypeBody) := do
  match keyword with
  | "scalar" => return (← directives nesting, .scalar)
  | "type" =>
    let interfaces ← interfaces
    return (← directives nesting, .object interfaces (← body fieldDefinition))
  | "interface" =>
    let interfaces ← interfaces
    return (← directives nesting, .interface interfaces (← body fieldDefinition))
  | "union" => return (← directives nesting, .union (← unionMembers))
  | "enum" => return (← directives nesting, .enum (← body enumValue))
  | "input" => return (← directives nesting, .input (← body inputValue))
  | _ => fail

/-- Where a directive may stand. -/
def directiveLocations : List String :=
  ["QUERY", "MUTATION", "SUBSCRIPTION", "FIELD", "FRAGMENT_DEFINITION", "FRAGMENT_SPREAD",
   "INLINE_FRAGMENT", "SCHEMA", "SCALAR", "OBJECT", "FIELD_DEFINITION", "ARGUMENT_DEFINITION",
   "INTERFACE", "UNION", "ENUM", "ENUM_VALUE", "INPUT_OBJECT", "INPUT_FIELD_DEFINITION",
   "VARIABLE_DEFINITION"]

def directiveLocation : Parser String := do
  match ← get with
  | .name s :: rest => if s ∈ directiveLocations then set rest; return s else fail
  | _ => fail

/-- A directive may have no locations at all. -/
def locations : Parser (List String) := do
  match ← peek? with
  | some (.name _) | some .bar => separated .bar directiveLocation
  | _ => return []

def directiveDefinition (description : Option String) : Parser DirectiveDefinition := do
  expect (.name "directive")
  expect .atSign
  let name ← name
  let arguments ← argumentDefinitions nesting
  let repeatable ← accept (.name "repeatable")
  expect (.name "on")
  return {
    description := description
    name := name
    arguments := arguments
    repeatable := repeatable
    locations := ← locations }

/-- The root type given for `keyword`; a kind may be given once. -/
def rootType? (keyword : String) (roots : List (String × String)) : Parser (Option String) :=
  match roots.filter (·.1 == keyword) with
  | [] => return none
  | [(_, name)] => return some name
  | _ => fail

def schemaDefinition : Parser SchemaDefinition := do
  expect (.name "schema")
  let directives ← directives nesting
  let roots ← enclosed .curly (named name)
  unless roots.all (·.1 ∈ ["query", "mutation", "subscription"]) do fail
  return {
    directives := directives
    query := ← rootType? "query" roots
    mutation := ← rootType? "mutation" roots
    subscription := ← rootType? "subscription" roots }

def typeExtension : Parser TypeExtension := do
  expect (.name "extend")
  let keyword ← name
  let name ← name
  let (directives, body) ← typeBody keyword
  let extension : TypeExtension := { name := name, directives := directives, body := body }
  unless extension.addsSomething do fail
  return extension

def typeDefinition (description : Option String) : Parser TypeDefinition := do
  let keyword ← name
  let name ← name
  let (directives, body) ← typeBody keyword
  return { description := description, name := name, directives := directives, body := body }

def typeSystemDefinition : Parser TypeSystemDefinition := do
  match ← peek? with
  | some (.name s) =>
    if s = "schema" then return .schema (← schemaDefinition)
    else if s = "extend" then return .extension (← typeExtension)
    else described none
  | _ => described (← description?)
where
  described (description : Option String) : Parser TypeSystemDefinition := do
    if (← peek?) = some (.name "directive") then
      return .directive (← directiveDefinition description)
    else return .type (← typeDefinition description)

end Parser

/-- The definitions of a schema text. -/
def TypeSystemDefinition.parse (text : String) : Except SyntaxError (List TypeSystemDefinition) :=
  (Parser.toEnd Parser.typeSystemDefinition).run text

end TypedClient
