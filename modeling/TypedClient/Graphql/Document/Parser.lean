import TypedClient.Graphql.Parser

/-!
# Reading documents

The grammar of operations and fragments.
-/

namespace TypedClient

namespace Parser

/-- A field, a fragment spread or an inline fragment, given how to read a selection set. -/
def selection (depth : Nat) (selections : Parser (List Selection)) : Parser Selection := do
  if ← accept .ellipsis then
    match ← peek? with
    | some (.name s) =>
      if s = "on" then
        let _ ← name
        return .inline (some (← name)) (← directives depth) (← selections)
      else return .spread (← name) (← directives depth)
    | _ => return .inline none (← directives depth) (← selections)
  else
    let first ← name
    let renamed ← accept .colon
    let head : FieldHead :=
      { responseAlias := if renamed then some first else none
        name := ← if renamed then name else pure first
        arguments := ← arguments depth
        directives := ← directives depth }
    return .field head (← ifOpening .curly selections)

def selections : Nat → Parser (List Selection)
  | 0 => fail
  | depth + 1 => enclosedSome .curly (selection depth (selections depth))

def variableDefinition (depth : Nat) : Parser VariableDefinition := do
  expect .dollar
  let (name, type) ← named (typeRef depth)
  return { name := name, type := type, default := ← default? depth }

def operationName? : Parser (Option String) := do
  match ← peek? with
  | some (.name _) => return some (← name)
  | _ => return none

def headedOperation (kind : OperationKind) : Parser Operation := do
  let _ ← name
  let name ← operationName?
  let vars ←
    ifOpening .round (deeper nesting fun d => enclosedSome .round (variableDefinition d))
  let directives ← directives nesting
  return .headed kind name vars directives (← selections nesting)

def fragment : Parser Fragment := do
  expect (.name "fragment")
  let name ← name
  expect (.name "on")
  return {
    name := name
    condition := ← Parser.name
    directives := ← directives nesting
    selections := ← selections nesting }

def definition : Parser Definition := do
  match ← peek? with
  | some (.opening .curly) => return .operation (.bare (← selections nesting))
  | some (.name s) =>
    if s = "query" then return .operation (← headedOperation .query)
    else if s = "mutation" then return .operation (← headedOperation .mutation)
    else if s = "subscription" then return .operation (← headedOperation .subscription)
    else return .fragment (← fragment)
  | _ => fail

end Parser

/-- The definitions of a document text. -/
def Definition.parse (text : String) : Except SyntaxError (List Definition) :=
  (Parser.toEnd Parser.definition).run text

end TypedClient
