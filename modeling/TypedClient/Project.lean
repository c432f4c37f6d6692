import TypedClient.FlatType
import TypedClient.FragmentClosure
import TypedClient.Operation.Convention
import TypedClient.Operation.Function

/-!
# Projects

From the operations of a project to their functions. Along the way the names of the types that the
functions mention are recorded; what is recorded before a failure stays recorded. A module imports
the recorded names in increasing order.
-/

namespace TypedClient

/-- Inserts a name into names in increasing order, where it stands once. -/
def insertName (name : String) : List String → List String
  | [] => [name]
  | other :: rest =>
    if name < other then name :: other :: rest
    else if name = other then other :: rest
    else other :: insertName name rest

/-- Recorded names in increasing order, each once. -/
def importNames (recorded : List String) : List String :=
  recorded.foldr insertName []

/-- All that a module is made from. -/
structure Project where
  schema : Schema
  documents : DocumentSet
  settings : Settings

/-- Computations that can fail and that record names of types. -/
abbrev Recording (α : Type) := ExceptT Error (StateM (List String)) α

def Recording.record (name : String) : Recording Unit :=
  modify (· ++ [name])

/-- How a module refers to a named type. Declared scalars are members of `Scalars`. -/
def typeReference (name : String) (category : Option TypeCategory) : Recording String :=
  match primitive? name with
  | some primitive => return primitive
  | none =>
    if category = some .scalar then do
      Recording.record "Scalars"
      return "Scalars[\"" ++ name ++ "\"]"
    else do
      Recording.record name
      return name

def listSuffix (isList : Bool) : String :=
  if isList then "[]" else ""

/-- The parameter of a function, and the request variables made from it. -/
structure Parameter where
  name : String
  type : String
  default : Option String
  argument : String

/-- The only field that a query or mutation selects. Fields of the introspection do not count. -/
def singleField? (kind : OperationKind) : List Selection → Option FieldHead
  | [.field head _] =>
    if kind = .subscription ∨ ['_', '_'].isPrefixOf head.name.toList then none else some head
  | _ => none

namespace Project

def parameter (p : Project) (name : String) (kind : OperationKind) :
    Convention → Recording Parameter
  | .bare v => do
    let category := p.schema.category? v.typeName
    let type ← typeReference v.typeName category
    return {
      name := v.name
      type := type ++ listSuffix v.isList
      default :=
        if v.isList then some "[]"
        else if category = some .input then some "\x7b\x7d"
        else none
      argument := "\x7b " ++ v.name ++ " \x7d" }
  | .bag => do
    let type := variablesTypeName p.settings name kind
    Recording.record type
    return { name := "vars", type := type, default := some "\x7b\x7d", argument := "vars" }

/-- The result type and the statement that unwraps the response. -/
def result (p : Project) (name : String) (kind : OperationKind) (selections : List Selection) :
    Recording (Option String × Option String) :=
  match singleField? kind selections with
  | none => do
    let type := resultTypeName p.settings name kind
    Recording.record type
    return (some type, none)
  | some head => do
    let field ← p.schema.rootField kind head.name
    let flat ← FlatType.ofType p.schema field.type
    if flat.baseName = p.settings.voidTypeName then return (none, none)
    else
      let type ← typeReference flat.baseName (some flat.category)
      return (some (type ++ listSuffix flat.isList),
        some ("if (response.data) response.data = response.data." ++ head.responseName ++ "\n"))

def function (p : Project) (op : Operation) : Recording OperationFunction := do
  let kind := op.kind
  let some name := op.name? | throw (.anonymousOperation kind)
  let vars := op.variableDefinitions.map VariableShape.describe
  let convention := Convention.ofVariables kind vars
  -- The types of the parameter are recorded even when the result turns out to be unknown.
  let parameter ← p.parameter name kind convention
  let (resultType, dataTransformBlock) ← p.result name kind op.selections
  return {
    kind := kind
    operationName := name
    functionName := functionName name kind
    paramName := parameter.name
    paramType := parameter.type
    paramDefault := parameter.default
    resultType := resultType
    hasInputs := !vars.isEmpty
    variablesArg := parameter.argument
    trimInputsBlock := TrimStatement.renderAll (TrimStatement.ofVariables convention vars)
    gqlBlock := gqlBlock (fragmentClosure p.documents op.selections) op
    dataTransformBlock := dataTransformBlock }

def renderOperation (p : Project) (op : Operation) : Recording String := do
  return (← p.function op).render

end Project

end TypedClient
