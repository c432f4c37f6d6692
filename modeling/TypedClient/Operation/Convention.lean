import TypedClient.Graphql.Document
import TypedClient.Naming

/-!
# Conventions

How the variables of an operation reach its function, and the statements that trim them there.
-/

namespace TypedClient

/-- What a function has to know about a variable: its named type and whether a list occurs. -/
structure VariableShape where
  name : String
  typeName : String
  isList : Bool
deriving DecidableEq

namespace VariableShape

/-- Goes through the wrappers of a type reference; `isList` says whether a list was met. -/
def descend (name : String) (isList : Bool) : TypeRef → VariableShape
  | .list item => descend name true item
  | .named typeName => { name := name, typeName := typeName, isList := isList }
  | .nonNull inner => descend name isList inner

def ofType (name : String) (t : TypeRef) : VariableShape :=
  descend name false t

def describe (v : VariableDefinition) : VariableShape :=
  ofType v.name v.type

def primitive? (v : VariableShape) : Option String :=
  TypedClient.primitive? v.typeName

end VariableShape

/-- The only variable is the parameter itself, or one object holds all of them. -/
inductive Convention where
  | bare (v : VariableShape)
  | bag
deriving DecidableEq

namespace Convention

/-- Names that the body of a function uses itself. -/
def reservedLocals : List String :=
  ["query", "mutation", "subscription", "response", "api", "gql", "trimInput", "inputTypeInfoMap",
   "GraphQLResponse"]

def ofVariables (kind : OperationKind) : List VariableShape → Convention
  | [v] => if kind ≠ .subscription ∧ v.name ∉ reservedLocals then .bare v else .bag
  | _ => .bag

/-- The expression for a variable in the body of a function. -/
def target (v : VariableShape) : Convention → String
  | bare _ => v.name
  | bag => "vars." ++ v.name

end Convention

/-- `items` trims every element of an array, `whole` a value that is there. -/
inductive TrimStatement where
  | items (target typeName : String)
  | whole (target typeName : String)
deriving DecidableEq

namespace TrimStatement

def render : TrimStatement → String
  | items target typeName =>
    "if (Array.isArray(" ++ target ++ ")) \x7b\n  " ++ target ++ " = " ++ target ++
      ".map(item => trimInput(item, \"" ++ typeName ++ "\", inputTypeInfoMap))\n\x7d\n"
  | whole target typeName =>
    "if (" ++ target ++ " != null) \x7b\n  " ++ target ++ " = trimInput(" ++ target ++ ", \"" ++
      typeName ++ "\", inputTypeInfoMap)\n\x7d\n"

/-- Variables of built-in scalars are left alone. -/
def ofVariable (c : Convention) (v : VariableShape) : Option TrimStatement :=
  match v.primitive? with
  | some _ => none
  | none =>
    if v.isList then some (items (c.target v) v.typeName) else some (whole (c.target v) v.typeName)

def ofVariables (c : Convention) (vs : List VariableShape) : List TrimStatement :=
  vs.filterMap (ofVariable c)

def renderAll (ts : List TrimStatement) : String :=
  String.join (ts.map render)

end TrimStatement

end TypedClient
