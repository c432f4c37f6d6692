import TypedClient.Graphql.Value

/-!
# Documents

Type references, operations and fragments, and the set of all definitions a module is made from.
-/

namespace TypedClient

/-- A named type under any nesting of list and non-null wrappers, also those that the schema
language cannot write. -/
inductive TypeRef where
  | named (name : String)
  | list (item : TypeRef)
  | nonNull (inner : TypeRef)
deriving DecidableEq, Inhabited

namespace TypeRef

/-- Whether the outermost wrapper is a list. -/
def isList : TypeRef → Bool
  | list _ => true
  | _ => false

def print : TypeRef → String
  | named name => name
  | list item => "[" ++ item.print ++ "]"
  | nonNull inner => inner.print ++ "!"

end TypeRef

inductive OperationKind where
  | query
  | mutation
  | subscription
deriving DecidableEq

namespace OperationKind

/-- The keyword that opens an operation. -/
def keyword : OperationKind → String
  | query => "query"
  | mutation => "mutation"
  | subscription => "subscription"

/-- The keyword as it ends a name; also the default name of the kind's root type. -/
def capitalized : OperationKind → String
  | query => "Query"
  | mutation => "Mutation"
  | subscription => "Subscription"

end OperationKind

structure FieldHead where
  responseAlias : Option String
  name : String
  arguments : List (String × Value)
  directives : List Directive

/-- The name under which the field's value stands in the response. -/
def FieldHead.responseName (f : FieldHead) : String :=
  f.responseAlias.getD f.name

/-- An item of a selection set. A field without a selection set selects nothing. -/
inductive Selection where
  | field (head : FieldHead) (selections : List Selection)
  | spread (fragment : String) (directives : List Directive)
  | inline (condition : Option String) (directives : List Directive) (selections : List Selection)

structure VariableDefinition where
  name : String
  type : TypeRef
  default : Option Value

/-- An operation is a bare selection set or has a header. -/
inductive Operation where
  | bare (selections : List Selection)
  | headed (kind : OperationKind) (name : Option String) (vars : List VariableDefinition)
      (directives : List Directive) (selections : List Selection)

namespace Operation

/-- A bare selection set is a query. -/
def kind : Operation → OperationKind
  | bare _ => .query
  | headed kind .. => kind

def name? : Operation → Option String
  | bare _ => none
  | headed _ name .. => name

def variableDefinitions : Operation → List VariableDefinition
  | bare _ => []
  | headed _ _ vars .. => vars

def selections : Operation → List Selection
  | bare selections => selections
  | headed _ _ _ _ selections => selections

end Operation

structure Fragment where
  name : String
  condition : String
  directives : List Directive
  selections : List Selection

inductive Definition where
  | operation (o : Operation)
  | fragment (f : Fragment)

namespace Definition

def operation? : Definition → Option Operation
  | operation o => some o
  | fragment _ => none

def fragment? : Definition → Option Fragment
  | operation _ => none
  | fragment f => some f

end Definition

/-- The definitions of all documents, in order. -/
structure DocumentSet where
  definitions : List Definition

namespace DocumentSet

def operations (d : DocumentSet) : List Operation :=
  d.definitions.filterMap Definition.operation?

def fragments (d : DocumentSet) : List Fragment :=
  d.definitions.filterMap Definition.fragment?

/-- The first fragment of the given name. -/
def fragment? (d : DocumentSet) (name : String) : Option Fragment :=
  d.fragments.find? (·.name == name)

end DocumentSet

end TypedClient
