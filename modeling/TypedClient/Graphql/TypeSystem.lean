import TypedClient.Graphql.Document

/-!
# Type system definitions

What a schema text declares: types, extensions of types, root types and directives.
-/

namespace TypedClient

/-- An argument of a field or a field of an input type. -/
structure InputValue where
  description : Option String
  name : String
  type : TypeRef
  default : Option Value
  directives : List Directive

structure FieldDefinition where
  description : Option String
  name : String
  arguments : List InputValue
  type : TypeRef
  directives : List Directive

structure EnumValue where
  description : Option String
  name : String
  directives : List Directive

/-- The six categories of named types. -/
inductive TypeCategory where
  | scalar
  | object
  | interface
  | union
  | enum
  | input
deriving DecidableEq

/-- Scalars and enums travel as plain values. -/
def TypeCategory.isSimple : TypeCategory → Bool
  | scalar | enum => true
  | _ => false

/-- What stands after the name of a type. -/
inductive TypeBody where
  | scalar
  | object (interfaces : List String) (fields : List FieldDefinition)
  | interface (interfaces : List String) (fields : List FieldDefinition)
  | union (members : List String)
  | enum (values : List EnumValue)
  | input (fields : List InputValue)

def TypeBody.category : TypeBody → TypeCategory
  | scalar => .scalar
  | object .. => .object
  | interface .. => .interface
  | union _ => .union
  | enum _ => .enum
  | input _ => .input

structure TypeDefinition where
  description : Option String
  name : String
  directives : List Directive
  body : TypeBody

structure TypeExtension where
  name : String
  directives : List Directive
  body : TypeBody

/-- An extension has to add something: a directive, a member, or interfaces to an object type. -/
def TypeExtension.addsSomething (e : TypeExtension) : Bool :=
  !e.directives.isEmpty ||
    match e.body with
    | .scalar => false
    | .object interfaces fields => !interfaces.isEmpty || !fields.isEmpty
    | .interface _ fields => !fields.isEmpty
    | .union members => !members.isEmpty
    | .enum values => !values.isEmpty
    | .input fields => !fields.isEmpty

/-- Names for the root types; a kind without a name keeps the one it had. -/
structure SchemaDefinition where
  directives : List Directive
  query : Option String
  mutation : Option String
  subscription : Option String

def SchemaDefinition.root? (s : SchemaDefinition) : OperationKind → Option String
  | .query => s.query
  | .mutation => s.mutation
  | .subscription => s.subscription

structure DirectiveDefinition where
  description : Option String
  name : String
  arguments : List InputValue
  repeatable : Bool
  locations : List String

inductive TypeSystemDefinition where
  | schema (s : SchemaDefinition)
  | type (t : TypeDefinition)
  | extension (e : TypeExtension)
  | directive (d : DirectiveDefinition)

end TypedClient
