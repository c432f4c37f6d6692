import TypedClient.Error
import TypedClient.Graphql.TypeSystem
import TypedClient.Keyed

/-!
# Schemas

The index over all type system definitions: the declared types with their extensions, and the root
types.
-/

namespace TypedClient

/-- Fields of an object extension go to an object, fields of an input extension to an input; any
other extension adds no fields. -/
def TypeBody.extend : TypeBody → TypeBody → TypeBody
  | .object interfaces fields, .object _ more => .object interfaces (fields ++ more)
  | .input fields, .input more => .input (fields ++ more)
  | body, _ => body

def TypeDefinition.extend (e : TypeExtension) (t : TypeDefinition) : TypeDefinition :=
  if t.name = e.name then { t with body := t.body.extend e.body } else t

theorem TypeDefinition.name_extend (e : TypeExtension) (t : TypeDefinition) :
    (t.extend e).name = t.name := by
  unfold extend
  split <;> rfl

/-- A later declaration of a type takes the place of an earlier one. -/
structure Schema where
  types : Keyed TypeDefinition.name
  rootTypeName : OperationKind → String

namespace Schema

/-- Scalars that every schema has. -/
def builtinScalars : List String :=
  ["String", "Int", "Float", "Boolean", "ID"]

/-- What is collected in going over the definitions. -/
structure Index where
  types : Keyed TypeDefinition.name
  extensions : List TypeExtension
  rootTypeName : OperationKind → String

namespace Index

def start : Index :=
  { types := .empty, extensions := [], rootTypeName := OperationKind.capitalized }

def add (i : Index) : TypeSystemDefinition → Index
  | .type t => { i with types := i.types.put t }
  | .extension e => { i with extensions := i.extensions ++ [e] }
  | .schema s => { i with rootTypeName := fun kind => (s.root? kind).getD (i.rootTypeName kind) }
  | .directive _ => i

end Index

/-- Extensions may stand before the type that they extend, so they wait for the end. -/
def ofDefinitions (ds : List TypeSystemDefinition) : Schema :=
  let i := ds.foldl Index.add Index.start
  { types :=
      i.extensions.foldl
        (fun types e => types.map (·.extend e) (TypeDefinition.name_extend e)) i.types
    rootTypeName := i.rootTypeName }

def ofDocuments (docs : List (List TypeSystemDefinition)) : Schema :=
  ofDefinitions docs.flatten

def find? (s : Schema) (name : String) : Option TypeDefinition :=
  s.types.find? name

/-- Built-in scalars have a category also when they are not declared. -/
def category? (s : Schema) (name : String) : Option TypeCategory :=
  match s.find? name with
  | some t => some t.body.category
  | none => if name ∈ builtinScalars then some .scalar else none

def rootField (s : Schema) (kind : OperationKind) (name : String) :
    Except Error FieldDefinition :=
  let root := s.rootTypeName kind
  match (s.find? root).map TypeDefinition.body with
  | some (.object _ fields) =>
    match fields.find? (·.name == name) with
    | some field => .ok field
    | none => .error (.unknownRootField root name)
  | _ => .error (.missingRootType kind root)

/-- Names and fields of the input types, in order. -/
def inputObjects (s : Schema) : List (String × List InputValue) :=
  s.types.items.filterMap fun t =>
    match t.body with
    | .input fields => some (t.name, fields)
    | _ => none

end Schema

end TypedClient
