import TypedClient.Schema

/-!
# Input shapes

The fields of every input type, which the generated module carries along to trim request data.
-/

namespace TypedClient

structure InputFieldShape where
  name : String
  typeName : String
  isList : Bool
  isNonNull : Bool
deriving DecidableEq

structure InputShape where
  name : String
  fields : List InputFieldShape
deriving DecidableEq

/-- Shapes by name, in the order in which the names first came. -/
abbrev InputShapeMap := Keyed (Prod.fst : String × InputShape → String)

/-- Whether a field of an input type may have a type of this category. -/
def TypeCategory.isInput : TypeCategory → Bool
  | scalar | enum | input => true
  | object | interface | union => false

namespace InputFieldShape

/-- Goes through the wrappers of a field's type; `isList` and `isNonNull` say what was met. -/
def unwrap (s : Schema) (input : String) (field : InputValue) (isList isNonNull : Bool) :
    TypeRef → Except Error InputFieldShape
  | .nonNull inner => unwrap s input field isList true inner
  | .list item => unwrap s input field true isNonNull item
  | .named typeName =>
    if (s.category? typeName).any TypeCategory.isInput then
      .ok { name := field.name, typeName := typeName, isList := isList, isNonNull := isNonNull }
    else .error (.unresolvableInputFieldType input field.name typeName)

def ofField (s : Schema) (input : String) (field : InputValue) : Except Error InputFieldShape :=
  unwrap s input field false false field.type

end InputFieldShape

namespace InputShape

def ofFields (s : Schema) (name : String) (fields : List InputValue) : Except Error InputShape := do
  return { name := name, fields := ← fields.mapM (InputFieldShape.ofField s name) }

end InputShape

namespace InputShapeMap

def ofSchema (s : Schema) : Except Error InputShapeMap := do
  let shapes ← s.inputObjects.mapM fun (name, fields) => do
    return (name, ← InputShape.ofFields s name fields)
  return Keyed.ofList shapes

end InputShapeMap

end TypedClient
