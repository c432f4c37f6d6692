import TypedClient.Schema

/-!
# Flat types

A type reference with its wrappers collapsed: whether a list occurs, and whether the list and the
named type may be null.
-/

namespace TypedClient

structure FlatType where
  baseName : String
  isNonNull : Bool
  isList : Bool
  isListNonNull : Bool
  category : TypeCategory
deriving DecidableEq

namespace FlatType

/-- The wrappers that were met on the way to a named type. -/
structure Wrappers where
  isNonNull : Bool := false
  isList : Bool := false
  isListNonNull : Bool := false

/-- Goes through the wrappers of a type reference. -/
def flattenWith (s : Schema) (w : Wrappers) : TypeRef → Except Error FlatType
  | .list item => flattenWith s { w with isList := true } item
  | .nonNull inner =>
    -- A mark right around a list marks the list, any other one the named type.
    if inner.isList then flattenWith s { w with isListNonNull := true } inner
    else flattenWith s { w with isNonNull := true } inner
  | .named name =>
    match s.category? name with
    | none => .error (.unknownTypeKind name)
    | some category =>
      .ok {
        baseName := name
        isNonNull := w.isNonNull
        isList := w.isList
        isListNonNull := w.isListNonNull
        category := category }

def ofType (s : Schema) (t : TypeRef) : Except Error FlatType :=
  flattenWith s {} t

def isSimple (t : FlatType) : Bool :=
  t.category.isSimple

/-- A type reference with the same marks. -/
def toType (t : FlatType) : TypeRef :=
  let name : TypeRef := .named t.baseName
  let base := if t.isNonNull then .nonNull name else name
  if t.isList then
    if t.isListNonNull then .nonNull (.list base) else .list base
  else base

end FlatType

end TypedClient
