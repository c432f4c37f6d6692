import TypedClient.FlatType
import TypedClient.InputShape
import TypedClient.Operation.Convention

/-!
# Type references as a whole

What can be said of a type reference without going through it: the name in it, and which wrappers
there are. Three loops go through it and remember what they meet. Each of them comes out with what
it remembered at first together with what there is, so the three can be compared.
-/

namespace TypedClient

namespace TypeRef

/-- The named type under all wrappers. -/
def innermost : TypeRef → String
  | named name => name
  | list item => item.innermost
  | nonNull inner => inner.innermost

/-- Whether a list wrapper occurs at any depth. -/
def hasList : TypeRef → Bool
  | named _ => false
  | list _ => true
  | nonNull inner => inner.hasList

/-- Whether a non-null wrapper occurs at any depth. -/
def hasNonNull : TypeRef → Bool
  | named _ => false
  | list item => item.hasNonNull
  | nonNull _ => true

/-- Whether a non-null wrapper stands around something other than a list. -/
def marksName : TypeRef → Bool
  | named _ => false
  | list item => item.marksName
  | nonNull (list item) => item.marksName
  | nonNull _ => true

/-- Whether a non-null wrapper stands right around a list. -/
def marksList : TypeRef → Bool
  | named _ => false
  | list item => item.marksList
  | nonNull (list _) => true
  | nonNull inner => inner.marksList

end TypeRef

/-! ## The three loops -/

namespace FlatType

variable {s : Schema} {w : Wrappers} {inner : TypeRef}

theorem flattenWith_mark_list (h : inner.isList = true) :
    flattenWith s w (.nonNull inner) = flattenWith s { w with isListNonNull := true } inner := by
  rw [flattenWith, if_pos h]

theorem flattenWith_mark_name (h : inner.isList = false) :
    flattenWith s w (.nonNull inner) = flattenWith s { w with isNonNull := true } inner := by
  rw [flattenWith, h, if_neg Bool.false_ne_true]

theorem flattenWith_eq (s : Schema) (w : Wrappers) (t : TypeRef) :
    flattenWith s w t =
      match s.category? t.innermost with
      | none => .error (.unknownTypeKind t.innermost)
      | some category =>
        .ok {
          baseName := t.innermost
          isNonNull := w.isNonNull || t.marksName
          isList := w.isList || t.hasList
          isListNonNull := w.isListNonNull || t.marksList
          category := category } := by
  induction t generalizing w with
  | named name =>
    cases hcategory : s.category? name <;>
      simp [flattenWith, hcategory, TypeRef.innermost, TypeRef.marksName, TypeRef.hasList,
        TypeRef.marksList]
  | list item ih =>
    rw [flattenWith, ih]
    simp [TypeRef.innermost, TypeRef.marksName, TypeRef.hasList, TypeRef.marksList]
  | nonNull inner ih =>
    -- What a mark is for depends on the wrapper right under it.
    cases inner with
    | list item =>
      rw [flattenWith_mark_list rfl, ih]
      simp [TypeRef.innermost, TypeRef.marksName, TypeRef.hasList, TypeRef.marksList]
    | named | nonNull =>
      rw [flattenWith_mark_name rfl, ih]
      simp [TypeRef.innermost, TypeRef.marksName, TypeRef.hasList, TypeRef.marksList]

theorem ofType_eq (s : Schema) (t : TypeRef) :
    ofType s t =
      match s.category? t.innermost with
      | none => .error (.unknownTypeKind t.innermost)
      | some category =>
        .ok {
          baseName := t.innermost
          isNonNull := t.marksName
          isList := t.hasList
          isListNonNull := t.marksList
          category := category } := by
  rw [ofType, flattenWith_eq]
  simp

end FlatType

namespace InputFieldShape

theorem unwrap_eq (s : Schema) (input : String) (field : InputValue) (isList isNonNull : Bool)
    (t : TypeRef) :
    unwrap s input field isList isNonNull t =
      if (s.category? t.innermost).any TypeCategory.isInput then
        .ok {
          name := field.name
          typeName := t.innermost
          isList := isList || t.hasList
          isNonNull := isNonNull || t.hasNonNull }
      else .error (.unresolvableInputFieldType input field.name t.innermost) := by
  induction t generalizing isList isNonNull with
  | named name => simp [unwrap, TypeRef.innermost, TypeRef.hasList, TypeRef.hasNonNull]
  | list item ih =>
    rw [unwrap, ih]
    simp [TypeRef.innermost, TypeRef.hasList, TypeRef.hasNonNull]
  | nonNull inner ih =>
    rw [unwrap, ih]
    simp [TypeRef.innermost, TypeRef.hasList, TypeRef.hasNonNull]

theorem ofField_eq (s : Schema) (input : String) (field : InputValue) :
    ofField s input field =
      if (s.category? field.type.innermost).any TypeCategory.isInput then
        .ok {
          name := field.name
          typeName := field.type.innermost
          isList := field.type.hasList
          isNonNull := field.type.hasNonNull }
      else .error (.unresolvableInputFieldType input field.name field.type.innermost) := by
  rw [ofField, unwrap_eq, Bool.false_or, Bool.false_or]

end InputFieldShape

namespace VariableShape

theorem descend_eq (name : String) (isList : Bool) (t : TypeRef) :
    descend name isList t =
      { name := name, typeName := t.innermost, isList := isList || t.hasList } := by
  induction t generalizing isList with
  | named typeName => simp [descend, TypeRef.innermost, TypeRef.hasList]
  | list item ih =>
    rw [descend, ih]
    simp [TypeRef.innermost, TypeRef.hasList]
  | nonNull inner ih =>
    rw [descend, ih]
    simp [TypeRef.innermost, TypeRef.hasList]

theorem describe_eq (v : VariableDefinition) :
    describe v = { name := v.name, typeName := v.type.innermost, isList := v.type.hasList } := by
  rw [describe, ofType, descend_eq, Bool.false_or]

end VariableShape

end TypedClient
