import Mathlib.Logic.Relation
import TypedClient.Proofs.InputShapes

/-!
# Three readings of a type reference

The type of a result is flattened, the type of an input field becomes a shape of the map, and the
type of a variable decides how the variable is trimmed. All three look through the wrappers, and
they treat the marks differently: a flat type tells marks on a list from other marks, the shape of a
field only knows that there is one, and the shape of a variable knows nothing of marks. On every
type reference they say the same, as far as each of them goes.
-/

namespace TypedClient

namespace TypeRef

/-! ## Marks -/

theorem marksName_iff {t : TypeRef} :
    t.marksName = true ↔ ∃ inner, (nonNull inner).Within t ∧ ∀ item, inner ≠ list item := by
  fun_induction marksName t with
  | case1 n => simp [within_named_iff]
  | case2 item ih => simp [within_list_iff, ih]
  | case3 item ih => simp [within_nonNull_iff, within_list_iff, ih]
  | case4 inner hinner => exact ⟨fun _ => ⟨inner, .refl, hinner⟩, fun _ => rfl⟩

theorem marksList_iff {t : TypeRef} :
    t.marksList = true ↔ ∃ item, (nonNull (list item)).Within t := by
  fun_induction marksList t with
  | case1 n => simp [within_named_iff]
  | case2 item ih => simp [within_list_iff, ih]
  | case3 item => exact ⟨fun _ => ⟨item, .refl⟩, fun _ => rfl⟩
  | case4 inner hinner ih =>
    rw [ih]
    constructor
    · rintro ⟨item, h⟩
      exact ⟨item, .nonNull h⟩
    · rintro ⟨item, h⟩
      rcases within_nonNull_iff.1 h with heq | h
      · exact absurd (nonNull.inj heq).symm (hinner item)
      · exact ⟨item, h⟩

/-- A mark stands around a list or around something else. -/
theorem hasNonNull_eq (t : TypeRef) : t.hasNonNull = (t.marksName || t.marksList) := by
  rw [Bool.eq_iff_iff, Bool.or_eq_true, hasNonNull_iff, marksName_iff, marksList_iff]
  constructor
  · rintro ⟨inner, h⟩
    by_cases hlist : ∃ item, inner = list item
    · obtain ⟨item, rfl⟩ := hlist
      exact .inr ⟨item, h⟩
    · exact .inl ⟨inner, h, fun item heq => hlist ⟨item, heq⟩⟩
  · rintro (⟨inner, h, -⟩ | ⟨item, h⟩)
    · exact ⟨inner, h⟩
    · exact ⟨list item, h⟩

/-- The second type reference has one more mark, anywhere. -/
inductive GainsMark : TypeRef → TypeRef → Prop where
  | here {t : TypeRef} : GainsMark t (nonNull t)
  | list {t u : TypeRef} (h : GainsMark t u) : GainsMark (list t) (list u)
  | nonNull {t u : TypeRef} (h : GainsMark t u) : GainsMark (nonNull t) (nonNull u)

/-- Marks were put in and taken out, anywhere and any number of times. -/
def Remarked : TypeRef → TypeRef → Prop :=
  Relation.EqvGen GainsMark

theorem GainsMark.unwraps {t u : TypeRef} (h : GainsMark t u) :
    t.innermost = u.innermost ∧ t.hasList = u.hasList := by
  induction h with
  | here => exact ⟨rfl, rfl⟩
  | list _ ih => exact ⟨ih.1, rfl⟩
  | nonNull _ ih => exact ih

theorem Remarked.unwraps {t u : TypeRef} (h : Remarked t u) :
    t.innermost = u.innermost ∧ t.hasList = u.hasList := by
  induction h with
  | rel _ _ h => exact h.unwraps
  | refl => exact ⟨rfl, rfl⟩
  | symm _ _ _ ih => exact ⟨ih.1.symm, ih.2.symm⟩
  | trans _ _ _ _ _ ih ih' => exact ⟨ih.1.trans ih'.1, ih.2.trans ih'.2⟩

end TypeRef

/-! ## Flat types, fields and variables -/

/-- A flat type, in terms of what stands in the type reference. -/
structure FlatType.Describes (flat : FlatType) (t : TypeRef) : Prop where
  baseName : (TypeRef.named flat.baseName).Within t
  isList : flat.isList = true ↔ ∃ item, (TypeRef.list item).Within t
  isListNonNull : flat.isListNonNull = true ↔ ∃ item, (TypeRef.nonNull (.list item)).Within t
  isNonNull : flat.isNonNull = true ↔
    ∃ inner, (TypeRef.nonNull inner).Within t ∧ ∀ item, inner ≠ .list item

theorem FlatType.describes_of_ofType {s : Schema} {t : TypeRef} {flat : FlatType}
    (h : ofType s t = .ok flat) : flat.Describes t := by
  obtain ⟨-, hname, hmark, hlist, hlistMark⟩ := ofType_eq_ok_iff.1 h
  refine ⟨?_, ?_, ?_, ?_⟩
  · rw [hname]
    exact TypeRef.named_within_iff.2 rfl
  · rw [hlist]
    exact TypeRef.hasList_iff
  · rw [hlistMark]
    exact TypeRef.marksList_iff
  · rw [hmark]
    exact TypeRef.marksName_iff

theorem VariableShape.describe_eq_of_flat {s : Schema} {v : VariableDefinition} {flat : FlatType}
    (h : FlatType.ofType s v.type = .ok flat) :
    describe v = { name := v.name, typeName := flat.baseName, isList := flat.isList } := by
  obtain ⟨-, hname, -, hlist, -⟩ := FlatType.ofType_eq_ok_iff.1 h
  rw [describe_eq, hname, hlist]

theorem VariableShape.describe_remarked {t u : TypeRef} (h : t.Remarked u)
    (v : VariableDefinition) : describe { v with type := t } = describe { v with type := u } := by
  obtain ⟨hname, hlist⟩ := h.unwraps
  rw [describe_eq, describe_eq, hname, hlist]

namespace Schema

variable {s : Schema} {input : String} {field : InputValue} {flat : FlatType}

/-- A field is accepted by the category that its flat type has. -/
theorem accepts_iff_of_flat (h : FlatType.ofType s field.type = .ok flat) :
    s.Accepts field ↔
      flat.category = .scalar ∨ flat.category = .enum ∨ flat.category = .input := by
  unfold Accepts
  rw [(FlatType.ofType_eq_ok_iff.1 h).1]
  simp

theorem ofField_eq_of_flat (h : FlatType.ofType s field.type = .ok flat)
    (haccepts : s.Accepts field) :
    InputFieldShape.ofField s input field = .ok {
      name := field.name
      typeName := flat.baseName
      isList := flat.isList
      isNonNull := flat.isNonNull || flat.isListNonNull } := by
  obtain ⟨-, hname, hmark, hlist, hlistMark⟩ := FlatType.ofType_eq_ok_iff.1 h
  refine ofField_eq_ok_iff.2 ⟨haccepts, ?_⟩
  rw [hname, hmark, hlist, hlistMark, ← TypeRef.hasNonNull_eq]
  rfl

theorem ofField_fails_iff :
    (∃ e, InputFieldShape.ofField s input field = .error e) ↔ ¬ s.Accepts field := by
  constructor
  · rintro ⟨e, he⟩ haccepts
    rw [ofField_eq_ok_iff.2 ⟨haccepts, rfl⟩] at he
    cases he
  · intro hno
    cases hfield : InputFieldShape.ofField s input field with
    | error e => exact ⟨e, rfl⟩
    | ok shape => exact absurd (ofField_eq_ok_iff.1 hfield).1 hno

/-- What input may not have has no category, or one of the three that only results have. -/
theorem not_accepts_iff_flat :
    ¬ s.Accepts field ↔
      (∃ e, FlatType.ofType s field.type = .error e) ∨
        ∃ flat, FlatType.ofType s field.type = .ok flat ∧ (flat.category = .object ∨
          flat.category = .interface ∨ flat.category = .union) := by
  cases hflat : FlatType.ofType s field.type with
  | error e =>
    have hnone := (FlatType.ofType_error_iff.1 hflat).1
    simp [Accepts, hnone]
  | ok flat =>
    rw [accepts_iff_of_flat hflat]
    cases hcategory : flat.category <;> simp [hcategory]

end Schema

/-- What holds of the flat type, the field shape and the variable shape of one type reference. -/
structure UnwrappingLaws (s : Schema) (t : TypeRef) : Prop where
  flat : ∀ flat, FlatType.ofType s t = .ok flat → flat.Describes t
  /-- Where both know of marks, the field has one if the flat type has one of either kind. -/
  field : ∀ flat, FlatType.ofType s t = .ok flat →
    (flat.category = .scalar ∨ flat.category = .enum ∨ flat.category = .input) →
    ∀ input (f : InputValue), f.type = t →
      InputFieldShape.ofField s input f = .ok {
        name := f.name
        typeName := flat.baseName
        isList := flat.isList
        isNonNull := flat.isNonNull || flat.isListNonNull }
  describe : ∀ flat, FlatType.ofType s t = .ok flat → ∀ v : VariableDefinition, v.type = t →
    VariableShape.describe v =
      { name := v.name, typeName := flat.baseName, isList := flat.isList }
  /-- A variable keeps its shape when marks come or go. -/
  remarked : ∀ u, t.Remarked u → ∀ v : VariableDefinition, v.type = t →
    VariableShape.describe { v with type := u } = VariableShape.describe v
  fails_iff : ∀ input (f : InputValue), f.type = t →
    ((∃ e, InputFieldShape.ofField s input f = .error e) ↔
      (∃ e, FlatType.ofType s t = .error e) ∨
        ∃ flat, FlatType.ofType s t = .ok flat ∧ (flat.category = .object ∨
          flat.category = .interface ∨ flat.category = .union))

theorem unwrapping_laws (s : Schema) (t : TypeRef) : UnwrappingLaws s t where
  flat flat hflat := FlatType.describes_of_ofType hflat
  field := by
    rintro flat hflat hcategory input f rfl
    exact Schema.ofField_eq_of_flat hflat ((Schema.accepts_iff_of_flat hflat).2 hcategory)
  describe := by
    rintro flat hflat v rfl
    exact VariableShape.describe_eq_of_flat hflat
  remarked := by
    rintro u hu v rfl
    exact (VariableShape.describe_remarked hu v).symm
  fails_iff := by
    rintro input f rfl
    rw [Schema.ofField_fails_iff, Schema.not_accepts_iff_flat]

/-- A mark around a mark and lists of lists, which no document can write, with other marks. -/
theorem unwrapping_laws_of_markedLists :
    ∃ flat, FlatType.ofType (.ofDocuments []) markedLists = .ok flat ∧
      InputFieldShape.ofField (.ofDocuments []) "Filter" ⟨none, "ids", markedLists, none, []⟩ =
        .ok ⟨"ids", flat.baseName, flat.isList, flat.isNonNull || flat.isListNonNull⟩ ∧
      VariableShape.describe ⟨"ids", markedLists, none⟩ = ⟨"ids", flat.baseName, flat.isList⟩ ∧
      VariableShape.describe ⟨"ids", .list (.nonNull (.list (.named "ID"))), none⟩ =
        VariableShape.describe ⟨"ids", markedLists, none⟩ ∧
      ∃ e, InputFieldShape.ofField (.ofDocuments []) "Filter"
        ⟨none, "team", .named "Team", none, []⟩ = .error e := by
  have laws := unwrapping_laws (.ofDocuments []) markedLists
  have hflat : FlatType.ofType (.ofDocuments []) markedLists =
      .ok ⟨"ID", true, true, true, .scalar⟩ := rfl
  have hremarked : markedLists.Remarked (.list (.nonNull (.list (.named "ID")))) := by
    have houter : TypeRef.Remarked (.list (.list (.named "ID"))) markedLists :=
      .trans _ _ _ (.rel _ _ .here) (.rel _ _ .here)
    have hinner : TypeRef.Remarked (.list (.list (.named "ID")))
        (.list (.nonNull (.list (.named "ID")))) :=
      .rel _ _ (.list .here)
    exact .trans _ _ _ (.symm _ _ houter) hinner
  refine ⟨_, hflat, laws.field _ hflat (.inl rfl) _ _ rfl, laws.describe _ hflat _ rfl,
    laws.remarked _ hremarked ⟨"ids", markedLists, none⟩ rfl, ?_⟩
  exact ((unwrapping_laws (.ofDocuments []) (.named "Team")).fails_iff _ _ rfl).2 (.inl ⟨_, rfl⟩)

end TypedClient
