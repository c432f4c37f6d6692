import TypedClient.Proofs.Failures

/-!
# Wrappers of type references

What stands in a type reference at any depth, as a relation, and what collapsing the wrappers keeps
of it. A flat type remembers whether there is a list and which marks there are, and no more: going
to a type reference and back changes no flat type, and a type reference comes back from its flat
type exactly if it has at most one list and no mark right on a mark.
-/

namespace TypedClient

namespace TypeRef

/-- `u` is the type reference itself or stands under wrappers of it. -/
inductive Within (u : TypeRef) : TypeRef → Prop where
  | refl : Within u u
  | list {item : TypeRef} (h : Within u item) : Within u (list item)
  | nonNull {inner : TypeRef} (h : Within u inner) : Within u (nonNull inner)

theorem within_list_iff {u item : TypeRef} :
    u.Within (list item) ↔ u = list item ∨ u.Within item := by
  constructor
  · intro h
    cases h with
    | refl => exact .inl rfl
    | list h => exact .inr h
  · rintro (rfl | h)
    · exact .refl
    · exact .list h

theorem within_nonNull_iff {u inner : TypeRef} :
    u.Within (nonNull inner) ↔ u = nonNull inner ∨ u.Within inner := by
  constructor
  · intro h
    cases h with
    | refl => exact .inl rfl
    | nonNull h => exact .inr h
  · rintro (rfl | h)
    · exact .refl
    · exact .nonNull h

theorem within_named_iff {u : TypeRef} {n : String} : u.Within (named n) ↔ u = named n := by
  constructor
  · intro h
    cases h
    rfl
  · rintro rfl
    exact .refl

/-- One name stands in a type reference. -/
theorem named_within_iff {n : String} {t : TypeRef} : (named n).Within t ↔ t.innermost = n := by
  induction t with
  | named m => simp [within_named_iff, innermost, eq_comm]
  | list item ih => simp [within_list_iff, innermost, ih]
  | nonNull inner ih => simp [within_nonNull_iff, innermost, ih]

theorem hasList_iff {t : TypeRef} : t.hasList = true ↔ ∃ item, (list item).Within t := by
  induction t with
  | named m => simp [within_named_iff, hasList]
  | list item ih => exact ⟨fun _ => ⟨item, .refl⟩, fun _ => rfl⟩
  | nonNull inner ih => simp [within_nonNull_iff, hasList, ih]

theorem hasNonNull_iff {t : TypeRef} : t.hasNonNull = true ↔ ∃ inner, (nonNull inner).Within t := by
  induction t with
  | named m => simp [within_named_iff, hasNonNull]
  | list item ih => simp [within_list_iff, hasNonNull, ih]
  | nonNull inner ih => exact ⟨fun _ => ⟨inner, .refl⟩, fun _ => rfl⟩

/-- The number of list wrappers. -/
def listCount : TypeRef → Nat
  | named _ => 0
  | list item => item.listCount + 1
  | nonNull inner => inner.listCount

/-- A non-null wrapper stands right around another one. -/
def MarksTwice (t : TypeRef) : Prop :=
  ∃ inner, (nonNull (nonNull inner)).Within t

theorem MarksTwice.list {item : TypeRef} (h : item.MarksTwice) :
    (TypeRef.list item).MarksTwice := by
  obtain ⟨inner, hinner⟩ := h
  exact ⟨inner, .list hinner⟩

theorem MarksTwice.nonNull {t : TypeRef} (h : t.MarksTwice) : (TypeRef.nonNull t).MarksTwice := by
  obtain ⟨inner, hinner⟩ := h
  exact ⟨inner, .nonNull hinner⟩

/-- Without lists and doubled marks, there is a name with at most one mark. -/
theorem eq_name_of_no_list {t : TypeRef} (hlists : t.listCount = 0) (hmarks : ¬ t.MarksTwice) :
    ∃ n, t = named n ∨ t = nonNull (named n) := by
  cases t with
  | named n => exact ⟨n, .inl rfl⟩
  | list item => cases hlists
  | nonNull inner =>
    cases inner with
    | named n => exact ⟨n, .inr rfl⟩
    | list item => cases hlists
    | nonNull inner => exact absurd ⟨inner, .refl⟩ hmarks

/-- A mark on a list needs a list. -/
theorem hasList_of_marksList {t : TypeRef} (h : t.marksList = true) : t.hasList = true := by
  fun_induction marksList t with
  | case1 n => cases h
  | case2 item ih => rfl
  | case3 item => rfl
  | case4 inner _ ih => exact ih h

end TypeRef

/-! ## Flat types -/

namespace FlatType

theorem ofType_eq_ok_iff {s : Schema} {t : TypeRef} {flat : FlatType} :
    ofType s t = .ok flat ↔ s.category? t.innermost = some flat.category ∧
      flat.baseName = t.innermost ∧ flat.isNonNull = t.marksName ∧ flat.isList = t.hasList ∧
      flat.isListNonNull = t.marksList := by
  obtain ⟨baseName, isNonNull, isList, isListNonNull, category⟩ := flat
  rw [ofType_eq]
  cases s.category? t.innermost with
  | none => simp
  | some c =>
    simp only [Except.ok.injEq, FlatType.mk.injEq, Option.some.injEq]
    constructor
    · rintro ⟨rfl, rfl, rfl, rfl, rfl⟩
      exact ⟨rfl, rfl, rfl, rfl, rfl⟩
    · rintro ⟨rfl, rfl, rfl, rfl, rfl⟩
      exact ⟨rfl, rfl, rfl, rfl, rfl⟩

/-- The category is that of the name, and only a list is marked as a list. -/
structure Consistent (s : Schema) (flat : FlatType) : Prop where
  category : s.category? flat.baseName = some flat.category
  list : flat.isListNonNull = true → flat.isList = true

theorem consistent_of_ofType {s : Schema} {t : TypeRef} {flat : FlatType}
    (h : ofType s t = .ok flat) : flat.Consistent s := by
  obtain ⟨hcategory, hname, -, hlist, hmark⟩ := ofType_eq_ok_iff.1 h
  refine ⟨hname ▸ hcategory, fun hflat => ?_⟩
  rw [hlist]
  exact TypeRef.hasList_of_marksList (hmark ▸ hflat)

theorem ofType_toType {s : Schema} {flat : FlatType} (h : flat.Consistent s) :
    ofType s flat.toType = .ok flat := by
  obtain ⟨hcategory, hlist⟩ := h
  obtain ⟨baseName, isNonNull, isList, isListNonNull, category⟩ := flat
  rw [ofType_eq_ok_iff]
  -- Only a mark on a list without a list would be lost on the way.
  cases isList with
  | false =>
    obtain rfl : isListNonNull = false := by simpa using hlist
    cases isNonNull <;> exact ⟨hcategory, rfl, rfl, rfl, rfl⟩
  | true => cases isListNonNull <;> cases isNonNull <;> exact ⟨hcategory, rfl, rfl, rfl, rfl⟩

/-- The types that flat types stand for. -/
theorem toType_normal (flat : FlatType) :
    flat.toType.listCount ≤ 1 ∧ ¬ flat.toType.MarksTwice := by
  obtain ⟨baseName, isNonNull, isList, isListNonNull, category⟩ := flat
  cases isList <;> cases isListNonNull <;> cases isNonNull <;>
    simp [toType, TypeRef.listCount, TypeRef.MarksTwice, TypeRef.within_list_iff,
      TypeRef.within_nonNull_iff, TypeRef.within_named_iff]

theorem toType_eq_of_normal {s : Schema} {t : TypeRef} {flat : FlatType}
    (h : ofType s t = .ok flat) (hlists : t.listCount ≤ 1) (hmarks : ¬ t.MarksTwice) :
    flat.toType = t := by
  obtain ⟨-, hname, hmark, hlist, hlistMark⟩ := ofType_eq_ok_iff.1 h
  unfold toType
  rw [hname, hmark, hlist, hlistMark]
  cases t with
  | named n => rfl
  | list item =>
    obtain ⟨n, rfl | rfl⟩ := TypeRef.eq_name_of_no_list
      (Nat.le_zero.1 (Nat.le_of_succ_le_succ hlists)) fun hitem => hmarks hitem.list
    · rfl
    · rfl
  | nonNull inner =>
    cases inner with
    | named n => rfl
    | list item =>
      obtain ⟨n, rfl | rfl⟩ := TypeRef.eq_name_of_no_list
        (Nat.le_zero.1 (Nat.le_of_succ_le_succ hlists)) fun hitem => hmarks hitem.list.nonNull
      · rfl
      · rfl
    | nonNull inner => exact absurd ⟨inner, .refl⟩ hmarks

end FlatType

/-- What holds of the flat type of a type reference. -/
structure FlatTypeLaws (s : Schema) (t : TypeRef) : Prop where
  succeeds_iff : (∃ flat, FlatType.ofType s t = .ok flat) ↔ ∃ c, s.category? t.innermost = some c
  fails : s.category? t.innermost = none →
    FlatType.ofType s t = .error (.unknownTypeKind t.innermost)
  marks_list : ∀ flat, FlatType.ofType s t = .ok flat →
    flat.isListNonNull = true → flat.isList = true
  again : ∀ flat, FlatType.ofType s t = .ok flat → FlatType.ofType s flat.toType = .ok flat
  /-- Nothing is lost of a type reference with at most one list and no mark on a mark, and
  something of any other. -/
  same_iff : ∀ flat, FlatType.ofType s t = .ok flat →
    (flat.toType = t ↔ t.listCount ≤ 1 ∧ ¬ t.MarksTwice)

/-- Every type reference has these laws, and every flat type in which only lists are marked as
lists comes back from its type reference. -/
theorem flat_type_laws (s : Schema) :
    (∀ t, FlatTypeLaws s t) ∧
      ∀ flat : FlatType, s.category? flat.baseName = some flat.category →
        (flat.isListNonNull = true → flat.isList = true) →
        FlatType.ofType s flat.toType = .ok flat := by
  refine ⟨fun t => ⟨?_, ?_, ?_, ?_, ?_⟩, fun flat hcategory hlist => ?_⟩
  · constructor
    · rintro ⟨flat, hflat⟩
      exact ⟨flat.category, (FlatType.ofType_eq_ok_iff.1 hflat).1⟩
    · rintro ⟨c, hc⟩
      refine ok_of_no_error fun e he => ?_
      rw [(FlatType.ofType_error_iff.1 he).1] at hc
      cases hc
  · intro hnone
    exact FlatType.ofType_error_iff.2 ⟨hnone, rfl⟩
  · intro flat hflat
    exact (FlatType.consistent_of_ofType hflat).list
  · intro flat hflat
    exact FlatType.ofType_toType (FlatType.consistent_of_ofType hflat)
  · intro flat hflat
    constructor
    · intro heq
      exact heq ▸ flat.toType_normal
    · rintro ⟨hlists, hmarks⟩
      exact FlatType.toType_eq_of_normal hflat hlists hmarks
  · exact FlatType.ofType_toType ⟨hcategory, hlist⟩

/-- Marked lists of lists of identifiers, with a mark on the mark. -/
def markedLists : TypeRef :=
  .nonNull (.nonNull (.list (.list (.named "ID"))))

/-- A mark around a mark counts for the name, and one of the lists is gone. -/
theorem flat_type_laws_of_markedLists :
    ∃ flat, FlatType.ofType (.ofDocuments []) markedLists = .ok flat ∧
      flat.toType = .nonNull (.list (.nonNull (.named "ID"))) ∧
      flat.toType ≠ markedLists ∧
      FlatType.ofType (.ofDocuments []) flat.toType = .ok flat ∧
      FlatType.ofType (.ofDocuments [])
        (FlatType.toType ⟨"ID", false, true, true, .scalar⟩) =
          .ok ⟨"ID", false, true, true, .scalar⟩ := by
  obtain ⟨laws, back⟩ := flat_type_laws (.ofDocuments [])
  have hflat : FlatType.ofType (.ofDocuments []) markedLists =
      .ok ⟨"ID", true, true, true, .scalar⟩ := rfl
  refine ⟨_, hflat, rfl, ?_, (laws markedLists).again _ hflat, back _ (by decide) fun _ => rfl⟩
  rw [ne_eq, (laws markedLists).same_iff _ hflat]
  exact fun h => absurd h.1 (by decide)

end TypedClient
