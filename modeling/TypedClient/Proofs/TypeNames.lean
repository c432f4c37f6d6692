import Mathlib.Data.List.Infix
import TypedClient.Proofs.Names

/-!
# Type names of operations

The types of an operation's variables and of its result are named after the operation and its kind.
Unless the settings leave the kind out, the kind can be told from such a name: the name ends with it,
in some case of its letters, and no kind ends with another one.

Operations of one kind share a name if they differ in initials only. With deduplication there is
another way: the kind that one name lacks and gets may be what the other name ends with by itself.
-/

namespace TypedClient

/-! ## Endings in any case -/

/-- The text ends with the word, in any case of the letters. -/
def EndsIgnoringCase (text word : String) : Prop :=
  ∃ ending, ending <:+ text.toList ∧ ending.map Char.toLower = word.toList.map Char.toLower

theorem endsIgnoringCase_iff {text word : String} :
    EndsIgnoringCase text word ↔
      word.toList.map Char.toLower <:+ text.toList.map Char.toLower := by
  rw [List.suffix_map_iff]
  simp only [EndsIgnoringCase, eq_comm]

theorem endsIgnoringCase_append (text word : String) : EndsIgnoringCase (text ++ word) word := by
  refine ⟨word.toList, ?_, rfl⟩
  rw [String.toList_append]
  exact List.suffix_append _ _

theorem endsIgnoringCase_pascalCase {n : String} (hn : isName n = true) {word : String} :
    EndsIgnoringCase (pascalCase n) word ↔ EndsIgnoringCase n word := by
  rw [endsIgnoringCase_iff, endsIgnoringCase_iff, pascalCase, String.toList_ofList,
    map_toLower_pascalChars fun c hc => isNameChar_of_mem hn hc]

theorem map_toLower_capitalized (kind : OperationKind) :
    kind.capitalized.toList.map Char.toLower = kind.keyword.toList := by
  cases kind <;> decide

theorem endsWithKind_iff {n : String} {kind : OperationKind} :
    endsWithKind n kind = true ↔ EndsIgnoringCase n kind.capitalized := by
  rw [endsWithKind, List.isSuffixOf_iff_suffix, endsIgnoringCase_iff, map_toLower_capitalized]

theorem keyword_not_suffix {j k : OperationKind} (h : j ≠ k) :
    ¬ j.keyword.toList <:+ k.keyword.toList := by
  revert h
  cases j <;> cases k <;> decide

/-- A text ends with one kind at most. -/
theorem kind_eq_of_endsIgnoringCase {text : String} {j k : OperationKind}
    (hj : EndsIgnoringCase text j.capitalized) (hk : EndsIgnoringCase text k.capitalized) :
    j = k := by
  rw [endsIgnoringCase_iff, map_toLower_capitalized] at hj hk
  by_contra hne
  rcases List.suffix_or_suffix_of_suffix hj hk with h | h
  · exact keyword_not_suffix hne h
  · exact keyword_not_suffix (Ne.symm hne) h

/-! ## Names with a kind -/

section

variable {s : Settings} {n m : String} {kind : OperationKind}

theorem operationTypeName_of_kept (hdedupe : s.dedupeOperationSuffix = true)
    (h : EndsIgnoringCase n kind.capitalized) : operationTypeName s n kind = pascalCase n := by
  rw [operationTypeName, hdedupe, endsWithKind_iff.2 h]
  simp

theorem operationTypeName_of_added (hs : s.omitOperationSuffix = false)
    (h : ¬ (s.dedupeOperationSuffix = true ∧ EndsIgnoringCase n kind.capitalized)) :
    operationTypeName s n kind = pascalCase n ++ kind.capitalized := by
  rw [← endsWithKind_iff, ← Bool.and_eq_true] at h
  rw [operationTypeName, hs, Bool.false_or, if_neg h]

theorem endsIgnoringCase_operationTypeName (hs : s.omitOperationSuffix = false)
    (hn : isName n = true) (kind : OperationKind) :
    EndsIgnoringCase (operationTypeName s n kind) kind.capitalized := by
  by_cases h : s.dedupeOperationSuffix = true ∧ EndsIgnoringCase n kind.capitalized
  · rw [operationTypeName_of_kept h.1 h.2]
    exact (endsIgnoringCase_pascalCase hn).2 h.2
  · rw [operationTypeName_of_added hs h]
    exact endsIgnoringCase_append _ _

/-- The second name gets the kind, and with it is as the first one. -/
structure Completes (kind : OperationKind) (n m : String) : Prop where
  eq_append : pascalCase n = pascalCase m ++ kind.capitalized
  without_kind : ¬ EndsIgnoringCase m kind.capitalized

theorem Completes.ends (h : Completes kind n m) (hn : isName n = true) :
    EndsIgnoringCase n kind.capitalized := by
  rw [← endsIgnoringCase_pascalCase hn, h.eq_append]
  exact endsIgnoringCase_append _ _

/-- One name brings the kind along and the other one gets it. -/
theorem eq_append_iff_of_kept (hn : isName n = true) (hm : isName m = true)
    (hdedupe : s.dedupeOperationSuffix = true) (hkept : EndsIgnoringCase n kind.capitalized)
    (hadded : ¬ EndsIgnoringCase m kind.capitalized) :
    pascalCase n = pascalCase m ++ kind.capitalized ↔
      pascalCase n = pascalCase m ∨
        s.dedupeOperationSuffix = true ∧ (Completes kind n m ∨ Completes kind m n) := by
  constructor
  · intro h
    exact .inr ⟨hdedupe, .inl ⟨h, hadded⟩⟩
  · rintro (h | ⟨-, h | h⟩)
    · rw [← endsIgnoringCase_pascalCase hm, ← h, endsIgnoringCase_pascalCase hn] at hadded
      exact absurd hkept hadded
    · exact h.eq_append
    · exact absurd hkept h.without_kind

theorem operationTypeName_eq_iff (hs : s.omitOperationSuffix = false) (hn : isName n = true)
    (hm : isName m = true) (kind : OperationKind) :
    operationTypeName s n kind = operationTypeName s m kind ↔
      pascalCase n = pascalCase m ∨
        s.dedupeOperationSuffix = true ∧ (Completes kind n m ∨ Completes kind m n) := by
  by_cases hn' : s.dedupeOperationSuffix = true ∧ EndsIgnoringCase n kind.capitalized
  · rw [operationTypeName_of_kept hn'.1 hn'.2]
    by_cases hm' : s.dedupeOperationSuffix = true ∧ EndsIgnoringCase m kind.capitalized
    · rw [operationTypeName_of_kept hm'.1 hm'.2]
      constructor
      · exact .inl
      · rintro (h | ⟨-, h | h⟩)
        · exact h
        · exact absurd hm'.2 h.without_kind
        · exact absurd hn'.2 h.without_kind
    · rw [operationTypeName_of_added hs hm']
      exact eq_append_iff_of_kept hn hm hn'.1 hn'.2 fun h => hm' ⟨hn'.1, h⟩
  · rw [operationTypeName_of_added hs hn']
    by_cases hm' : s.dedupeOperationSuffix = true ∧ EndsIgnoringCase m kind.capitalized
    · rw [operationTypeName_of_kept hm'.1 hm'.2, eq_comm,
        eq_append_iff_of_kept hm hn hm'.1 hm'.2 fun h => hn' ⟨hm'.1, h⟩]
      exact or_congr eq_comm (and_congr_right' or_comm)
    · -- A name that completes the other one ends with the kind, so it would have kept it.
      rw [operationTypeName_of_added hs hm', String.append_left_inj]
      constructor
      · exact .inl
      · rintro (h | ⟨hdedupe, h | h⟩)
        · exact h
        · exact absurd ⟨hdedupe, h.ends hn⟩ hn'
        · exact absurd ⟨hdedupe, h.ends hm⟩ hm'

end

/-- How two operations can have one type name, for one way to name a type of an operation. -/
structure TypeNameLaws (s : Settings) (typeName : String → OperationKind → String)
    (n m : String) : Prop where
  kind_eq : ∀ j k, typeName n j = typeName m k → j = k
  eq_iff : ∀ kind, typeName n kind = typeName m kind ↔
    pascalCase n = pascalCase m ∨
      s.dedupeOperationSuffix = true ∧ (Completes kind n m ∨ Completes kind m n)

/-- The same ending behind all names changes nothing. -/
theorem TypeNameLaws.append {s : Settings} {typeName : String → OperationKind → String}
    {n m : String} (h : TypeNameLaws s typeName n m) (ending : String) :
    TypeNameLaws s (fun n kind => typeName n kind ++ ending) n m where
  kind_eq j k heq := h.kind_eq j k ((String.append_left_inj ending).1 heq)
  eq_iff kind := (String.append_left_inj ending).trans (h.eq_iff kind)

/-- With kinds in the names, types of operations of different kinds never share a name, and types of
operations of one kind do only as the laws say. -/
theorem type_names_tell_kinds (s : Settings) (hs : s.omitOperationSuffix = false) (n m : String)
    (hn : isName n = true) (hm : isName m = true) :
    TypeNameLaws s (operationTypeName s) n m ∧ TypeNameLaws s (variablesTypeName s) n m ∧
      TypeNameLaws s (resultTypeName s) n m := by
  have laws : TypeNameLaws s (operationTypeName s) n m := by
    refine ⟨fun j k h => ?_, operationTypeName_eq_iff hs hn hm⟩
    have hj := endsIgnoringCase_operationTypeName hs hn j
    rw [h] at hj
    exact kind_eq_of_endsIgnoringCase hj (endsIgnoringCase_operationTypeName hs hm k)
  exact ⟨laws, laws.append "Variables", laws.append s.operationResultSuffix⟩

/-- The kind that is added to one name is what another name ends with. A kind in other letters makes
another name, and so does another kind. -/
theorem type_names_tell_kinds_of_dash :
    variablesTypeName { dedupeOperationSuffix := true } "dashQuery" .query =
        variablesTypeName { dedupeOperationSuffix := true } "dash" .query ∧
      variablesTypeName { dedupeOperationSuffix := true } "dashquery" .query ≠
        variablesTypeName { dedupeOperationSuffix := true } "dash" .query ∧
      variablesTypeName { dedupeOperationSuffix := true } "dashQuery" .mutation ≠
        variablesTypeName { dedupeOperationSuffix := true } "dash" .query := by
  have hends : ¬ EndsIgnoringCase "dash" OperationKind.query.capitalized := by
    rw [← endsWithKind_iff]
    decide
  obtain ⟨-, laws, -⟩ := type_names_tell_kinds { dedupeOperationSuffix := true } rfl "dashQuery"
    "dash" (by decide) (by decide)
  obtain ⟨-, laws', -⟩ := type_names_tell_kinds { dedupeOperationSuffix := true } rfl "dashquery"
    "dash" (by decide) (by decide)
  refine ⟨(laws.eq_iff .query).2 (.inr ⟨rfl, .inl ⟨by decide +kernel, hends⟩⟩), ?_, ?_⟩
  · rw [ne_eq, laws'.eq_iff]
    rintro (h | ⟨-, ⟨h, -⟩ | ⟨h, -⟩⟩)
    · exact absurd h (by decide +kernel)
    · exact absurd h (by decide +kernel)
    · exact absurd h (by decide +kernel)
  · intro h
    cases laws.kind_eq _ _ h

end TypedClient
