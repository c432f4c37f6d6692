import TypedClient.CommandLine.Run
import TypedClient.Proofs.FirstFault

/-!
# Where settings come from

A setting is given on the command line, or else in the settings file, or else it has its default;
switches are on when one of the two turns them on. `Merges` says so of all settings together, with
the entries of the file as they are written there.
-/

namespace TypedClient

namespace Settings

/-! ## Settings by key -/

/-- The value of a key. -/
def get? (s : Settings) : String → Option TomlValue
  | "runtime_module" => some (.string s.runtimeModule)
  | "types_path" => some (.string s.typesPath)
  | "operation_result_suffix" => some (.string s.operationResultSuffix)
  | "dedupe_operation_suffix" => some (.boolean s.dedupeOperationSuffix)
  | "omit_operation_suffix" => some (.boolean s.omitOperationSuffix)
  | "void_type_name" => some (.string s.voidTypeName)
  | _ => none

/-- An entry decides the value of its key and of no other. -/
theorem get?_set {s s' : Settings} {key : String} {value : TomlValue}
    (h : s.set key value = .ok s') (k : String) :
    s'.get? k = if k = key then some value else s.get? k := by
  unfold set at h
  split at h
  case h_7 => split at h <;> cases h
  all_goals
    cases h
    unfold get?
    split <;> simp_all

theorem get?_setAll {s s' : Settings} {entries : List (String × TomlValue)}
    (h : s.setAll entries = .ok s') (k : String) :
    s'.get? k = (entries.lookup k).or (s.get? k) := by
  induction entries generalizing s with
  | nil =>
    cases h
    rfl
  | cons entry rest ih =>
    obtain ⟨key, value⟩ := entry
    rw [setAll] at h
    split_ifs at h with hrepeated
    obtain ⟨s₁, hset, hrest⟩ := bind_eq_ok_iff.1 h
    rw [ih hrest, get?_set hset]
    by_cases hk : k = key
    · -- The key does not come a second time.
      subst hk
      have hnone : rest.lookup k = none := by
        refine List.lookup_eq_none_iff.2 fun p hp => bne_iff_ne.2 fun heq => ?_
        exact hrepeated (List.any_eq_true.2 ⟨p, hp, by simp [heq]⟩)
      simp [hnone]
    · have hne : (k == key) = false := by simpa using hk
      rw [if_neg hk, List.lookup_cons, hne]

theorem get?_read {text : String} {s : Settings} (h : read text = .ok s) :
    ∃ entries, TomlValue.parse text = some entries ∧
      ∀ k, s.get? k = (entries.lookup k).or (({} : Settings).get? k) := by
  unfold read at h
  cases hparse : TomlValue.parse text with
  | none =>
    rw [hparse] at h
    cases h
  | some entries =>
    rw [hparse] at h
    exact ⟨entries, rfl, get?_setAll h⟩

end Settings

/-! ## Three origins -/

/-- The text that the entries of a file give to a key. -/
def textAt? (entries : List (String × TomlValue)) (key : String) : Option String :=
  match entries.lookup key with
  | some (.string text) => some text
  | _ => none

/-- Settings made from the options of a command line and the entries of a settings file. -/
structure Merges (a : Arguments) (entries : List (String × TomlValue)) (s : Settings) : Prop where
  runtimeModule : s.runtimeModule =
    (a.runtimeModule.or (textAt? entries "runtime_module")).getD "graphqlex"
  typesPath : s.typesPath = (a.typesPath.or (textAt? entries "types_path")).getD "./graphql-types"
  operationResultSuffix : s.operationResultSuffix =
    (a.operationResultSuffix.or (textAt? entries "operation_result_suffix")).getD ""
  voidTypeName : s.voidTypeName =
    (a.voidTypeName.or (textAt? entries "void_type_name")).getD "Void"
  dedupeOperationSuffix : s.dedupeOperationSuffix = true ↔
    a.dedupeOperationSuffix = true ∨
      entries.lookup "dedupe_operation_suffix" = some (.boolean true)
  omitOperationSuffix : s.omitOperationSuffix = true ↔
    a.omitOperationSuffix = true ∨ entries.lookup "omit_operation_suffix" = some (.boolean true)

theorem Merges.eq {a : Arguments} {entries : List (String × TomlValue)} {s s' : Settings}
    (h : Merges a entries s) (h' : Merges a entries s') : s = s' := by
  have hdedupe := Bool.eq_iff_iff.2
    (h.dedupeOperationSuffix.trans h'.dedupeOperationSuffix.symm)
  have homit := Bool.eq_iff_iff.2 (h.omitOperationSuffix.trans h'.omitOperationSuffix.symm)
  have hruntime := h.runtimeModule.trans h'.runtimeModule.symm
  have htypes := h.typesPath.trans h'.typesPath.symm
  have hsuffix := h.operationResultSuffix.trans h'.operationResultSuffix.symm
  have hvoid := h.voidTypeName.trans h'.voidTypeName.symm
  obtain ⟨_, _, _, _, _, _⟩ := s
  obtain ⟨_, _, _, _, _, _⟩ := s'
  cases hdedupe
  cases homit
  cases hruntime
  cases htypes
  cases hsuffix
  cases hvoid
  rfl

/-- A text that stands in the file or is the default, under an option that comes before both. -/
theorem getD_textAt? {entries : List (String × TomlValue)} {key text default : String}
    (h : some (.string text) = (entries.lookup key).or (some (.string default)))
    (option : Option String) :
    option.getD text = (option.or (textAt? entries key)).getD default := by
  cases option with
  | some given => rfl
  | none =>
    rw [textAt?, Option.none_or]
    cases hlookup : entries.lookup key with
    | none =>
      rw [hlookup] at h
      cases h
      rfl
    | some value =>
      rw [hlookup] at h
      cases h
      rfl

/-- A switch that is off unless the file turns it on, and an option that turns it on. -/
theorem or_eq_true_iff_lookup {entries : List (String × TomlValue)} {key : String} {on : Bool}
    (h : some (.boolean on) = (entries.lookup key).or (some (.boolean false))) (option : Bool) :
    (option || on) = true ↔ option = true ∨ entries.lookup key = some (.boolean true) := by
  rw [Bool.or_eq_true]
  refine or_congr_right ?_
  cases hlookup : entries.lookup key with
  | none =>
    rw [hlookup] at h
    cases h
    simp
  | some value =>
    rw [hlookup] at h
    cases h
    simp

/-- The options of a command line over the settings of a file. -/
theorem merges_override {entries : List (String × TomlValue)} {base : Settings}
    (h : ∀ k, base.get? k = (entries.lookup k).or (({} : Settings).get? k)) (a : Arguments) :
    Merges a entries (Run.override a base) where
  runtimeModule := getD_textAt? (h "runtime_module") a.runtimeModule
  typesPath := getD_textAt? (h "types_path") a.typesPath
  operationResultSuffix := getD_textAt? (h "operation_result_suffix") a.operationResultSuffix
  voidTypeName := getD_textAt? (h "void_type_name") a.voidTypeName
  dedupeOperationSuffix :=
    or_eq_true_iff_lookup (h "dedupe_operation_suffix") a.dedupeOperationSuffix
  omitOperationSuffix := or_eq_true_iff_lookup (h "omit_operation_suffix") a.omitOperationSuffix

end TypedClient
