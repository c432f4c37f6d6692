import TypedClient.Proofs.Failures
import TypedClient.Proofs.ImportedTypes

/-!
# How far settings reach

Settings choose names and paths. They decide neither whether an operation has a function nor what
its function does: under any two settings the functions differ in the names of types alone. The one
exception is the scalar for no data. It is also a name of the settings, and whether a field has that
type decides whether its function has a result at all.
-/

namespace TypedClient

/-! ## One operation under two settings -/

/-- The operation selects one field, and the named type of the field is the type for no data under
one of the settings but not under the other. -/
def VoidUnderOne (s : Schema) (c c' : Settings) (op : Operation) : Prop :=
  ∃ head field, SelectsField op head ∧ s.rootField op.kind head.name = .ok field ∧
    ¬ (field.type.innermost = c.voidTypeName ↔ field.type.innermost = c'.voidTypeName)

/-- Two functions of one operation, under two settings. -/
structure SameButTypes (s : Schema) (c c' : Settings) (op : Operation)
    (f f' : OperationFunction) : Prop where
  /-- All other parts are the same. -/
  same : f' = { f with
    paramType := f'.paramType
    resultType := f'.resultType
    dataTransformBlock := f'.dataTransformBlock }
  bare : ∀ v, op.convention = .bare v → f.paramType = f'.paramType
  bag : op.convention = .bag →
    f.paramType = variablesTypeName c f.operationName op.kind ∧
      f'.paramType = variablesTypeName c' f.operationName op.kind
  transform : f.dataTransformBlock = f'.dataTransformBlock ↔ ¬ VoidUnderOne s c c' op
  single : ∀ head, SelectsField op head →
    (f.resultType = f'.resultType ↔ ¬ VoidUnderOne s c c' op)
  several : (∀ head, ¬ SelectsField op head) →
    f.resultType = some (resultTypeName c f.operationName op.kind) ∧
      f'.resultType = some (resultTypeName c' f.operationName op.kind)

namespace Project

variable {s : Schema} {d : DocumentSet} {c c' : Settings} {op : Operation}

theorem functionOf_eq_ok_iff {p : Project} {f : OperationFunction} :
    p.functionOf op = .ok f ↔
      ∃ name result, op.name? = some name ∧
        p.resultOf name op.kind op.selections = .ok result ∧
          f = p.functionRecord op name result := by
  unfold functionOf
  cases op.name? with
  | none => simp
  | some name =>
    dsimp only
    rw [map_eq_ok_iff]
    constructor
    · rintro ⟨result, hresult, rfl⟩
      exact ⟨name, result, rfl, hresult, rfl⟩
    · rintro ⟨name', result, hname, hresult, rfl⟩
      cases hname
      exact ⟨result, hresult, rfl⟩

/-- An operation fails under all settings or under none, and with one error. -/
theorem functionOf_error_iff_of_settings (e : Error) :
    functionOf ⟨s, d, c⟩ op = .error e ↔ functionOf ⟨s, d, c'⟩ op = .error e := by
  rw [function_error_iff, function_error_iff]

theorem rootFieldType_eq_ok {p : Project} {kind : OperationKind} {name : String} {flat : FlatType}
    (h : p.rootFieldType kind name = .ok flat) :
    ∃ field, p.schema.rootField kind name = .ok field ∧ flat.baseName = field.type.innermost := by
  obtain ⟨field, hfield, hflat⟩ := bind_eq_ok_iff.1 h
  refine ⟨field, hfield, ?_⟩
  rw [FlatType.ofType_eq] at hflat
  split at hflat
  · cases hflat
  · cases hflat
    rfl

/-- What the results of an operation have in common: no single field is selected, or the field and
its type are the same. -/
theorem result_cases {name : String} {result result' : Option String × Option String}
    (hname : op.name? = some name)
    (h : resultOf ⟨s, d, c⟩ name op.kind op.selections = .ok result)
    (h' : resultOf ⟨s, d, c'⟩ name op.kind op.selections = .ok result') :
    ((∀ head, ¬ SelectsField op head) ∧
        result = (some (resultTypeName c name op.kind), none) ∧
        result' = (some (resultTypeName c' name op.kind), none)) ∨
      ∃ head field flat, SelectsField op head ∧ s.rootField op.kind head.name = .ok field ∧
        flat.baseName = field.type.innermost ∧
        result = singleFieldResult ⟨s, d, c⟩ head flat ∧
        result' = singleFieldResult ⟨s, d, c'⟩ head flat := by
  unfold resultOf at h h'
  cases hfield : singleField? op.kind op.selections with
  | none =>
    rw [hfield] at h h'
    cases h
    cases h'
    refine .inl ⟨fun head selects => ?_, rfl, rfl⟩
    rw [(selectsField_iff.1 selects).2] at hfield
    cases hfield
  | some head =>
    rw [hfield] at h h'
    obtain ⟨flat, hflat, rfl⟩ := map_eq_ok_iff.1 h
    obtain ⟨flat', hflat', rfl⟩ := map_eq_ok_iff.1 h'
    obtain rfl : flat = flat' := Except.ok.inj (hflat.symm.trans hflat')
    obtain ⟨field, hroot, hbase⟩ := rootFieldType_eq_ok hflat
    exact .inr ⟨head, field, flat, selectsField_iff.2 ⟨⟨name, hname⟩, hfield⟩, hroot, hbase,
      rfl, rfl⟩

/-- A field whose type is void under both settings or under neither has one result, any other has
two that differ in both parts. -/
theorem singleFieldResult_settings (s : Schema) (d : DocumentSet) (c c' : Settings)
    (head : FieldHead) (flat : FlatType) :
    ((singleFieldResult ⟨s, d, c⟩ head flat).1 = (singleFieldResult ⟨s, d, c'⟩ head flat).1 ↔
        (flat.baseName = c.voidTypeName ↔ flat.baseName = c'.voidTypeName)) ∧
      ((singleFieldResult ⟨s, d, c⟩ head flat).2 = (singleFieldResult ⟨s, d, c'⟩ head flat).2 ↔
        (flat.baseName = c.voidTypeName ↔ flat.baseName = c'.voidTypeName)) := by
  unfold singleFieldResult
  by_cases h : flat.baseName = c.voidTypeName
  · by_cases h' : flat.baseName = c'.voidTypeName
    · simp [← h, ← h']
    · simp [← h, h']
  · by_cases h' : flat.baseName = c'.voidTypeName
    · simp [h, ← h']
    · simp [h, h']

theorem voidUnderOne_iff (c c' : Settings) {head : FieldHead} {field : FieldDefinition}
    (selects : SelectsField op head) (hroot : s.rootField op.kind head.name = .ok field) :
    VoidUnderOne s c c' op ↔
      ¬ (field.type.innermost = c.voidTypeName ↔ field.type.innermost = c'.voidTypeName) := by
  constructor
  · rintro ⟨head', field', selects', hroot', h⟩
    cases selects.eq selects'
    cases hroot.symm.trans hroot'
    exact h
  · exact fun h => ⟨head, field, selects, hroot, h⟩

theorem sameButTypes_of_functionOf {f f' : OperationFunction}
    (h : functionOf ⟨s, d, c⟩ op = .ok f) (h' : functionOf ⟨s, d, c'⟩ op = .ok f') :
    SameButTypes s c c' op f f' := by
  obtain ⟨name, result, hname, hresult, rfl⟩ := functionOf_eq_ok_iff.1 h
  obtain ⟨name', result', hname', hresult', rfl⟩ := functionOf_eq_ok_iff.1 h'
  cases hname.symm.trans hname'
  have same : functionRecord ⟨s, d, c'⟩ op name result' =
    { functionRecord ⟨s, d, c⟩ op name result with
      paramType := (functionRecord ⟨s, d, c'⟩ op name result').paramType
      resultType := result'.1
      dataTransformBlock := result'.2 } := by
    cases hconvention : op.convention <;> simp [functionRecord, parameterOf, hconvention]
  have bare : ∀ v, op.convention = .bare v →
      (functionRecord ⟨s, d, c⟩ op name result).paramType =
        (functionRecord ⟨s, d, c'⟩ op name result').paramType := by
    intro v hv
    simp [functionRecord, parameterOf, hv]
  have bag : op.convention = .bag →
      (functionRecord ⟨s, d, c⟩ op name result).paramType = variablesTypeName c name op.kind ∧
        (functionRecord ⟨s, d, c'⟩ op name result').paramType =
          variablesTypeName c' name op.kind := by
    intro hbag
    simp [functionRecord, parameterOf, hbag]
  rcases result_cases hname hresult hresult' with
    ⟨none, rfl, rfl⟩ | ⟨head, field, flat, selects, hroot, hbase, rfl, rfl⟩
  · refine ⟨same, bare, bag, iff_of_true rfl ?_, fun head selects => absurd selects (none head),
      fun _ => ⟨rfl, rfl⟩⟩
    rintro ⟨head, field, selects, -⟩
    exact none head selects
  · have hvoid := voidUnderOne_iff c c' selects hroot
    rw [← hbase] at hvoid
    obtain ⟨htype, htransform⟩ := singleFieldResult_settings s d c c' head flat
    refine ⟨same, bare, bag, ?_, fun _ _ => ?_, fun none => absurd selects (none head)⟩
    · rw [hvoid, not_not]
      exact htransform
    · rw [hvoid, not_not]
      exact htype

end Project

/-! ## Modules under two settings -/

/-- Two functions of one operation that differ in nothing but type names made from the name of the
operation: that of all variables together and that of the whole result. -/
structure Renamed (c c' : Settings) (op : Operation) (f f' : OperationFunction) : Prop where
  same : f' = { f with paramType := f'.paramType, resultType := f'.resultType }
  paramType : f.paramType = f'.paramType ∨ op.convention = .bag ∧
    f.paramType = variablesTypeName c f.operationName op.kind ∧
      f'.paramType = variablesTypeName c' f.operationName op.kind
  resultType : f.resultType = f'.resultType ∨ (∀ head, ¬ SelectsField op head) ∧
    f.resultType = some (resultTypeName c f.operationName op.kind) ∧
      f'.resultType = some (resultTypeName c' f.operationName op.kind)

theorem SameButTypes.renamed {s : Schema} {c c' : Settings} {op : Operation}
    {f f' : OperationFunction} (h : SameButTypes s c c' op f f')
    (hvoid : c.voidTypeName = c'.voidTypeName) : Renamed c c' op f f' := by
  have hone : ¬ VoidUnderOne s c c' op := by
    rintro ⟨head, field, -, -, hfield⟩
    rw [hvoid] at hfield
    exact hfield Iff.rfl
  refine ⟨?_, ?_, ?_⟩
  · rw [h.transform.2 hone]
    exact h.same
  · cases hconvention : op.convention with
    | bare v => exact .inl (h.bare v hconvention)
    | bag => exact .inr ⟨rfl, h.bag hconvention⟩
  · by_cases hselects : ∃ head, SelectsField op head
    · obtain ⟨head, selects⟩ := hselects
      exact .inl ((h.single head selects).2 hone)
    · have none : ∀ head, ¬ SelectsField op head := not_exists.1 hselects
      exact .inr ⟨none, h.several none⟩

/-- Two entries for one definition: the same constant, or functions of one operation. -/
inductive RenamedEntry (d : DocumentSet) (c c' : Settings) : ModuleEntry → ModuleEntry → Prop where
  | constant (f : Fragment) : RenamedEntry d c c' (.constant f) (.constant f)
  | function {op f f'} (hop : op ∈ d.operations) (h : Renamed c c' op f f') :
      RenamedEntry d c c' (.function f) (.function f')

/-- The type names that are made from the name of an operation. -/
def Settings.operationTypes (c : Settings) (op : Operation) : List String :=
  match op.name? with
  | none => []
  | some name =>
    (if op.convention = .bag then [variablesTypeName c name op.kind] else []) ++
      if (singleField? op.kind op.selections).isNone then [resultTypeName c name op.kind] else []

/-- Two modules that differ in their paths, in type names made from names of operations, and in the
imports of these. -/
structure RenamedModule (d : DocumentSet) (c c' : Settings) (m m' : ClientModule) : Prop where
  paths : m.runtimeModule = c.runtimeModule ∧ m.typesPath = c.typesPath
  paths' : m'.runtimeModule = c'.runtimeModule ∧ m'.typesPath = c'.typesPath
  inputShapes : m.inputShapes = m'.inputShapes
  entries : List.Forall₂ (RenamedEntry d c c') m.entries m'.entries
  imports : ∃ common,
    m.typeImports = importNames (common ++ d.operations.flatMap c.operationTypes) ∧
      m'.typeImports = importNames (common ++ d.operations.flatMap c'.operationTypes)

namespace Project

variable {s : Schema} {d : DocumentSet} {c c' : Settings}

/-- What a function makes a module import, names made from the name of its operation apart. -/
def schemaTypes (p : Project) (op : Operation) : List String :=
  match op.name? with
  | none => []
  | some name =>
    (if op.convention = .bag then [] else p.parameterNames name op.kind op.convention) ++
      if (singleField? op.kind op.selections).isNone then []
      else p.resultNames name op.kind op.selections

theorem mem_functionNames_iff {p : Project} {op : Operation} {x : String} :
    x ∈ p.functionNames op ↔ x ∈ p.schemaTypes op ∨ x ∈ p.settings.operationTypes op := by
  unfold functionNames schemaTypes Settings.operationTypes
  cases op.name? with
  | none => simp
  | some name =>
    have hparameter : op.convention = .bag →
        p.parameterNames name op.kind op.convention = [variablesTypeName p.settings name op.kind] :=
      fun hbag => by rw [hbag, parameterNames]
    have hresult : (singleField? op.kind op.selections).isNone →
        p.resultNames name op.kind op.selections = [resultTypeName p.settings name op.kind] :=
      fun hnone => by rw [resultNames, Option.isNone_iff_eq_none.1 hnone]
    dsimp only
    split_ifs with hbag hnone hnone
    · rw [hparameter hbag, hresult hnone]
      simp
    · rw [hparameter hbag]
      simp [or_comm]
    · rw [hresult hnone]
      simp
    · simp

theorem schemaTypes_settings (hvoid : c.voidTypeName = c'.voidTypeName) (op : Operation) :
    schemaTypes ⟨s, d, c⟩ op = schemaTypes ⟨s, d, c'⟩ op := by
  have hparameter : op.convention ≠ .bag → ∀ name,
      parameterNames ⟨s, d, c⟩ name op.kind op.convention =
        parameterNames ⟨s, d, c'⟩ name op.kind op.convention := by
    intro hbag name
    cases hconvention : op.convention with
    | bare v => rfl
    | bag => exact absurd hconvention hbag
  have hresult : ¬ (singleField? op.kind op.selections).isNone → ∀ name,
      resultNames ⟨s, d, c⟩ name op.kind op.selections =
        resultNames ⟨s, d, c'⟩ name op.kind op.selections := by
    intro hsome name
    have hnames : singleFieldNames ⟨s, d, c⟩ = singleFieldNames ⟨s, d, c'⟩ := by
      funext flat
      simp only [singleFieldNames, hvoid]
    unfold resultNames
    cases hfield : singleField? op.kind op.selections with
    | none => simp [hfield] at hsome
    | some head =>
      simp only [hnames]
      rfl
  unfold schemaTypes
  cases op.name? with
  | none => rfl
  | some name =>
    dsimp only
    split_ifs with hbag hnone hnone
    · rfl
    · rw [hresult hnone]
    · rw [hparameter hbag]
    · rw [hparameter hbag, hresult hnone]

theorem typeImports_of_generate {p : Project} {m : ClientModule} (h : p.generate = .ok m) :
    m.typeImports = importNames (p.documents.operations.flatMap p.schemaTypes ++
      p.documents.operations.flatMap p.settings.operationTypes) := by
  obtain ⟨inputShapes, entries, -, rfl⟩ := eq_of_generate h
  refine importNames_congr fun x => ?_
  rw [flatMap_entryNames]
  simp only [List.mem_append, List.mem_flatMap, mem_functionNames_iff, and_or_left, exists_or]

theorem firstFault_of_valid {items : List CheckedItem} {e : Error} (h : c.validate = .ok ()) :
    FirstFault Fault ([.settings c] ++ items) e ↔ FirstFault Fault items e := by
  have hclean : ∀ e', ¬ Fault (.settings c) e' := by
    intro e' hfault
    cases hfault with
    | settings herror =>
      rw [h] at herror
      cases herror
  rw [List.singleton_append, FirstFault.cons_iff]
  simp [hclean]

theorem generate_error_iff_of_settings (hvalid : c.validate = .ok ())
    (hvalid' : c'.validate = .ok ()) (e : Error) :
    generate ⟨s, d, c⟩ = .error e ↔ generate ⟨s, d, c'⟩ = .error e := by
  rw [generate_error_iff, generate_error_iff, firstFault_of_valid hvalid,
    firstFault_of_valid hvalid']

theorem renamedEntry_of_entryOf {definition : Definition} {entry entry' : ModuleEntry}
    (hmem : definition ∈ d.definitions) (hvoid : c.voidTypeName = c'.voidTypeName)
    (h : entryOf ⟨s, d, c⟩ definition = .ok entry)
    (h' : entryOf ⟨s, d, c'⟩ definition = .ok entry') : RenamedEntry d c c' entry entry' := by
  cases definition with
  | operation op =>
    obtain ⟨f, hf, rfl⟩ := map_eq_ok_iff.1 h
    obtain ⟨f', hf', rfl⟩ := map_eq_ok_iff.1 h'
    refine .function (List.mem_filterMap.2 ⟨_, hmem, rfl⟩) ?_
    exact (sameButTypes_of_functionOf hf hf').renamed hvoid
  | fragment f =>
    cases h
    cases h'
    exact .constant f

theorem renamedModule_of_generate {m m' : ClientModule}
    (hvoid : c.voidTypeName = c'.voidTypeName) (h : generate ⟨s, d, c⟩ = .ok m)
    (h' : generate ⟨s, d, c'⟩ = .ok m') : RenamedModule d c c' m m' := by
  have himports := typeImports_of_generate h
  have himports' := typeImports_of_generate h'
  have hentries := entries_of_generate h
  have hentries' := entries_of_generate h'
  have hcommon : schemaTypes ⟨s, d, c⟩ = schemaTypes ⟨s, d, c'⟩ :=
    funext (schemaTypes_settings hvoid)
  obtain ⟨-, shapes, hshapes, entries, -, rfl⟩ := generate_eq_ok_iff.1 h
  obtain ⟨-, shapes', hshapes', entries', -, rfl⟩ := generate_eq_ok_iff.1 h'
  refine ⟨⟨rfl, rfl⟩, ⟨rfl, rfl⟩, Except.ok.inj (hshapes.symm.trans hshapes'), ?_,
    _, himports, hcommon ▸ himports'⟩
  refine forall₂_of_common hentries hentries' fun definition hmem entry entry' he he' => ?_
  exact renamedEntry_of_entryOf hmem hvoid he he'

end Project

/-! ## The laws -/

/-- What two settings have in common, for given schema and documents. -/
structure SettingsLaws (s : Schema) (d : DocumentSet) (c c' : Settings) : Prop where
  /-- An operation fails alike under both settings, and so it also succeeds under both or none. -/
  errors : ∀ op e recorded recorded',
    ((Project.function ⟨s, d, c⟩ op).run.run recorded).1 = .error e ↔
      ((Project.function ⟨s, d, c'⟩ op).run.run recorded').1 = .error e
  functions : ∀ op f f' recorded recorded',
    ((Project.function ⟨s, d, c⟩ op).run.run recorded).1 = .ok f →
      ((Project.function ⟨s, d, c'⟩ op).run.run recorded').1 = .ok f' →
        SameButTypes s c c' op f f'
  module_errors : c.validate = .ok () → c'.validate = .ok () → ∀ e,
    Project.generate ⟨s, d, c⟩ = .error e ↔ Project.generate ⟨s, d, c'⟩ = .error e
  modules : c.voidTypeName = c'.voidTypeName → ∀ m m',
    Project.generate ⟨s, d, c⟩ = .ok m → Project.generate ⟨s, d, c'⟩ = .ok m' →
      RenamedModule d c c' m m'

theorem settings_choose_names (s : Schema) (d : DocumentSet) (c c' : Settings) :
    SettingsLaws s d c c' where
  errors op e recorded recorded' := by
    rw [Project.function_gives ⟨s, d, c⟩ op recorded,
      Project.function_gives ⟨s, d, c'⟩ op recorded']
    exact Project.functionOf_error_iff_of_settings e
  functions op f f' recorded recorded' h h' := by
    rw [Project.function_gives ⟨s, d, c⟩ op recorded] at h
    rw [Project.function_gives ⟨s, d, c'⟩ op recorded'] at h'
    exact Project.sameButTypes_of_functionOf h h'
  module_errors hvalid hvalid' := Project.generate_error_iff_of_settings hvalid hvalid'
  modules hvoid _ _ := Project.renamedModule_of_generate hvoid

/-- Settings that differ from the defaults in everything but the type for no data. -/
def shortNames : Settings :=
  { runtimeModule := "@acme/runtime", typesPath := "../types", operationResultSuffix := "Result"
    dedupeOperationSuffix := true, omitOperationSuffix := true }

theorem settings_choose_names_of_teamRequests :
    (∃ m m', Project.generate ⟨teamRequests.schema, teamRequests.documents, {}⟩ = .ok m ∧
      Project.generate ⟨teamRequests.schema, teamRequests.documents, shortNames⟩ = .ok m' ∧
      m.typeImports = ["OverviewQuery", "OverviewQueryVariables", "Scalars", "User"] ∧
      m'.typeImports = ["OverviewResult", "OverviewVariables", "Scalars", "User"] ∧
      RenamedModule teamRequests.documents {} shortNames m m') ∧
    ∃ op ∈ teamRequests.documents.operations,
      VoidUnderOne teamRequests.schema {} { voidTypeName := "User" } op := by
  have hgenerate : ∃ m, Project.generate
    ⟨teamRequests.schema, teamRequests.documents, {}⟩ = .ok m := ⟨_, rfl⟩
  have hgenerate' : ∃ m', Project.generate
    ⟨teamRequests.schema, teamRequests.documents, shortNames⟩ = .ok m' := ⟨_, rfl⟩
  obtain ⟨m, hm⟩ := hgenerate
  obtain ⟨m', hm'⟩ := hgenerate'
  have hrenamed := (settings_choose_names teamRequests.schema teamRequests.documents {}
    shortNames).modules rfl m m' hm hm'
  refine ⟨⟨m, m', hm, hm', ?_, ?_, hrenamed⟩, _, List.mem_cons_self, ⟨none, "users", [], []⟩, _,
    ⟨⟨_, rfl⟩, .inl rfl, ⟨_, rfl⟩, by decide⟩, rfl, by decide⟩
  · rw [Project.typeImports_of_generate hm]
    decide +kernel
  · rw [Project.typeImports_of_generate hm']
    decide +kernel

end TypedClient
