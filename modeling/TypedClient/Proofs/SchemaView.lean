import TypedClient.Proofs.Failures
import TypedClient.Proofs.Keyed

/-!
# What a module shows of its schema

A schema says much more than a module needs. All that reaches a module is the category of each name,
the shapes of the input types, and, for the fields of the roots of queries and mutations, the named
type and whether it comes in a list. `Schema.SameView` says that two schemas agree on these, and the
main statement is that they then give the same module, or the same error, for all documents and
settings. A schema agrees in this way with the same schema stripped of everything else.
-/

namespace TypedClient

/-! ## The view -/

/-- Name, named type and wrappers of a field, whatever the category of its type. -/
def InputValue.shape (field : InputValue) : InputFieldShape :=
  { name := field.name
    typeName := field.type.innermost
    isList := field.type.hasList
    isNonNull := field.type.hasNonNull }

/-- The named type of a field and whether it comes in a list. -/
def FieldDefinition.result (field : FieldDefinition) : String × Bool :=
  (field.type.innermost, field.type.hasList)

namespace Schema

/-- Names and field shapes of the input types, in order. -/
def inputViews (s : Schema) : List (String × List InputFieldShape) :=
  s.inputObjects.map fun (name, fields) => (name, fields.map InputValue.shape)

/-- Two schemas that a module cannot tell apart. -/
structure SameView (s s' : Schema) : Prop where
  category : ∀ name, s.category? name = s'.category? name
  inputs : s.inputViews = s'.inputViews
  rootName : ∀ kind, kind ≠ .subscription → s.rootTypeName kind = s'.rootTypeName kind
  /-- The root is an object type in both schemas or in neither. -/
  rootObject : ∀ kind, kind ≠ .subscription →
    ((∃ fields, s.RootFields kind fields) ↔ ∃ fields, s'.RootFields kind fields)
  /-- The first field of a name is missing in both roots, or has the same result in both. -/
  rootField : ∀ kind, kind ≠ .subscription → ∀ fields fields', s.RootFields kind fields →
    s'.RootFields kind fields' → ∀ name,
      (fields.find? (·.name == name)).map FieldDefinition.result =
        (fields'.find? (·.name == name)).map FieldDefinition.result

end Schema

/-! ## Input shapes -/

/-- The shape of an input field, if the category of its type is right. -/
def InputFieldShape.check (category? : String → Option TypeCategory) (input : String)
    (shape : InputFieldShape) : Except Error InputFieldShape :=
  if (category? shape.typeName).any TypeCategory.isInput then .ok shape
  else .error (.unresolvableInputFieldType input shape.name shape.typeName)

/-- The input shapes, made from the view alone. -/
def InputShapeMap.ofViews (category? : String → Option TypeCategory)
    (views : List (String × List InputFieldShape)) : Except Error InputShapeMap := do
  let shapes ← views.mapM fun (name, fields) => do
    return (name, { name := name, fields := ← fields.mapM (InputFieldShape.check category? name) })
  return Keyed.ofList shapes

theorem InputShape.ofFields_eq (s : Schema) (name : String) (fields : List InputValue) :
    InputShape.ofFields s name fields = (do
      return {
        name := name
        fields := ← (fields.map InputValue.shape).mapM
          (InputFieldShape.check s.category? name) }) := by
  have hfield : InputFieldShape.ofField s name =
      InputFieldShape.check s.category? name ∘ InputValue.shape :=
    funext fun field => InputFieldShape.ofField_eq s name field
  rw [List.mapM_map, ← hfield]
  rfl

theorem InputShapeMap.ofSchema_eq (s : Schema) :
    InputShapeMap.ofSchema s = InputShapeMap.ofViews s.category? s.inputViews := by
  unfold InputShapeMap.ofSchema InputShapeMap.ofViews Schema.inputViews
  rw [List.mapM_map]
  congr 2
  funext ⟨name, fields⟩
  simp only [InputShape.ofFields_eq, Function.comp_apply, bind_assoc, pure_bind]

/-! ## Functions -/

namespace Schema.SameView

variable {s s' : Schema}

/-- A root field is not found in both schemas, or found with the same result. -/
theorem rootField_cases (h : s.SameView s') {kind : OperationKind} (hkind : kind ≠ .subscription)
    (name : String) :
    (∃ e, s.rootField kind name = .error e ∧ s'.rootField kind name = .error e) ∨
      ∃ f f', s.rootField kind name = .ok f ∧ s'.rootField kind name = .ok f' ∧
        f.result = f'.result := by
  by_cases hroot : ∃ fields, s.RootFields kind fields
  · obtain ⟨fields, root⟩ := hroot
    obtain ⟨fields', root'⟩ := (h.rootObject kind hkind).1 ⟨fields, root⟩
    have hfields := h.rootField kind hkind fields fields' root root' name
    rw [root.rootField_eq, root'.rootField_eq, ← h.rootName kind hkind]
    cases hfind : fields.find? (·.name == name) with
    | none =>
      rw [hfind] at hfields
      rw [Option.map_eq_none_iff.1 hfields.symm]
      exact .inl ⟨_, rfl, rfl⟩
    | some f =>
      rw [hfind] at hfields
      obtain ⟨f', hfind', hresult⟩ := Option.map_eq_some_iff.1 hfields.symm
      rw [hfind']
      exact .inr ⟨f, f', rfl, rfl, hresult.symm⟩
  · have hroot' : ¬ ∃ fields, s'.RootFields kind fields := mt (h.rootObject kind hkind).2 hroot
    refine .inl ⟨_, rootField_of_no_rootFields (not_exists.1 hroot) name, ?_⟩
    rw [h.rootName kind hkind]
    exact rootField_of_no_rootFields (not_exists.1 hroot') name

/-- Flat types agree on everything but the marks for null. -/
theorem rootFieldType_cases (h : s.SameView s') (d : DocumentSet) (c : Settings)
    {kind : OperationKind} (hkind : kind ≠ .subscription) (name : String) :
    (∃ e, Project.rootFieldType ⟨s, d, c⟩ kind name = .error e ∧
        Project.rootFieldType ⟨s', d, c⟩ kind name = .error e) ∨
      ∃ flat flat', Project.rootFieldType ⟨s, d, c⟩ kind name = .ok flat ∧
        Project.rootFieldType ⟨s', d, c⟩ kind name = .ok flat' ∧
        flat.baseName = flat'.baseName ∧ flat.isList = flat'.isList ∧
        flat.category = flat'.category := by
  unfold Project.rootFieldType
  rcases h.rootField_cases hkind name with ⟨e, herror, herror'⟩ | ⟨f, f', hf, hf', hresult⟩
  · refine .inl ⟨e, ?_, ?_⟩
    · simp only [herror]
      rfl
    · simp only [herror']
      rfl
  · obtain ⟨hname, hlist⟩ := Prod.mk.inj hresult
    simp only [hf, hf']
    show (∃ e, FlatType.ofType s f.type = .error e ∧ FlatType.ofType s' f'.type = .error e) ∨
      ∃ flat flat', FlatType.ofType s f.type = .ok flat ∧ FlatType.ofType s' f'.type = .ok flat' ∧
        flat.baseName = flat'.baseName ∧ flat.isList = flat'.isList ∧
        flat.category = flat'.category
    rw [FlatType.ofType_eq, FlatType.ofType_eq, ← hname, ← h.category]
    cases s.category? f.type.innermost with
    | none => exact .inl ⟨_, rfl, rfl⟩
    | some category => exact .inr ⟨_, _, rfl, rfl, rfl, hlist, rfl⟩

variable (d : DocumentSet) (c : Settings) (name : String)

theorem parameter_eq (h : s.SameView s') (kind : OperationKind) (convention : Convention) :
    Project.parameterOf ⟨s, d, c⟩ name kind convention =
        Project.parameterOf ⟨s', d, c⟩ name kind convention ∧
      Project.parameterNames ⟨s, d, c⟩ name kind convention =
        Project.parameterNames ⟨s', d, c⟩ name kind convention := by
  cases convention with
  | bare v => simp only [Project.parameterOf, Project.parameterNames, h.category, and_self]
  | bag => exact ⟨rfl, rfl⟩

theorem result_eq (h : s.SameView s') (kind : OperationKind) (selections : List Selection) :
    Project.resultOf ⟨s, d, c⟩ name kind selections =
        Project.resultOf ⟨s', d, c⟩ name kind selections ∧
      Project.resultNames ⟨s, d, c⟩ name kind selections =
        Project.resultNames ⟨s', d, c⟩ name kind selections := by
  unfold Project.resultOf Project.resultNames
  cases hfield : singleField? kind selections with
  | none => exact ⟨rfl, rfl⟩
  | some head =>
    have hkind : kind ≠ .subscription := by
      rcases (singleField?_eq_some_iff.1 hfield).1 with rfl | rfl <;> decide
    dsimp only
    rcases h.rootFieldType_cases d c hkind head.name with
      ⟨e, herror, herror'⟩ | ⟨flat, flat', hflat, hflat', hbase, hlist, hcategory⟩
    · rw [herror, herror']
      exact ⟨rfl, rfl⟩
    · rw [hflat, hflat']
      simp only [Except.map, Project.singleFieldResult, Project.singleFieldNames, hbase, hlist,
        hcategory, and_self]

theorem entry_eq (h : s.SameView s') (definition : Definition) :
    Project.entryOf ⟨s, d, c⟩ definition = Project.entryOf ⟨s', d, c⟩ definition ∧
      Project.entryNames ⟨s, d, c⟩ definition = Project.entryNames ⟨s', d, c⟩ definition := by
  cases definition with
  | operation op =>
    constructor
    · show (Project.functionOf _ op).map _ = (Project.functionOf _ op).map _
      rw [Project.functionOf_congr (fun name => (h.parameter_eq d c name op.kind op.convention).1)
        (fun name => (h.result_eq d c name op.kind op.selections).1) rfl]
    · show Project.functionNames _ op = Project.functionNames _ op
      unfold Project.functionNames
      cases op.name? with
      | none => rfl
      | some name =>
        dsimp only
        rw [(h.parameter_eq d c name op.kind op.convention).2,
          (h.result_eq d c name op.kind op.selections).2]
  | fragment f => exact ⟨rfl, rfl⟩

theorem generate_eq (h : s.SameView s') :
    Project.generate ⟨s, d, c⟩ = Project.generate ⟨s', d, c⟩ := by
  have hentries : Project.entryOf ⟨s, d, c⟩ = Project.entryOf ⟨s', d, c⟩ :=
    funext fun definition => (h.entry_eq d c definition).1
  have hnames : Project.entryNames ⟨s, d, c⟩ = Project.entryNames ⟨s', d, c⟩ :=
    funext fun definition => (h.entry_eq d c definition).2
  rw [Project.generate_eq, Project.generate_eq]
  simp only [InputShapeMap.ofSchema_eq, funext h.category, h.inputs, hentries, hnames]

end Schema.SameView

/-! ## The plain schema -/

namespace TypeRef

/-- The named type, in a list if there is a list anywhere. -/
def withoutMarks (t : TypeRef) : TypeRef :=
  if t.hasList then .list (.named t.innermost) else .named t.innermost

/-- The same, with one non-null mark if there is a mark anywhere. -/
def condensed (t : TypeRef) : TypeRef :=
  if t.hasNonNull then .nonNull t.withoutMarks else t.withoutMarks

@[simp] theorem innermost_withoutMarks (t : TypeRef) : t.withoutMarks.innermost = t.innermost := by
  unfold withoutMarks
  split <;> rfl

@[simp] theorem hasList_withoutMarks (t : TypeRef) : t.withoutMarks.hasList = t.hasList := by
  unfold withoutMarks
  split <;> simp_all [hasList]

@[simp] theorem hasNonNull_withoutMarks (t : TypeRef) : t.withoutMarks.hasNonNull = false := by
  unfold withoutMarks
  split <;> rfl

@[simp] theorem innermost_condensed (t : TypeRef) : t.condensed.innermost = t.innermost := by
  unfold condensed
  split <;> simp [innermost]

@[simp] theorem hasList_condensed (t : TypeRef) : t.condensed.hasList = t.hasList := by
  unfold condensed
  split <;> simp [hasList]

@[simp] theorem hasNonNull_condensed (t : TypeRef) : t.condensed.hasNonNull = t.hasNonNull := by
  unfold condensed
  split <;> simp_all [hasNonNull]

end TypeRef

/-- A field with its name and result and nothing else. -/
def FieldDefinition.plain (f : FieldDefinition) : FieldDefinition :=
  { description := none, name := f.name, arguments := [], type := f.type.withoutMarks
    directives := [] }

/-- An input field with its shape and nothing else. -/
def InputValue.plain (f : InputValue) : InputValue :=
  { description := none, name := f.name, type := f.type.condensed, default := none
    directives := [] }

/-- Only the fields of roots and of input types are kept. -/
def TypeBody.plain (isRoot : Bool) : TypeBody → TypeBody
  | scalar => scalar
  | object _ fields => object [] (if isRoot then fields.map FieldDefinition.plain else [])
  | interface _ _ => interface [] []
  | union _ => union []
  | enum _ => enum []
  | input fields => input (fields.map InputValue.plain)

namespace Schema

/-- Whether queries or mutations start at the type. -/
def isRoot (s : Schema) (name : String) : Bool :=
  name = s.rootTypeName .query || name = s.rootTypeName .mutation

def plainType (s : Schema) (t : TypeDefinition) : TypeDefinition :=
  { description := none, name := t.name, directives := []
    body := t.body.plain (s.isRoot t.name) }

/-- The schema without descriptions, directives, arguments, defaults, interfaces, members and
values, without the fields of types that are no roots, without nested lists and without marks on
results. Subscriptions start at a type of any name. -/
def plain (s : Schema) (subscription : String) : Schema where
  types := s.types.map s.plainType fun _ => rfl
  rootTypeName kind := if kind = .subscription then subscription else s.rootTypeName kind

variable {s : Schema} {subscription : String}

theorem find?_plain (name : String) :
    (s.plain subscription).find? name = (s.find? name).map s.plainType :=
  Keyed.find?_map s.plainType (fun _ => rfl) s.types name

theorem category?_plain (name : String) :
    (s.plain subscription).category? name = s.category? name := by
  unfold category?
  rw [find?_plain]
  cases s.find? name with
  | none => rfl
  | some t =>
    obtain ⟨description, name, directives, body⟩ := t
    cases body <;> rfl

theorem inputViews_plain : (s.plain subscription).inputViews = s.inputViews := by
  unfold inputViews inputObjects
  show (List.filterMap _ (s.types.items.map s.plainType)).map _ = _
  rw [List.filterMap_map, List.map_filterMap, List.map_filterMap]
  congr 1
  funext t
  obtain ⟨description, name, directives, body⟩ := t
  cases body with
  | input fields =>
    simp [plainType, TypeBody.plain, InputValue.plain, InputValue.shape]
  | scalar | object | interface | union | enum => rfl

theorem rootTypeName_plain {kind : OperationKind} (hkind : kind ≠ .subscription) :
    (s.plain subscription).rootTypeName kind = s.rootTypeName kind :=
  if_neg hkind

theorem isRoot_rootTypeName {kind : OperationKind} (hkind : kind ≠ .subscription) :
    s.isRoot (s.rootTypeName kind) = true := by
  cases kind with
  | query | mutation => simp [isRoot]
  | subscription => exact absurd rfl hkind

/-- The root of a plain schema has the plain fields of the root. -/
theorem rootFields_plain_iff {kind : OperationKind} (hkind : kind ≠ .subscription)
    {fields' : List FieldDefinition} :
    (s.plain subscription).RootFields kind fields' ↔
      ∃ fields, s.RootFields kind fields ∧ fields' = fields.map FieldDefinition.plain := by
  unfold RootFields
  rw [rootTypeName_plain hkind, find?_plain]
  constructor
  · rintro ⟨t', interfaces', ht', hbody'⟩
    obtain ⟨t, ht, rfl⟩ := Option.map_eq_some_iff.1 ht'
    have hname : t.name = s.rootTypeName kind := by
      simpa using List.find?_some ht
    change t.body.plain (s.isRoot t.name) = _ at hbody'
    rw [hname, isRoot_rootTypeName hkind] at hbody'
    cases hbody : t.body with
    | object interfaces fields =>
      rw [hbody] at hbody'
      cases hbody'
      exact ⟨fields, ⟨t, interfaces, ht, hbody⟩, rfl⟩
    | scalar | interface | union | enum | input =>
      rw [hbody] at hbody'
      cases hbody'
  · rintro ⟨fields, ⟨t, interfaces, ht, hbody⟩, rfl⟩
    have hname : t.name = s.rootTypeName kind := by
      simpa using List.find?_some ht
    refine ⟨s.plainType t, [], by rw [ht]; rfl, ?_⟩
    show t.body.plain (s.isRoot t.name) = _
    rw [hname, isRoot_rootTypeName hkind, hbody]
    rfl

theorem find?_map_plain (fields : List FieldDefinition) (name : String) :
    ((fields.map FieldDefinition.plain).find? (·.name == name)).map FieldDefinition.result =
      (fields.find? (·.name == name)).map FieldDefinition.result := by
  rw [List.find?_map, Option.map_map]
  congr 1
  funext f
  simp [FieldDefinition.result, FieldDefinition.plain]

theorem sameView_plain (s : Schema) (subscription : String) :
    s.SameView (s.plain subscription) where
  category name := (category?_plain name).symm
  inputs := inputViews_plain.symm
  rootName kind hkind := (rootTypeName_plain hkind).symm
  rootObject kind hkind := by
    constructor
    · rintro ⟨fields, root⟩
      exact ⟨_, (rootFields_plain_iff hkind).2 ⟨fields, root, rfl⟩⟩
    · rintro ⟨fields', root'⟩
      obtain ⟨fields, root, -⟩ := (rootFields_plain_iff hkind).1 root'
      exact ⟨fields, root⟩
  rootField kind hkind fields fields' root root' name := by
    obtain ⟨_, root₂, rfl⟩ := (rootFields_plain_iff hkind).1 root'
    rw [root.eq root₂, find?_map_plain]

end Schema

/-! ## The main statement -/

/-- Schemas with the same view give the same module or the same error. So does the plain schema, for
any root of subscriptions. -/
theorem generate_sees_view (s : Schema) (d : DocumentSet) (c : Settings) :
    (∀ s', s.SameView s' → Project.generate ⟨s, d, c⟩ = Project.generate ⟨s', d, c⟩) ∧
      ∀ subscription,
        Project.generate ⟨s.plain subscription, d, c⟩ = Project.generate ⟨s, d, c⟩ :=
  ⟨fun _ h => h.generate_eq d c, fun subscription =>
    ((s.sameView_plain subscription).generate_eq d c).symm⟩

/-- Teams with a field of their own, in lists of lists that are never null. -/
def describedTeams : Schema := .ofDocuments [[
  .type ⟨some "A group of users.", "Team", [], .object ["Node"]
    [⟨none, "id", [], .nonNull (.named "ID"), []⟩]⟩,
  .type ⟨none, "Filter", [], .input
    [⟨none, "tags", .list (.list (.nonNull (.named "String"))), none, []⟩]⟩,
  .type ⟨none, "Query", [], .object []
    [⟨none, "teams", [], .nonNull (.list (.list (.named "Team"))), []⟩]⟩]]

/-- Teams without fields, in a plain list; subscriptions start at `Feed`. -/
def bareTeams : Schema := .ofDocuments [[
  .schema ⟨[], none, none, some "Feed"⟩,
  .type ⟨none, "Team", [], .object [] []⟩,
  .type ⟨none, "Filter", [], .input
    [⟨none, "tags", .nonNull (.list (.named "String")), none, []⟩]⟩,
  .type ⟨none, "Query", [], .object [] [⟨none, "teams", [], .list (.named "Team"), []⟩]⟩]]

def teamsByFilter : DocumentSet where
  definitions := [.operation (.headed .query (some "teams") [⟨"filter", .named "Filter", none⟩] []
    [.field ⟨none, "teams", [], []⟩ [.field ⟨none, "id", [], []⟩ []]])]

theorem generate_sees_view_of_teams :
    describedTeams.SameView bareTeams ∧
      (∃ m, Project.generate ⟨describedTeams, teamsByFilter, {}⟩ = .ok m) ∧
      Project.generate ⟨describedTeams, teamsByFilter, {}⟩ =
        Project.generate ⟨bareTeams, teamsByFilter, {}⟩ := by
  have hroots : (describedTeams.plain "Feed").rootTypeName = bareTeams.rootTypeName := by
    funext kind
    cases kind <;> rfl
  have hplain : describedTeams.plain "Feed" = bareTeams := by
    rw [show bareTeams = ⟨bareTeams.types, bareTeams.rootTypeName⟩ from rfl, ← hroots]
    rfl
  have hview : describedTeams.SameView bareTeams := hplain ▸ describedTeams.sameView_plain "Feed"
  exact ⟨hview, ⟨_, rfl⟩, (generate_sees_view describedTeams teamsByFilter {}).1 bareTeams hview⟩

end TypedClient
