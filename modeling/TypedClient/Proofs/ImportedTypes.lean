import TypedClient.Proofs.Generation
import TypedClient.Proofs.ImportNames

/-!
# Imported types

The functions of a module mention types, and the module imports names. The two come about in
different places: a type is written by one statement, and its import is recorded by another. Here
they are brought together: everything that is mentioned is imported or built in, and everything that
is imported is mentioned.

`ImportsFor types names` states that for any types and names. It goes from single references over
the functions to the whole module, as both sides are put together in the same order.
-/

namespace TypedClient

/-! ## Types as they are written -/

/-- The type is written as `base`, or as a list of it. -/
def Writes (type base : String) : Prop :=
  type = base ∨ type = base ++ "[]"

/-- The name has to be imported for the type: it is the type, or the type is one of the declared
scalars. -/
inductive Mentions (type : String) : String → Prop where
  | named {name} (h : Writes type name) : Mentions type name
  | scalar {name} (h : Writes type ("Scalars[\"" ++ name ++ "\"]")) : Mentions type "Scalars"

/-- The types that need no import. -/
def plainTypes : List String :=
  ["string", "number", "boolean"]

structure ImportsFor (types names : List String) : Prop where
  complete : ∀ type ∈ types,
    (∃ plain ∈ plainTypes, Writes type plain) ∨ ∃ name ∈ names, Mentions type name
  sound : ∀ name ∈ names, ∃ type ∈ types, Mentions type name

namespace ImportsFor

theorem nil : ImportsFor [] [] where
  complete := by simp
  sound := by simp

theorem append {types types' names names' : List String} (h : ImportsFor types names)
    (h' : ImportsFor types' names') : ImportsFor (types ++ types') (names ++ names') where
  complete type htype := by
    rcases List.mem_append.1 htype with htype | htype
    · refine (h.complete type htype).imp id ?_
      rintro ⟨name, hname, hmentions⟩
      exact ⟨name, List.mem_append_left names' hname, hmentions⟩
    · refine (h'.complete type htype).imp id ?_
      rintro ⟨name, hname, hmentions⟩
      exact ⟨name, List.mem_append_right names hname, hmentions⟩
  sound name hname := by
    rcases List.mem_append.1 hname with hname | hname
    · obtain ⟨type, htype, hmentions⟩ := h.sound name hname
      exact ⟨type, List.mem_append_left types' htype, hmentions⟩
    · obtain ⟨type, htype, hmentions⟩ := h'.sound name hname
      exact ⟨type, List.mem_append_right types htype, hmentions⟩

theorem plain {type plain : String} (hplain : plain ∈ plainTypes) (h : Writes type plain) :
    ImportsFor [type] [] where
  complete t ht := by
    obtain rfl := List.mem_singleton.1 ht
    exact .inl ⟨plain, hplain, h⟩
  sound := by simp

theorem single {type name : String} (h : Mentions type name) : ImportsFor [type] [name] where
  complete t ht := by
    obtain rfl := List.mem_singleton.1 ht
    exact .inr ⟨name, List.mem_singleton_self name, h⟩
  sound n hn := by
    obtain rfl := List.mem_singleton.1 hn
    exact ⟨type, List.mem_singleton_self type, h⟩

end ImportsFor

/-! ## The types of a function -/

theorem mem_plainTypes_of_primitive? {name primitive : String}
    (h : primitive? name = some primitive) : primitive ∈ plainTypes := by
  unfold primitive? at h
  split at h
  · cases h
    simp [plainTypes]
  · split at h
    · cases h
      simp [plainTypes]
    · split at h
      · cases h
        simp [plainTypes]
      · cases h

theorem writes_listSuffix (base : String) (isList : Bool) :
    Writes (base ++ listSuffix isList) base := by
  cases isList with
  | false => exact .inl String.append_empty
  | true => exact .inr rfl

/-- A reference to a named type, with or without a list around it. -/
theorem importsFor_typeText (name : String) (category : Option TypeCategory) (isList : Bool) :
    ImportsFor [typeText name category ++ listSuffix isList] (typeNames name category) := by
  unfold typeText typeNames
  cases hprimitive : primitive? name with
  | some primitive =>
    exact .plain (mem_plainTypes_of_primitive? hprimitive) (writes_listSuffix primitive isList)
  | none =>
    by_cases hscalar : category = some .scalar
    · simp only [if_pos hscalar]
      exact .single (.scalar (writes_listSuffix _ isList))
    · simp only [if_neg hscalar]
      exact .single (.named (writes_listSuffix name isList))

/-- The types that a function mentions: that of its parameter and, if there is one, that of its
result. -/
def OperationFunction.types (f : OperationFunction) : List String :=
  f.paramType :: f.resultType.toList

namespace Project

theorem importsFor_parameter (p : Project) (name : String) (kind : OperationKind)
    (c : Convention) :
    ImportsFor [(p.parameterOf name kind c).type] (p.parameterNames name kind c) := by
  cases c with
  | bare v => exact importsFor_typeText v.typeName (p.schema.category? v.typeName) v.isList
  | bag => exact .single (.named (.inl rfl))

theorem importsFor_singleField (p : Project) (head : FieldHead) (flat : FlatType) :
    ImportsFor (p.singleFieldResult head flat).1.toList (p.singleFieldNames flat) := by
  unfold singleFieldResult singleFieldNames
  by_cases hvoid : flat.baseName = p.settings.voidTypeName
  · simp only [if_pos hvoid]
    exact .nil
  · simp only [if_neg hvoid]
    exact importsFor_typeText flat.baseName (some flat.category) flat.isList

theorem importsFor_result {p : Project} {name : String} {kind : OperationKind}
    {selections : List Selection} {r : Option String × Option String}
    (h : p.resultOf name kind selections = .ok r) :
    ImportsFor r.1.toList (p.resultNames name kind selections) := by
  unfold resultOf at h
  unfold resultNames
  cases hfield : singleField? kind selections with
  | none =>
    rw [hfield] at h
    cases h
    exact .single (.named (.inl rfl))
  | some head =>
    rw [hfield] at h
    obtain ⟨flat, hflat, rfl⟩ := map_eq_ok_iff.1 h
    simp only [hflat]
    exact p.importsFor_singleField head flat

theorem importsFor_function {p : Project} {op : Operation} {f : OperationFunction}
    (h : p.functionOf op = .ok f) : ImportsFor f.types (p.functionNames op) := by
  unfold functionOf at h
  unfold functionNames
  cases hname : op.name? with
  | none =>
    rw [hname] at h
    cases h
  | some name =>
    rw [hname] at h
    obtain ⟨r, hr, rfl⟩ := map_eq_ok_iff.1 h
    exact (p.importsFor_parameter name op.kind op.convention).append (importsFor_result hr)

theorem importsFor_functions {p : Project} {ops : List Operation} {fs : List OperationFunction}
    (h : List.Forall₂ (fun op f => p.functionOf op = .ok f) ops fs) :
    ImportsFor (fs.flatMap OperationFunction.types) (ops.flatMap p.functionNames) := by
  induction h with
  | nil => exact .nil
  | cons hf _ ih =>
    rw [List.flatMap_cons, List.flatMap_cons]
    exact (importsFor_function hf).append ih

theorem mem_typeImports_of_generate {p : Project} {m : ClientModule} (h : p.generate = .ok m)
    {name : String} :
    name ∈ m.typeImports ↔ name ∈ p.documents.operations.flatMap p.functionNames := by
  obtain ⟨inputShapes, entries, -, rfl⟩ := eq_of_generate h
  rw [mem_importNames, flatMap_entryNames]

end Project

/-! ## The import statement -/

/-- Names on lines of their own, with a comma behind each but the last. -/
inductive NameLines : List String → String → Prop where
  | last (name) : NameLines [name] ("  " ++ name ++ "\n")
  | cons (name) {names lines} (h : NameLines names lines) :
      NameLines (name :: names) ("  " ++ name ++ ",\n" ++ lines)

/-- The statement that imports the names from a module; no statement if there are none. -/
inductive ImportStatement (path : String) : List String → String → Prop where
  | none : ImportStatement path [] ""
  | names {names lines} (h : NameLines names lines) :
      ImportStatement path names ("import \x7b\n" ++ lines ++ "\x7d from \"" ++ path ++ "\"\n")

theorem nameLines_intercalate (name : String) (names : List String) :
    NameLines (name :: names)
      (",\n".intercalate ((name :: names).map ("  " ++ ·)) ++ "\n") := by
  induction names generalizing name with
  | nil => exact .last name
  | cons next names ih =>
    rw [List.map_cons, List.map_cons, String.intercalate_cons_cons, String.append_assoc]
    exact .cons name (ih next)

namespace ClientModule

/-- The first lines of a module. -/
def runtimeImport (m : ClientModule) : String :=
  "/* eslint-disable */\n" ++
    "import \x7b Api, ApiOptions, GraphQLResponse, gql, trimInput \x7d from \"" ++
    m.runtimeModule ++ "\"\n"

theorem importsBlock_eq (m : ClientModule) :
    ∃ statement, ImportStatement m.typesPath m.typeImports statement ∧
      m.importsBlock = m.runtimeImport ++ statement := by
  unfold importsBlock runtimeImport
  cases m.typeImports with
  | nil => exact ⟨"", .none, by simp [String.append_assoc]⟩
  | cons name names =>
    refine ⟨_, .names (nameLines_intercalate name names), ?_⟩
    have hclosing : "\n\x7d from \"" = "\n" ++ "\x7d from \"" := rfl
    rw [hclosing]
    simp [String.append_assoc]

/-- Behind the import statement comes a blank line and the holder of the api. -/
theorem content_eq (m : ClientModule) :
    ∃ statement rest, ImportStatement m.typesPath m.typeImports statement ∧
      m.content = m.runtimeImport ++ statement ++ "\n" ++ apiBlock ++ rest := by
  obtain ⟨statement, hstatement, himports⟩ := m.importsBlock_eq
  refine ⟨statement,
    "\n" ++ m.inputShapesBlock ++ String.join (m.entries.map fun e => "\n" ++ e.render),
    hstatement, ?_⟩
  rw [content, himports]
  simp only [String.append_assoc]

end ClientModule

/-! ## The imports of a module -/

/-- What holds of the imports of a module that was generated. -/
structure ImportLaws (p : Project) (m : ClientModule) : Prop where
  /-- The functions are those of the operations, whatever was recorded before. -/
  functions : List.Forall₂ (fun op f => ∀ recorded, ((p.function op).run.run recorded).1 = .ok f)
    p.documents.operations m.functions
  complete : ∀ f ∈ m.functions, ∀ type ∈ f.types,
    (∃ plain ∈ plainTypes, Writes type plain) ∨ ∃ name ∈ m.typeImports, Mentions type name
  sound : ∀ name ∈ m.typeImports, ∃ f ∈ m.functions, ∃ type ∈ f.types, Mentions type name
  increasing : m.typeImports.Pairwise fun a b => utf8 a < utf8 b
  statement : ∃ statement rest,
    ImportStatement p.settings.typesPath m.typeImports statement ∧
      m.content = m.runtimeImport ++ statement ++ "\n" ++ ClientModule.apiBlock ++ rest

theorem imports_are_mentions (p : Project) (m : ClientModule) (h : p.generate = .ok m) :
    ImportLaws p m := by
  have hfunctions := Project.functions_of_generate h
  have himports := Project.importsFor_functions hfunctions
  refine ⟨?_, ?_, ?_, ?_, ?_⟩
  · refine hfunctions.imp fun op f hf recorded => ?_
    rw [p.function_gives op recorded]
    exact hf
  · intro f hf type htype
    refine (himports.complete type (List.mem_flatMap.2 ⟨f, hf, htype⟩)).imp id ?_
    rintro ⟨name, hname, hmentions⟩
    exact ⟨name, (Project.mem_typeImports_of_generate h).2 hname, hmentions⟩
  · intro name hname
    obtain ⟨type, htype, hmentions⟩ :=
      himports.sound name ((Project.mem_typeImports_of_generate h).1 hname)
    obtain ⟨f, hf, htype⟩ := List.mem_flatMap.1 htype
    exact ⟨f, hf, type, htype, hmentions⟩
  · obtain ⟨inputShapes, entries, -, rfl⟩ := Project.eq_of_generate h
    exact pairwise_utf8_importNames _
  · have hpath : m.typesPath = p.settings.typesPath := by
      obtain ⟨inputShapes, entries, -, rfl⟩ := Project.eq_of_generate h
      rfl
    rw [← hpath]
    exact m.content_eq

/-- A list of declared scalars for a list of objects, two variables for two fields, and a built-in
scalar for no data. -/
def teamRequests : Project where
  schema := .ofDocuments [[
    .type ⟨none, "Date", [], .scalar⟩,
    .type ⟨none, "Void", [], .scalar⟩,
    .type ⟨none, "User", [], .object [] []⟩,
    .type ⟨none, "Query", [], .object [] [
      ⟨none, "users", [], .nonNull (.list (.named "User")), []⟩,
      ⟨none, "ping", [], .named "Void", []⟩]⟩]]
  documents := { definitions := [
    .operation (.headed .query (some "joined") [⟨"days", .list (.named "Date"), none⟩] []
      [.field ⟨none, "users", [], []⟩ [.field ⟨none, "id", [], []⟩ []]]),
    .operation (.headed .query (some "overview")
      [⟨"day", .named "Date", none⟩, ⟨"count", .named "Int", none⟩] []
      [.field ⟨none, "users", [], []⟩ [], .field ⟨none, "ping", [], []⟩ []]),
    .operation (.headed .query (some "ping") [⟨"count", .named "Int", none⟩] []
      [.field ⟨none, "ping", [], []⟩ []])] }
  settings := {}

theorem imports_are_mentions_of_teamRequests :
    ∃ m, teamRequests.generate = .ok m ∧
      m.typeImports = ["OverviewQuery", "OverviewQueryVariables", "Scalars", "User"] ∧
      ImportLaws teamRequests m := by
  have hgenerate : ∃ m, teamRequests.generate = .ok m := ⟨_, rfl⟩
  obtain ⟨m, hm⟩ := hgenerate
  refine ⟨m, hm, ?_, imports_are_mentions teamRequests m hm⟩
  obtain ⟨inputShapes, entries, -, rfl⟩ := Project.eq_of_generate hm
  show importNames (teamRequests.documents.definitions.flatMap teamRequests.entryNames) = _
  decide +kernel

end TypedClient
