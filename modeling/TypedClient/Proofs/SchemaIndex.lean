import TypedClient.ClientModule
import TypedClient.Proofs.Keyed

/-!
# What a schema holds

The index of a schema in terms of its definitions: which names it has and in which order, what
stands under each name, and the root types. Declarations, extensions and root types are collected
apart from one another, so how they are interleaved, or spread over documents, makes no difference.
-/

namespace TypedClient

/-! ## Fields added to a type -/

namespace TypeBody

/-- The fields of an object. -/
def objectFields : TypeBody → List FieldDefinition
  | object _ fields => fields
  | _ => []

/-- The fields of an input. -/
def inputFields : TypeBody → List InputValue
  | input fields => fields
  | _ => []

/-- An object with more object fields behind its own, an input with more input fields behind its
own, or any other body as it is. -/
def addFields (moreObject : List FieldDefinition) (moreInput : List InputValue) :
    TypeBody → TypeBody
  | object interfaces fields => object interfaces (fields ++ moreObject)
  | input fields => input (fields ++ moreInput)
  | body => body

theorem extend_eq_addFields (body more : TypeBody) :
    body.extend more = body.addFields more.objectFields more.inputFields := by
  cases body <;> cases more <;> simp [extend, addFields, objectFields, inputFields]

@[simp] theorem addFields_nil (body : TypeBody) : body.addFields [] [] = body := by
  cases body <;> simp [addFields]

theorem addFields_addFields (body : TypeBody) (o o' : List FieldDefinition)
    (i i' : List InputValue) :
    (body.addFields o i).addFields o' i' = body.addFields (o ++ o') (i ++ i') := by
  cases body <;> simp [addFields]

/-- Only the fields that go with the category of the body matter. -/
theorem addFields_congr {body : TypeBody} {o o' : List FieldDefinition} {i i' : List InputValue}
    (ho : body.category = .object → o = o') (hi : body.category = .input → i = i') :
    body.addFields o i = body.addFields o' i' := by
  cases body with
  | object interfaces fields => rw [addFields, addFields, ho rfl]
  | input fields => rw [addFields, addFields, hi rfl]
  | scalar | interface | union | enum => rfl

theorem objectFields_eq_nil {body : TypeBody} (h : body.category ≠ .object) :
    body.objectFields = [] := by
  cases body <;> simp_all [category, objectFields]

theorem inputFields_eq_nil {body : TypeBody} (h : body.category ≠ .input) :
    body.inputFields = [] := by
  cases body <;> simp_all [category, inputFields]

end TypeBody

namespace Schema

/-! ## The definitions of each sort -/

def declaredTypes (ds : List TypeSystemDefinition) : List TypeDefinition :=
  ds.filterMap fun
    | .type t => some t
    | _ => none

def typeExtensions (ds : List TypeSystemDefinition) : List TypeExtension :=
  ds.filterMap fun
    | .extension e => some e
    | _ => none

def schemaDefinitions (ds : List TypeSystemDefinition) : List SchemaDefinition :=
  ds.filterMap fun
    | .schema s => some s
    | _ => none

/-- The definitions of each sort only meet those of their own sort on the way. -/
theorem foldl_add (ds : List TypeSystemDefinition) (i : Index) :
    ds.foldl Index.add i =
      { types := (declaredTypes ds).foldl Keyed.put i.types
        extensions := i.extensions ++ typeExtensions ds
        rootTypeName := (schemaDefinitions ds).foldl
          (fun roots s kind => (s.root? kind).getD (roots kind)) i.rootTypeName } := by
  induction ds generalizing i with
  | nil => simp [declaredTypes, typeExtensions, schemaDefinitions]
  | cons d ds ih =>
    rw [List.foldl_cons, ih]
    cases d <;> simp [Index.add, declaredTypes, typeExtensions, schemaDefinitions]

/-- Going over the definitions once is the same as taking each sort on its own. -/
theorem ofDefinitions_eq (ds : List TypeSystemDefinition) :
    ofDefinitions ds =
      { types := (typeExtensions ds).foldl
          (fun types e => types.map (·.extend e) (TypeDefinition.name_extend e))
          (Keyed.ofList (declaredTypes ds))
        rootTypeName := (schemaDefinitions ds).foldl
          (fun roots s kind => (s.root? kind).getD (roots kind)) OperationKind.capitalized } := by
  rw [ofDefinitions, foldl_add]
  rfl

/-- The last declaration of a name. -/
def lastDeclaration? (ds : List TypeSystemDefinition) (name : String) : Option TypeDefinition :=
  ((declaredTypes ds).filter (·.name == name)).getLast?

/-- The extensions of a name, in order. -/
def extensionsOf (ds : List TypeSystemDefinition) (name : String) : List TypeExtension :=
  (typeExtensions ds).filter (·.name == name)

/-- A declared type with the fields of its extensions. -/
def extended (ds : List TypeSystemDefinition) (t : TypeDefinition) : TypeDefinition :=
  { t with
    body := t.body.addFields ((extensionsOf ds t.name).flatMap (·.body.objectFields))
      ((extensionsOf ds t.name).flatMap (·.body.inputFields)) }

theorem foldl_extend (es : List TypeExtension) (t : TypeDefinition) :
    es.foldl (fun t e => t.extend e) t =
      { t with
        body := t.body.addFields ((es.filter (·.name == t.name)).flatMap (·.body.objectFields))
          ((es.filter (·.name == t.name)).flatMap (·.body.inputFields)) } := by
  induction es generalizing t with
  | nil => simp
  | cons e es ih =>
    rw [List.foldl_cons, ih, TypeDefinition.name_extend, TypeDefinition.extend]
    by_cases h : t.name = e.name
    · have hname : (e.name == t.name) = true := by simp [h]
      rw [if_pos h, List.filter_cons, if_pos hname, List.flatMap_cons, List.flatMap_cons,
        TypeBody.extend_eq_addFields, TypeBody.addFields_addFields]
    · have hname : ¬ (e.name == t.name) = true := by simpa using Ne.symm h
      rw [if_neg h, List.filter_cons, if_neg hname]

/-! ## The types -/

theorem keys_foldl_extend (es : List TypeExtension) (types : Keyed TypeDefinition.name) :
    (es.foldl (fun types e => types.map (·.extend e) (TypeDefinition.name_extend e)) types).keys =
      types.keys := by
  induction es generalizing types with
  | nil => rfl
  | cons e es ih => rw [List.foldl_cons, ih, Keyed.keys_map]

theorem find?_foldl_extend (es : List TypeExtension) (types : Keyed TypeDefinition.name)
    (name : String) :
    (es.foldl (fun types e => types.map (·.extend e) (TypeDefinition.name_extend e)) types).find?
      name = (types.find? name).map fun t => es.foldl (fun t e => t.extend e) t := by
  induction es generalizing types with
  | nil => simp
  | cons e es ih =>
    rw [List.foldl_cons, ih, Keyed.find?_map, Option.map_map]
    rfl

/-- Each declared name once, in the order of the first declarations. -/
theorem keys_ofDefinitions (ds : List TypeSystemDefinition) :
    (ofDefinitions ds).types.keys = ((declaredTypes ds).map TypeDefinition.name).eraseDups := by
  rw [ofDefinitions_eq, keys_foldl_extend, Keyed.keys_ofList]

/-- Under a name stands its last declaration, with the fields of all its extensions. -/
theorem find?_ofDefinitions (ds : List TypeSystemDefinition) (name : String) :
    (ofDefinitions ds).find? name = (lastDeclaration? ds name).map (extended ds) := by
  rw [find?, ofDefinitions_eq, find?_foldl_extend, Keyed.find?_ofList, lastDeclaration?]
  congr 1
  funext t
  exact foldl_extend (typeExtensions ds) t

/-! ## The root types -/

theorem foldl_roots (schemas : List SchemaDefinition) (roots : OperationKind → String)
    (kind : OperationKind) :
    schemas.foldl (fun roots s kind => (s.root? kind).getD (roots kind)) roots kind =
      (schemas.filterMap (·.root? kind)).getLast?.getD (roots kind) := by
  induction schemas generalizing roots with
  | nil => rfl
  | cons s schemas ih =>
    rw [List.foldl_cons, ih, List.filterMap_cons]
    cases s.root? kind with
    | none => rfl
    | some root => rw [List.getLast?_cons, Option.getD_some, Option.getD_some]

theorem rootTypeName_ofDefinitions (ds : List TypeSystemDefinition) (kind : OperationKind) :
    (ofDefinitions ds).rootTypeName kind =
      ((schemaDefinitions ds).filterMap (·.root? kind)).getLast?.getD kind.capitalized := by
  rw [ofDefinitions_eq]
  exact foldl_roots (schemaDefinitions ds) OperationKind.capitalized kind

/-! ## When two lists of definitions make the same schema -/

theorem ofDefinitions_congr {ds ds' : List TypeSystemDefinition}
    (htypes : declaredTypes ds = declaredTypes ds')
    (hextended : ∀ name t, lastDeclaration? ds name = some t → extended ds t = extended ds' t)
    (hschemas : schemaDefinitions ds = schemaDefinitions ds') :
    ofDefinitions ds = ofDefinitions ds' := by
  have hkeys : (ofDefinitions ds).types.keys = (ofDefinitions ds').types.keys := by
    rw [keys_ofDefinitions, keys_ofDefinitions, htypes]
  have hfind : ∀ name, (ofDefinitions ds).types.find? name = (ofDefinitions ds').types.find? name :=
    fun name => by
      have hlast : lastDeclaration? ds' name = lastDeclaration? ds name := by
        rw [lastDeclaration?, lastDeclaration?, htypes]
      have hleft := find?_ofDefinitions ds name
      have hright := find?_ofDefinitions ds' name
      rw [hlast] at hright
      cases h : lastDeclaration? ds name with
      | none =>
        rw [h] at hleft hright
        exact hleft.trans hright.symm
      | some t =>
        rw [h, Option.map_some] at hleft hright
        rw [← hextended name t h] at hright
        exact hleft.trans hright.symm
  have hroots : (ofDefinitions ds).rootTypeName = (ofDefinitions ds').rootTypeName := by
    funext kind
    rw [rootTypeName_ofDefinitions, rootTypeName_ofDefinitions, hschemas]
  calc ofDefinitions ds
      = ⟨(ofDefinitions ds).types, (ofDefinitions ds).rootTypeName⟩ := rfl
    _ = ⟨(ofDefinitions ds').types, (ofDefinitions ds').rootTypeName⟩ := by
        rw [Keyed.ext_find? hkeys hfind, hroots]

/-- The extension brings fields for the type of its name: both are objects, or both are inputs. -/
def Fits (ds : List TypeSystemDefinition) (e : TypeExtension) : Prop :=
  ∃ t, lastDeclaration? ds e.name = some t ∧ t.body.category = e.body.category ∧
    (e.body.category = .object ∨ e.body.category = .input)

theorem name_of_lastDeclaration? {ds : List TypeSystemDefinition} {name : String}
    {t : TypeDefinition} (h : lastDeclaration? ds name = some t) : t.name = name := by
  have hmem := List.mem_of_getLast? h
  simpa using (List.mem_filter.1 hmem).2

/-- An extension of an unknown name, of another kind than the type of its name, or of a kind that
has no fields to add can be left out. -/
theorem ofDefinitions_without_extension {before after : List TypeSystemDefinition}
    {e : TypeExtension} (h : ¬ Fits (before ++ .extension e :: after) e) :
    ofDefinitions (before ++ .extension e :: after) = ofDefinitions (before ++ after) := by
  refine ofDefinitions_congr (by simp [declaredTypes]) ?_ (by simp [schemaDefinitions])
  intro name t ht
  have hwith : typeExtensions (before ++ .extension e :: after) =
      typeExtensions before ++ e :: typeExtensions after := by
    simp [typeExtensions]
  have hwithout : typeExtensions (before ++ after) =
      typeExtensions before ++ typeExtensions after := by
    simp [typeExtensions]
  unfold extended extensionsOf
  rw [hwith, hwithout]
  by_cases hname : e.name = t.name
  · have hlast : lastDeclaration? (before ++ .extension e :: after) e.name = some t := by
      rw [hname, name_of_lastDeclaration? ht, ht]
    -- The extension is of the right name, so it is of the wrong kind.
    congr 1
    refine TypeBody.addFields_congr (fun hobject => ?_) fun hinput => ?_
    · have hnone : e.body.objectFields = [] :=
        TypeBody.objectFields_eq_nil fun he => h ⟨t, hlast, hobject.trans he.symm, .inl he⟩
      simp [hname, hnone]
    · have hnone : e.body.inputFields = [] :=
        TypeBody.inputFields_eq_nil fun he => h ⟨t, hlast, hinput.trans he.symm, .inr he⟩
      simp [hname, hnone]
  · simp [hname]

/-- The same types in the same order, for every name the same extensions with fields in the same
order, and the same root types in the same order. -/
structure SameDefinitions (ds ds' : List TypeSystemDefinition) : Prop where
  types : declaredTypes ds = declaredTypes ds'
  objectExtensions : ∀ name,
    (extensionsOf ds name).filter (·.body.category = .object) =
      (extensionsOf ds' name).filter (·.body.category = .object)
  inputExtensions : ∀ name,
    (extensionsOf ds name).filter (·.body.category = .input) =
      (extensionsOf ds' name).filter (·.body.category = .input)
  schemas : schemaDefinitions ds = schemaDefinitions ds'

theorem flatMap_filter_of_nil {α β : Type} {p : α → Bool} {f : α → List β}
    (h : ∀ a, ¬ p a = true → f a = []) (l : List α) : (l.filter p).flatMap f = l.flatMap f := by
  induction l with
  | nil => rfl
  | cons a l ih =>
    by_cases ha : p a = true
    · rw [List.filter_cons_of_pos ha, List.flatMap_cons, List.flatMap_cons, ih]
    · rw [List.filter_cons_of_neg ha, List.flatMap_cons, h a ha, ih, List.nil_append]

theorem SameDefinitions.ofDefinitions_eq {ds ds' : List TypeSystemDefinition}
    (h : SameDefinitions ds ds') : ofDefinitions ds = ofDefinitions ds' := by
  refine ofDefinitions_congr h.types (fun name t _ => ?_) h.schemas
  have hobject : ∀ e : TypeExtension, ¬ decide (e.body.category = .object) = true →
      e.body.objectFields = [] :=
    fun e he => TypeBody.objectFields_eq_nil (by simpa using he)
  have hinput : ∀ e : TypeExtension, ¬ decide (e.body.category = .input) = true →
      e.body.inputFields = [] :=
    fun e he => TypeBody.inputFields_eq_nil (by simpa using he)
  unfold extended
  rw [← flatMap_filter_of_nil hobject, ← flatMap_filter_of_nil hinput, h.objectExtensions,
    h.inputExtensions, flatMap_filter_of_nil hobject, flatMap_filter_of_nil hinput]

end Schema

/-! ## The laws of the index -/

open Schema in
/-- What holds of the schema of any documents. -/
structure IndexLaws (docs : List (List TypeSystemDefinition)) : Prop where
  /-- Each declared name once, in the order of the first declarations. -/
  names : (ofDocuments docs).types.items.map TypeDefinition.name =
    ((declaredTypes docs.flatten).map TypeDefinition.name).eraseDups
  own_name : ∀ t ∈ (ofDocuments docs).types.items, (ofDocuments docs).find? t.name = some t
  /-- The last declaration counts; an object has the fields of all object extensions of its name
  behind its own, and an input those of all input extensions. -/
  entry : ∀ name, (ofDocuments docs).find? name =
    (lastDeclaration? docs.flatten name).map fun t =>
      { t with
        body := t.body.addFields ((extensionsOf docs.flatten name).flatMap (·.body.objectFields))
          ((extensionsOf docs.flatten name).flatMap (·.body.inputFields)) }
  /-- No other extension matters. -/
  ignored : ∀ before e after, docs.flatten = before ++ .extension e :: after →
    ¬ Fits docs.flatten e → ofDocuments docs = ofDocuments [before ++ after]
  /-- The last definition that names a root type counts. -/
  roots : ∀ kind, (ofDocuments docs).rootTypeName kind =
    ((schemaDefinitions docs.flatten).filterMap (·.root? kind)).getLast?.getD kind.capitalized
  /-- Interleaving and division into documents make no difference to a module. -/
  interleaved : ∀ docs', SameDefinitions docs.flatten docs'.flatten → ∀ documents settings,
    Project.generate ⟨ofDocuments docs, documents, settings⟩ =
      Project.generate ⟨ofDocuments docs', documents, settings⟩

theorem schema_index_laws (docs : List (List TypeSystemDefinition)) : IndexLaws docs where
  names := Schema.keys_ofDefinitions docs.flatten
  own_name t ht := (Schema.ofDocuments docs).types.find?_key ht
  entry name := by
    rw [Schema.ofDocuments, Schema.find?_ofDefinitions]
    refine Option.map_congr fun t ht => ?_
    rw [Schema.extended, Schema.name_of_lastDeclaration? ht]
  ignored before e after hsplit hfits := by
    rw [Schema.ofDocuments, Schema.ofDocuments, List.flatten_singleton, hsplit]
    rw [hsplit] at hfits
    exact Schema.ofDefinitions_without_extension hfits
  roots kind := Schema.rootTypeName_ofDefinitions docs.flatten kind
  interleaved docs' h documents settings := by
    rw [Schema.ofDocuments, Schema.ofDocuments, h.ofDefinitions_eq]

def teamDeclaration : TypeSystemDefinition :=
  .type ⟨none, "Team", [], .object [] [⟨none, "id", [], .named "ID", []⟩]⟩

def teamExtension : TypeSystemDefinition :=
  .extension ⟨"Team", [], .object [] [⟨none, "size", [], .named "Int", []⟩]⟩

def filterDeclaration : TypeSystemDefinition :=
  .type ⟨none, "Filter", [], .input [⟨none, "name", .named "String", none, []⟩]⟩

def filterExtension : TypeSystemDefinition :=
  .extension ⟨"Filter", [], .input [⟨none, "size", .named "Int", none, []⟩]⟩

/-- Extensions in a document of their own, before the declarations. -/
def teamsApart : List (List TypeSystemDefinition) :=
  [[teamExtension, filterExtension], [teamDeclaration, filterDeclaration]]

/-- Extensions among the declarations, in another order. -/
def teamsTogether : List (List TypeSystemDefinition) :=
  [[teamDeclaration, filterExtension, filterDeclaration, teamExtension]]

theorem schema_index_laws_of_teams :
    Schema.SameDefinitions teamsApart.flatten teamsTogether.flatten ∧
    ((Schema.ofDocuments teamsApart).find? "Team").map (·.body.objectFields.map (·.name)) =
      some ["id", "size"] ∧
    ∀ documents settings,
      Project.generate ⟨.ofDocuments teamsApart, documents, settings⟩ =
        Project.generate ⟨.ofDocuments teamsTogether, documents, settings⟩ := by
  have hsame : Schema.SameDefinitions teamsApart.flatten teamsTogether.flatten := by
    have hcomm (ds : List TypeSystemDefinition) (name : String) (c : TypeCategory) :
        (Schema.extensionsOf ds name).filter (·.body.category = c) =
          ((Schema.typeExtensions ds).filter (·.body.category = c)).filter (·.name == name) :=
      List.filter_comm _ _ _
    refine ⟨rfl, fun name => ?_, fun name => ?_, rfl⟩
    · rw [hcomm, hcomm]
      rfl
    · rw [hcomm, hcomm]
      rfl
  refine ⟨hsame, ?_, (schema_index_laws teamsApart).interleaved teamsTogether hsame⟩
  rw [(schema_index_laws teamsApart).entry]
  rfl

end TypedClient
