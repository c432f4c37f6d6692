import TypedClient.Proofs.Generation
import TypedClient.Proofs.TypeRefs

/-!
# When no module comes out

Everything that a run checks, in the order in which it is checked: the schema texts, the document
texts, the settings, the fields of the input types, and the operations. `Fault` says what can be
wrong with each of these, without reference to how a module is made. The main statement is that a
run gives the error of the first item with a fault, and a module if there is none.
-/

namespace TypedClient

/-! ## The items of a run -/

inductive CheckedItem where
  | schemaText (text : String)
  | documentText (text : String)
  | settings (s : Settings)
  | inputField (s : Schema) (input : String) (field : InputValue)
  | operation (s : Schema) (op : Operation)

/-- The definitions in a schema text; a text that cannot be read has none. -/
def TypeSystemDefinition.ofText (text : String) : List TypeSystemDefinition :=
  match parse text with
  | .ok ds => ds
  | .error _ => []

/-- The definitions in a document text; a text that cannot be read has none. -/
def Definition.ofText (text : String) : List Definition :=
  match parse text with
  | .ok ds => ds
  | .error _ => []

def Schema.ofTexts (texts : List String) : Schema :=
  ofDocuments (texts.map TypeSystemDefinition.ofText)

def DocumentSet.ofTexts (texts : List String) : DocumentSet :=
  { definitions := (texts.map Definition.ofText).flatten }

/-- Input types in order, and for each of them its fields in order, those of extensions
included. -/
def Schema.inputFieldItems (s : Schema) : List CheckedItem :=
  s.inputObjects.flatMap fun (input, fields) => fields.map (.inputField s input)

def checkedItems (schemaTexts documentTexts : List String) (settings : Settings) :
    List CheckedItem :=
  let s := Schema.ofTexts schemaTexts
  schemaTexts.map .schemaText ++
    (documentTexts.map .documentText ++
      ([.settings settings] ++
        (s.inputFieldItems ++ (DocumentSet.ofTexts documentTexts).operations.map (.operation s))))

/-! ## Their faults -/

/-- The operation is a named query or mutation that selects one field and nothing else, and the
field is not one of the introspection. Only such an operation is looked up in the schema. -/
structure SelectsField (op : Operation) (head : FieldHead) : Prop where
  named : ∃ name, op.name? = some name
  request : op.kind = .query ∨ op.kind = .mutation
  single : ∃ below, op.selections = [.field head below]
  ordinary : ¬ ['_', '_'] <+: head.name.toList

/-- The fields of the root type that serves a kind of operation. -/
def Schema.RootFields (s : Schema) (kind : OperationKind) (fields : List FieldDefinition) : Prop :=
  ∃ t interfaces, s.find? (s.rootTypeName kind) = some t ∧ t.body = .object interfaces fields

inductive Fault : CheckedItem → Error → Prop where
  | schemaText {text e} (h : TypeSystemDefinition.parse text = .error e) :
      Fault (.schemaText text) (.schemaParse e)
  | documentText {text e} (h : Definition.parse text = .error e) :
      Fault (.documentText text) (.documentParse e)
  | settings {s : Settings} {e} (h : s.validate = .error e) :
      Fault (.settings s) (.config (.invalid e))
  | inputField {s : Schema} {input} {field : InputValue}
      (h : ∀ c, s.category? field.type.innermost = some c → c ≠ .scalar ∧ c ≠ .enum ∧ c ≠ .input) :
      Fault (.inputField s input field)
        (.unresolvableInputFieldType input field.name field.type.innermost)
  | anonymous {s op} (h : op.name? = none) :
      Fault (.operation s op) (.anonymousOperation op.kind)
  | missingRootType {s : Schema} {op head} (selects : SelectsField op head)
      (h : ∀ fields, ¬ s.RootFields op.kind fields) :
      Fault (.operation s op) (.missingRootType op.kind (s.rootTypeName op.kind))
  | unknownRootField {s : Schema} {op head fields} (selects : SelectsField op head)
      (root : s.RootFields op.kind fields) (h : ∀ f ∈ fields, f.name ≠ head.name) :
      Fault (.operation s op) (.unknownRootField (s.rootTypeName op.kind) head.name)
  | unknownTypeKind {s : Schema} {op head fields f} (selects : SelectsField op head)
      (root : s.RootFields op.kind fields) (found : fields.find? (·.name == head.name) = some f)
      (h : s.category? f.type.innermost = none) :
      Fault (.operation s op) (.unknownTypeKind f.type.innermost)

/-! ## Texts -/

theorem schemaText_error_iff (text : String) (e : Error) :
    (TypeSystemDefinition.parse text).mapError .schemaParse = .error e ↔
      Fault (.schemaText text) e := by
  rw [mapError_eq_error_iff]
  constructor
  · rintro ⟨e', h, rfl⟩
    exact .schemaText h
  · intro h
    cases h with
    | schemaText h => exact ⟨_, h, rfl⟩

theorem documentText_error_iff (text : String) (e : Error) :
    (Definition.parse text).mapError .documentParse = .error e ↔
      Fault (.documentText text) e := by
  rw [mapError_eq_error_iff]
  constructor
  · rintro ⟨e', h, rfl⟩
    exact .documentText h
  · intro h
    cases h with
    | documentText h => exact ⟨_, h, rfl⟩

theorem TypeSystemDefinition.ofText_eq {text : String} {ds : List TypeSystemDefinition}
    (h : (parse text).mapError Error.schemaParse = .ok ds) : ofText text = ds := by
  rw [mapError_eq_ok_iff] at h
  rw [ofText, h]

theorem Definition.ofText_eq {text : String} {ds : List Definition}
    (h : (parse text).mapError Error.documentParse = .ok ds) : ofText text = ds := by
  rw [mapError_eq_ok_iff] at h
  rw [ofText, h]

theorem Schema.parse_error_iff (texts : List String) (e : Error) :
    Schema.parse texts = .error e ↔ FirstFault Fault (texts.map .schemaText) e := by
  unfold Schema.parse
  rw [bind_pure_eq_error_iff, mapM_eq_error_iff schemaText_error_iff, FirstFault.map_iff]

theorem Schema.eq_ofTexts_of_parse {texts : List String} {s : Schema}
    (h : Schema.parse texts = .ok s) : s = ofTexts texts := by
  obtain ⟨docs, hdocs, h⟩ := bind_eq_ok_iff.1 h
  cases h
  rw [ofTexts, map_eq_of_forall₂ (mapM_eq_ok_iff.1 hdocs) fun _ _ => TypeSystemDefinition.ofText_eq]

theorem DocumentSet.parse_error_iff (texts : List String) (e : Error) :
    DocumentSet.parse texts = .error e ↔ FirstFault Fault (texts.map .documentText) e := by
  unfold DocumentSet.parse
  rw [bind_pure_eq_error_iff, mapM_eq_error_iff documentText_error_iff, FirstFault.map_iff]

theorem DocumentSet.eq_ofTexts_of_parse {texts : List String} {d : DocumentSet}
    (h : DocumentSet.parse texts = .ok d) : d = ofTexts texts := by
  obtain ⟨docs, hdocs, h⟩ := bind_eq_ok_iff.1 h
  cases h
  rw [ofTexts, map_eq_of_forall₂ (mapM_eq_ok_iff.1 hdocs) fun _ _ => Definition.ofText_eq]

/-! ## Settings and input fields -/

theorem validate_error_iff (s : Settings) (e : Error) :
    (s.validate.mapError fun e => Error.config (.invalid e)) = .error e ↔
      FirstFault Fault [.settings s] e := by
  rw [mapError_eq_error_iff, FirstFault.cons_iff]
  constructor
  · rintro ⟨e', h, rfl⟩
    exact .inl (.settings h)
  · rintro (h | ⟨-, h⟩)
    · cases h with
      | settings h => exact ⟨_, h, rfl⟩
    · exact absurd h FirstFault.not_nil

theorem isInput_iff {c : TypeCategory} :
    c.isInput = true ↔ c = .scalar ∨ c = .enum ∨ c = .input := by
  cases c <;> simp [TypeCategory.isInput]

theorem inputField_error_iff (s : Schema) (input : String) (field : InputValue) (e : Error) :
    InputFieldShape.ofField s input field = .error e ↔ Fault (.inputField s input field) e := by
  rw [InputFieldShape.ofField_eq]
  by_cases h : (s.category? field.type.innermost).any TypeCategory.isInput = true
  · simp only [if_pos h]
    refine ⟨nofun, fun hfault => ?_⟩
    cases hfault with
    | inputField hno =>
      obtain ⟨c, hc, hinput⟩ := (Option.any_eq_true _ _).1 h
      obtain ⟨hscalar, henum, hin⟩ := hno c hc
      rcases isInput_iff.1 hinput with rfl | rfl | rfl
      · exact absurd rfl hscalar
      · exact absurd rfl henum
      · exact absurd rfl hin
  · simp only [if_neg h]
    constructor
    · intro he
      cases he
      refine .inputField fun c hc => ?_
      have hno : ¬ (c = .scalar ∨ c = .enum ∨ c = .input) := by
        rw [← isInput_iff]
        exact fun hinput => h ((Option.any_eq_true _ _).2 ⟨c, hc, hinput⟩)
      simpa only [not_or] using hno
    · intro hfault
      cases hfault with
      | inputField _ => rfl

theorem inputShape_error_iff (s : Schema) (input : String) (fields : List InputValue) (e : Error) :
    InputShape.ofFields s input fields = .error e ↔
      FirstFault Fault (fields.map (.inputField s input)) e := by
  unfold InputShape.ofFields
  rw [bind_pure_eq_error_iff, mapM_eq_error_iff (inputField_error_iff s input), FirstFault.map_iff]

theorem inputShapes_error_iff (s : Schema) (e : Error) :
    InputShapeMap.ofSchema s = .error e ↔ FirstFault Fault s.inputFieldItems e := by
  unfold InputShapeMap.ofSchema Schema.inputFieldItems
  rw [FirstFault.flatMap_iff, bind_pure_eq_error_iff]
  have hobject : ∀ (object : String × List InputValue) (e : Error),
      (do return (object.1, ← InputShape.ofFields s object.1 object.2)) = .error e ↔
        FirstFault Fault (object.2.map (.inputField s object.1)) e := by
    intro object e
    rw [bind_pure_eq_error_iff, inputShape_error_iff]
  rw [mapM_eq_error_iff hobject]

/-! ## Operations -/

theorem singleField?_eq_some_iff {kind : OperationKind} {selections : List Selection}
    {head : FieldHead} :
    singleField? kind selections = some head ↔
      (kind = .query ∨ kind = .mutation) ∧ (∃ below, selections = [.field head below]) ∧
        ¬ ['_', '_'] <+: head.name.toList := by
  have hkind : kind = .query ∨ kind = .mutation ↔ kind ≠ .subscription := by cases kind <;> simp
  unfold singleField?
  split
  · rename_i head' below
    rw [hkind]
    split
    · rename_i h
      rw [List.isPrefixOf_iff_prefix] at h
      constructor
      · nofun
      · rintro ⟨hne, ⟨below', hbelow⟩, hname⟩
        cases hbelow
        exact absurd h (not_or.2 ⟨hne, hname⟩)
    · rename_i h
      rw [List.isPrefixOf_iff_prefix] at h
      obtain ⟨hne, hname⟩ := not_or.1 h
      constructor
      · intro heq
        cases heq
        exact ⟨hne, ⟨below, rfl⟩, hname⟩
      · rintro ⟨-, ⟨below', hbelow⟩, -⟩
        cases hbelow
        rfl
  · rename_i hshape
    constructor
    · nofun
    · rintro ⟨-, ⟨below, rfl⟩, -⟩
      exact absurd rfl (hshape head below)

theorem selectsField_iff {op : Operation} {head : FieldHead} :
    SelectsField op head ↔
      (∃ name, op.name? = some name) ∧ singleField? op.kind op.selections = some head := by
  rw [singleField?_eq_some_iff]
  constructor
  · rintro ⟨named, request, single, ordinary⟩
    exact ⟨named, request, single, ordinary⟩
  · rintro ⟨named, request, single, ordinary⟩
    exact ⟨named, request, single, ordinary⟩

theorem Schema.RootFields.eq {s : Schema} {kind : OperationKind}
    {fields fields' : List FieldDefinition} (h : s.RootFields kind fields)
    (h' : s.RootFields kind fields') : fields = fields' := by
  obtain ⟨t, interfaces, ht, hbody⟩ := h
  obtain ⟨t', interfaces', ht', hbody'⟩ := h'
  rw [ht] at ht'
  cases ht'
  rw [hbody] at hbody'
  cases hbody'
  rfl

theorem Schema.RootFields.rootField_eq {s : Schema} {kind : OperationKind}
    {fields : List FieldDefinition} (h : s.RootFields kind fields) (name : String) :
    s.rootField kind name =
      match fields.find? (·.name == name) with
      | some f => .ok f
      | none => .error (.unknownRootField (s.rootTypeName kind) name) := by
  obtain ⟨t, interfaces, ht, hbody⟩ := h
  cases hfind : fields.find? (·.name == name) with
  | none => simp only [Schema.rootField, ht, Option.map_some, hbody, hfind]
  | some f => simp only [Schema.rootField, ht, Option.map_some, hbody, hfind]

theorem Schema.rootField_of_no_rootFields {s : Schema} {kind : OperationKind}
    (h : ∀ fields, ¬ s.RootFields kind fields) (name : String) :
    s.rootField kind name = .error (.missingRootType kind (s.rootTypeName kind)) := by
  unfold Schema.rootField
  dsimp only
  split
  · rename_i interfaces fields hbody
    obtain ⟨t, ht, hbody⟩ := Option.map_eq_some_iff.1 hbody
    exact absurd ⟨t, interfaces, ht, hbody⟩ (h fields)
  · rfl

theorem FlatType.ofType_error_iff {s : Schema} {t : TypeRef} {e : Error} :
    FlatType.ofType s t = .error e ↔
      s.category? t.innermost = none ∧ e = .unknownTypeKind t.innermost := by
  rw [FlatType.ofType_eq]
  cases s.category? t.innermost with
  | none => simp [eq_comm]
  | some c => simp

theorem SelectsField.eq {op : Operation} {head head' : FieldHead} (h : SelectsField op head)
    (h' : SelectsField op head') : head = head' := by
  obtain ⟨below, hbelow⟩ := h.single
  obtain ⟨below', hbelow'⟩ := h'.single
  rw [hbelow] at hbelow'
  cases hbelow'
  rfl

/-- What can go wrong with an operation that is looked up in the schema, from the outside in. -/
theorem rootFieldType_error_iff (p : Project) {op : Operation} {head : FieldHead}
    (selects : SelectsField op head) (e : Error) :
    p.rootFieldType op.kind head.name = .error e ↔ Fault (.operation p.schema op) e := by
  unfold Project.rootFieldType
  rw [bind_eq_error_iff]
  constructor
  · intro h
    -- The root type comes first: without its fields, no field can be unknown.
    by_cases hroot : ∃ fields, p.schema.RootFields op.kind fields
    · obtain ⟨fields, root⟩ := hroot
      rw [root.rootField_eq] at h
      cases hfind : fields.find? (·.name == head.name) with
      | none =>
        rw [hfind] at h
        rcases h with h | ⟨f, h, -⟩
        · cases h
          refine .unknownRootField selects root fun f hf => ?_
          simpa using List.find?_eq_none.1 hfind f hf
        · cases h
      | some f =>
        rw [hfind] at h
        rcases h with h | ⟨f', h, htype⟩
        · cases h
        · cases h
          obtain ⟨hcategory, rfl⟩ := FlatType.ofType_error_iff.1 htype
          exact .unknownTypeKind selects root hfind hcategory
    · have hnone : ∀ fields, ¬ p.schema.RootFields op.kind fields :=
        fun fields hfields => hroot ⟨fields, hfields⟩
      rw [Schema.rootField_of_no_rootFields hnone] at h
      rcases h with h | ⟨f, h, -⟩
      · cases h
        exact .missingRootType selects hnone
      · cases h
  · intro h
    cases h with
    | anonymous h =>
      obtain ⟨name, hname⟩ := selects.named
      rw [h] at hname
      cases hname
    | missingRootType _ h => exact .inl (Schema.rootField_of_no_rootFields h _)
    | @unknownRootField _ _ _ fields selects' root h =>
      cases selects.eq selects'
      have hfind : fields.find? (·.name == head.name) = none :=
        List.find?_eq_none.2 fun f hf => by simpa using h f hf
      exact .inl (by rw [root.rootField_eq, hfind])
    | unknownTypeKind selects' root found h =>
      cases selects.eq selects'
      refine .inr ⟨_, by rw [root.rootField_eq, found], ?_⟩
      exact FlatType.ofType_error_iff.2 ⟨h, rfl⟩

/-- A fault of a named operation lies in the one field that it selects. -/
theorem SelectsField.of_fault {s : Schema} {op : Operation} {name : String} {e : Error}
    (hname : op.name? = some name) (h : Fault (.operation s op) e) :
    ∃ head, SelectsField op head := by
  cases h with
  | anonymous h =>
    rw [h] at hname
    cases hname
  | missingRootType selects _ => exact ⟨_, selects⟩
  | unknownRootField selects _ _ => exact ⟨_, selects⟩
  | unknownTypeKind selects _ _ _ => exact ⟨_, selects⟩

theorem function_error_iff (p : Project) (op : Operation) (e : Error) :
    p.functionOf op = .error e ↔ Fault (.operation p.schema op) e := by
  unfold Project.functionOf
  cases hname : op.name? with
  | none =>
    constructor
    · intro h
      cases h
      exact .anonymous hname
    · intro h
      cases h with
      | anonymous _ => rfl
      | missingRootType selects _ | unknownRootField selects _ _ | unknownTypeKind selects _ _ _ =>
        obtain ⟨name, hsome⟩ := selects.named
        rw [hname] at hsome
        cases hsome
  | some name =>
    dsimp only
    rw [map_eq_error_iff]
    unfold Project.resultOf
    cases hfield : singleField? op.kind op.selections with
    | none =>
      refine ⟨nofun, fun h => ?_⟩
      obtain ⟨head, selects⟩ := SelectsField.of_fault hname h
      rw [(selectsField_iff.1 selects).2] at hfield
      cases hfield
    | some head =>
      dsimp only
      rw [map_eq_error_iff]
      exact rootFieldType_error_iff p (selectsField_iff.2 ⟨⟨name, hname⟩, hfield⟩) e

theorem entries_error_iff (p : Project) (e : Error) :
    p.documents.definitions.mapM p.entryOf = .error e ↔
      FirstFault Fault (p.documents.operations.map (.operation p.schema)) e := by
  unfold DocumentSet.operations
  rw [FirstFault.map_iff, FirstFault.filterMap_iff]
  refine mapM_eq_error_iff fun definition e => ?_
  cases definition with
  | operation op =>
    show (p.functionOf op).map ModuleEntry.function = .error e ↔ _
    rw [map_eq_error_iff, function_error_iff]
    simp [Definition.operation?]
  | fragment f => simp [Project.entryOf, Definition.operation?]

/-! ## The whole run -/

theorem generate_error_iff (p : Project) (e : Error) :
    p.generate = .error e ↔
      FirstFault Fault ([.settings p.settings] ++
        (p.schema.inputFieldItems ++ p.documents.operations.map (.operation p.schema))) e := by
  rw [Project.generate_eq]
  refine FirstFault.of_bind (validate_error_iff p.settings) (fun _ _ => ?_) e
  refine FirstFault.of_bind (inputShapes_error_iff p.schema) fun shapes _ e => ?_
  rw [bind_pure_eq_error_iff, entries_error_iff]

theorem ofTexts_error_iff (schemaTexts documentTexts : List String) (settings : Settings)
    (e : Error) :
    ClientModule.ofTexts schemaTexts documentTexts settings = .error e ↔
      FirstFault Fault (checkedItems schemaTexts documentTexts settings) e := by
  unfold ClientModule.ofTexts checkedItems
  refine FirstFault.of_bind (Schema.parse_error_iff schemaTexts) (fun s hs => ?_) e
  refine FirstFault.of_bind (DocumentSet.parse_error_iff documentTexts) fun d hd e => ?_
  rw [generate_error_iff, Schema.eq_ofTexts_of_parse hs, DocumentSet.eq_ofTexts_of_parse hd]

/-- A run gives the error of the first item with a fault, and a module exactly if no item has
one. -/
theorem ofTexts_gives_first_fault (schemaTexts documentTexts : List String)
    (settings : Settings) :
    (∀ e, ClientModule.ofTexts schemaTexts documentTexts settings = .error e ↔
        FirstFault Fault (checkedItems schemaTexts documentTexts settings) e) ∧
      ((∃ m, ClientModule.ofTexts schemaTexts documentTexts settings = .ok m) ↔
        ∀ item ∈ checkedItems schemaTexts documentTexts settings, ∀ e, ¬ Fault item e) := by
  refine ⟨ofTexts_error_iff schemaTexts documentTexts settings, ?_⟩
  rw [← FirstFault.forall_not_iff]
  constructor
  · rintro ⟨m, hm⟩ e he
    rw [(ofTexts_error_iff _ _ _ e).2 he] at hm
    cases hm
  · intro clean
    exact ok_of_no_error fun e he => clean e ((ofTexts_error_iff _ _ _ e).1 he)

end TypedClient
