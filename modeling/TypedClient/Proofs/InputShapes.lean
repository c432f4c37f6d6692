import TypedClient.Proofs.SchemaIndex
import TypedClient.Proofs.SchemaView
import TypedClient.Proofs.Wrappers

/-!
# The map of input shapes

A module carries the shapes of all input types, and the shape of a field leads on by the name of its
type. The map exists when every field of an input has a type that input may have. It then follows
the input types one by one, and every name in it that is not a scalar or an enum is again one of its
keys, so that trimming can go on below a field. When there is no map, the error is about the first
field with a wrong type.
-/

namespace TypedClient

/-! ## Fields -/

/-- The type of the field is a scalar, an enum or an input. -/
def Schema.Accepts (s : Schema) (field : InputValue) : Prop :=
  ∃ c, s.category? field.type.innermost = some c ∧ (c = .scalar ∨ c = .enum ∨ c = .input)

/-- All fields of input types with the names of these types, in order. -/
def Schema.inputFields (s : Schema) : List (String × InputValue) :=
  s.inputObjects.flatMap fun (input, fields) => fields.map (input, ·)

/-- The shape of a field, in terms of what stands in its type. -/
structure InputFieldShape.Describes (shape : InputFieldShape) (field : InputValue) : Prop where
  name : shape.name = field.name
  typeName : (TypeRef.named shape.typeName).Within field.type
  isList : shape.isList = true ↔ ∃ item, (TypeRef.list item).Within field.type
  isNonNull : shape.isNonNull = true ↔ ∃ inner, (TypeRef.nonNull inner).Within field.type

theorem InputValue.describes_shape (field : InputValue) : field.shape.Describes field where
  name := rfl
  typeName := TypeRef.named_within_iff.2 rfl
  isList := TypeRef.hasList_iff
  isNonNull := TypeRef.hasNonNull_iff

namespace Schema

variable {s : Schema}

theorem accepts_iff {field : InputValue} :
    s.Accepts field ↔ (s.category? field.type.innermost).any TypeCategory.isInput = true := by
  unfold Accepts
  simp only [Option.any_eq_true, isInput_iff]

theorem ofField_eq_ok_iff {input : String} {field : InputValue} {shape : InputFieldShape} :
    InputFieldShape.ofField s input field = .ok shape ↔ s.Accepts field ∧ field.shape = shape := by
  rw [accepts_iff]
  rw [InputFieldShape.ofField_eq]
  split
  · rename_i h
    rw [Except.ok.injEq, and_iff_right h]
    rfl
  · rename_i h
    exact ⟨nofun, fun hok => absurd hok.1 h⟩

theorem fault_inputField_iff {input : String} {field : InputValue} {e : Error} :
    Fault (.inputField s input field) e ↔ ¬ s.Accepts field ∧
      e = .unresolvableInputFieldType input field.name field.type.innermost := by
  constructor
  · intro h
    cases h with
    | inputField h =>
      refine ⟨?_, rfl⟩
      rintro ⟨c, hc, hinput⟩
      obtain ⟨hscalar, henum, hin⟩ := h c hc
      rcases hinput with rfl | rfl | rfl
      · exact hscalar rfl
      · exact henum rfl
      · exact hin rfl
  · rintro ⟨h, rfl⟩
    refine .inputField fun c hc => ⟨?_, ?_, ?_⟩
    · rintro rfl
      exact h ⟨_, hc, .inl rfl⟩
    · rintro rfl
      exact h ⟨_, hc, .inr (.inl rfl)⟩
    · rintro rfl
      exact h ⟨_, hc, .inr (.inr rfl)⟩

theorem inputFieldItems_eq :
    s.inputFieldItems = s.inputFields.map fun x => .inputField s x.1 x.2 := by
  unfold inputFieldItems inputFields
  rw [List.map_flatMap]
  congr 1
  funext ⟨input, fields⟩
  rw [List.map_map]
  rfl

/-! ## Input types -/

end Schema

/-- Name and fields of an input type. -/
def TypeDefinition.inputObject? (t : TypeDefinition) : Option (String × List InputValue) :=
  match t.body with
  | .input fields => some (t.name, fields)
  | _ => none

theorem TypeDefinition.inputObject?_eq_some_iff {t : TypeDefinition}
    {object : String × List InputValue} :
    t.inputObject? = some object ↔ t.name = object.1 ∧ t.body = .input object.2 := by
  obtain ⟨name, fields⟩ := object
  unfold inputObject?
  cases t.body <;> simp

namespace Schema

variable {s : Schema}

theorem inputObjects_eq : s.inputObjects = s.types.items.filterMap TypeDefinition.inputObject? :=
  rfl

theorem mem_inputObjects_iff {input : String} {fields : List InputValue} :
    (input, fields) ∈ s.inputObjects ↔ ∃ t, s.find? input = some t ∧ t.body = .input fields := by
  unfold find?
  rw [inputObjects_eq, List.mem_filterMap]
  constructor
  · rintro ⟨t, ht, hobject⟩
    obtain ⟨hname, hbody⟩ := TypeDefinition.inputObject?_eq_some_iff.1 hobject
    exact ⟨t, Keyed.find?_eq_some_iff.2 ⟨ht, hname⟩, hbody⟩
  · rintro ⟨t, ht, hbody⟩
    obtain ⟨hmem, hname⟩ := Keyed.find?_eq_some_iff.1 ht
    exact ⟨t, hmem, TypeDefinition.inputObject?_eq_some_iff.2 ⟨hname, hbody⟩⟩

/-- The input types are some of the declared types, so no two of them have one name. -/
theorem nodup_inputObjects : (s.inputObjects.map Prod.fst).Nodup := by
  refine List.Nodup.sublist ?_ s.types.nodup
  rw [inputObjects_eq]
  induction s.types.items with
  | nil => exact .slnil
  | cons t types ih =>
    cases hobject : t.inputObject? with
    | none =>
      rw [List.filterMap_cons_none hobject]
      exact ih.cons t.name
    | some object =>
      rw [List.filterMap_cons_some hobject, List.map_cons, List.map_cons,
        (TypeDefinition.inputObject?_eq_some_iff.1 hobject).1]
      exact ih.cons_cons object.1

theorem category?_eq_input_iff {name : String} :
    s.category? name = some .input ↔ name ∈ s.inputObjects.map Prod.fst := by
  have hbody (t : TypeDefinition) :
      t.body.category = .input ↔ ∃ fields, t.body = .input fields := by
    cases t.body <;> simp [TypeBody.category]
  simp only [List.mem_map, Prod.exists, exists_and_right, exists_eq_right, mem_inputObjects_iff]
  unfold category?
  cases s.find? name with
  | none => simp
  | some t => simp [hbody]

/-! ## The map -/

/-- An entry of the map belongs to an input type. -/
structure ShapedAs (object : String × List InputValue) (entry : String × InputShape) : Prop where
  key : entry.1 = object.1
  name : entry.2.name = entry.1
  fields : List.Forall₂ (fun field shape => shape.Describes field) object.2 entry.2.fields

theorem keys_of_shaped {objects : List (String × List InputValue)}
    {entries : List (String × InputShape)} (h : List.Forall₂ ShapedAs objects entries) :
    objects.map Prod.fst = entries.map Prod.fst :=
  map_eq_of_forall₂ (List.forall₂_map_right_iff.2 (h.imp fun _ _ h => h.key.symm)) fun _ _ h => h

/-- The map of a schema follows its input types, whose fields are all accepted. -/
theorem shaped_of_ofSchema {m : InputShapeMap} (h : InputShapeMap.ofSchema s = .ok m) :
    List.Forall₂ (fun object entry => ShapedAs object entry ∧ ∀ field ∈ object.2, s.Accepts field)
      s.inputObjects m.items := by
  obtain ⟨entries, hentries, hm⟩ := bind_eq_ok_iff.1 h
  obtain rfl := Except.ok.inj hm
  have hshaped : List.Forall₂
      (fun object entry => ShapedAs object entry ∧ ∀ field ∈ object.2, s.Accepts field)
      s.inputObjects entries := by
    refine (mapM_eq_ok_iff.1 hentries).imp ?_
    rintro ⟨input, fields⟩ entry hentry
    obtain ⟨shape, hshape, hentry⟩ := bind_eq_ok_iff.1 hentry
    obtain ⟨shapes, hshapes, hshape⟩ := bind_eq_ok_iff.1 hshape
    obtain rfl := Except.ok.inj hshape
    obtain rfl := Except.ok.inj hentry
    have hfields := (mapM_eq_ok_iff.1 hshapes).imp fun _ _ => ofField_eq_ok_iff.1
    refine ⟨⟨rfl, rfl, hfields.imp ?_⟩, fun field hfield => ?_⟩
    · rintro field shape ⟨-, rfl⟩
      exact field.describes_shape
    · obtain ⟨shape, -, haccepts, -⟩ := exists_mem_of_forall₂ hfields.flip hfield
      exact haccepts
  have hkeys := keys_of_shaped (hshaped.imp fun _ _ h => h.1)
  rwa [Keyed.items_ofList (hkeys ▸ nodup_inputObjects)]

theorem keys_of_ofSchema {m : InputShapeMap} (h : InputShapeMap.ofSchema s = .ok m) :
    m.keys = s.inputObjects.map Prod.fst :=
  (keys_of_shaped ((shaped_of_ofSchema h).imp fun _ _ h => h.1)).symm

/-- Only input types are keys, and all of them. -/
theorem mem_keys_iff {m : InputShapeMap} (h : InputShapeMap.ofSchema s = .ok m) {name : String} :
    name ∈ m.keys ↔ s.category? name = some .input := by
  rw [keys_of_ofSchema h, category?_eq_input_iff]

theorem ofSchema_error_iff {e : Error} :
    InputShapeMap.ofSchema s = .error e ↔
      FirstFault (fun x e => ¬ s.Accepts x.2 ∧
        e = .unresolvableInputFieldType x.1 x.2.name x.2.type.innermost) s.inputFields e := by
  have hfault : (fun x : String × InputValue => Fault (.inputField s x.1 x.2)) =
      fun x e => ¬ s.Accepts x.2 ∧
        e = .unresolvableInputFieldType x.1 x.2.name x.2.type.innermost := by
    funext x e
    exact propext fault_inputField_iff
  rw [inputShapes_error_iff, inputFieldItems_eq, FirstFault.map_iff, hfault]

theorem mem_inputFields_iff {input : String} {field : InputValue} :
    (input, field) ∈ s.inputFields ↔
      ∃ fields, (input, fields) ∈ s.inputObjects ∧ field ∈ fields := by
  unfold inputFields
  simp only [List.mem_flatMap, List.mem_map, Prod.exists, Prod.mk.injEq]
  constructor
  · rintro ⟨_, fields, hobject, _, hfield, rfl, rfl⟩
    exact ⟨fields, hobject, hfield⟩
  · rintro ⟨fields, hobject, hfield⟩
    exact ⟨input, fields, hobject, field, hfield, rfl, rfl⟩

theorem ofSchema_succeeds_iff :
    (∃ m, InputShapeMap.ofSchema s = .ok m) ↔ ∀ x ∈ s.inputFields, s.Accepts x.2 := by
  constructor
  · rintro ⟨m, hm⟩ ⟨input, field⟩ hfield
    obtain ⟨fields, hobject, hfield⟩ := mem_inputFields_iff.1 hfield
    obtain ⟨entry, -, -, haccepts⟩ := exists_mem_of_forall₂ (shaped_of_ofSchema hm).flip hobject
    exact haccepts field hfield
  · intro h
    refine ok_of_no_error fun e he => ?_
    obtain ⟨before, x, after, hsplit, -, hx, -⟩ := ofSchema_error_iff.1 he
    exact hx (h x (by rw [hsplit]; simp))

end Schema

/-- What holds of the map of input shapes of a schema. -/
structure InputShapeLaws (s : Schema) : Prop where
  succeeds_iff : (∃ m, InputShapeMap.ofSchema s = .ok m) ↔
    ∀ input fields, (input, fields) ∈ s.inputObjects → ∀ field ∈ fields, s.Accepts field
  keys : ∀ m, InputShapeMap.ofSchema s = .ok m →
    m.keys = s.inputObjects.map Prod.fst ∧ m.keys.Nodup
  /-- The entries follow the input types, and their fields the fields of the input types. -/
  shapes : ∀ m, InputShapeMap.ofSchema s = .ok m →
    List.Forall₂ Schema.ShapedAs s.inputObjects m.items
  key_iff : ∀ m, InputShapeMap.ofSchema s = .ok m → ∀ name,
    name ∈ m.keys ↔ s.category? name = some .input
  /-- No reference leads out of the map but to plain values. -/
  closed : ∀ m, InputShapeMap.ofSchema s = .ok m → ∀ entry ∈ m.items, ∀ shape ∈ entry.2.fields,
    s.category? shape.typeName = some .scalar ∨ s.category? shape.typeName = some .enum ∨
      shape.typeName ∈ m.keys
  /-- The first field that is not accepted decides the error. -/
  fails : ∀ e, InputShapeMap.ofSchema s = .error e ↔
    ∃ before input field after, s.inputFields = before ++ (input, field) :: after ∧
      (∀ x ∈ before, s.Accepts x.2) ∧ ¬ s.Accepts field ∧
      e = .unresolvableInputFieldType input field.name field.type.innermost
  /-- The fields of an input type are those of its declaration and then those of its extensions. -/
  extended : ∀ docs, s = .ofDocuments docs → ∀ input fields, (input, fields) ∈ s.inputObjects →
    ∃ t declared, Schema.lastDeclaration? docs.flatten input = some t ∧ t.body = .input declared ∧
      fields = declared ++
        (Schema.extensionsOf docs.flatten input).flatMap (·.body.inputFields)

theorem input_shape_laws (s : Schema) : InputShapeLaws s where
  succeeds_iff := by
    rw [Schema.ofSchema_succeeds_iff]
    simp only [Schema.mem_inputFields_iff, Prod.forall]
    constructor
    · intro h input fields hobject field hfield
      exact h input field ⟨fields, hobject, hfield⟩
    · rintro h input field ⟨fields, hobject, hfield⟩
      exact h input fields hobject field hfield
  keys m hm := ⟨Schema.keys_of_ofSchema hm, m.nodup⟩
  shapes m hm := (Schema.shaped_of_ofSchema hm).imp fun _ _ h => h.1
  key_iff m hm name := Schema.mem_keys_iff hm
  closed m hm entry hentry shape hshape := by
    obtain ⟨object, -, hshaped, haccepts⟩ :=
      exists_mem_of_forall₂ (Schema.shaped_of_ofSchema hm) hentry
    obtain ⟨field, hfield, hdescribes⟩ := exists_mem_of_forall₂ hshaped.fields hshape
    obtain ⟨c, hc, hinput⟩ := haccepts field hfield
    rw [TypeRef.named_within_iff.1 hdescribes.typeName] at hc
    rcases hinput with rfl | rfl | rfl
    · exact .inl hc
    · exact .inr (.inl hc)
    · exact .inr (.inr ((Schema.mem_keys_iff hm).2 hc))
  fails e := by
    rw [Schema.ofSchema_error_iff]
    constructor
    · rintro ⟨before, ⟨input, field⟩, after, hsplit, hbefore, hfield, he⟩
      refine ⟨before, input, field, after, hsplit, fun x hx => ?_, hfield, he⟩
      exact not_not.1 fun hno => hbefore x hx _ ⟨hno, rfl⟩
    · rintro ⟨before, input, field, after, hsplit, hbefore, hfield, he⟩
      refine ⟨before, (input, field), after, hsplit, fun x hx e' he' => ?_, hfield, he⟩
      exact he'.1 (hbefore x hx)
  extended := by
    rintro docs rfl input fields hobject
    obtain ⟨t, ht, hbody⟩ := Schema.mem_inputObjects_iff.1 hobject
    rw [Schema.ofDocuments, Schema.find?_ofDefinitions] at ht
    obtain ⟨declaration, hlast, rfl⟩ := Option.map_eq_some_iff.1 ht
    have hname := Schema.name_of_lastDeclaration? hlast
    change declaration.body.addFields _ _ = _ at hbody
    cases hdeclared : declaration.body with
    | input declared =>
      rw [hdeclared, hname] at hbody
      cases hbody
      exact ⟨declaration, declared, hlast, hdeclared, rfl⟩
    | scalar | object | interface | union | enum =>
      rw [hdeclared] at hbody
      cases hbody

/-- Filters of teams, which refer to themselves, to an enum and to an input that is declared under
the name of a scalar. -/
def nestedFilters : List (List TypeSystemDefinition) := [[
  .extension ⟨"Filter", [], .input [⟨none, "id", .nonNull (.named "ID"), none, []⟩]⟩,
  .type ⟨none, "Role", [], .enum []⟩,
  .type ⟨none, "Filter", [], .input [
    ⟨none, "all", .list (.nonNull (.named "Filter")), none, []⟩,
    ⟨none, "role", .named "Role", none, []⟩]⟩,
  .type ⟨none, "ID", [], .input [⟨none, "text", .named "String", none, []⟩]⟩]]

theorem input_shape_laws_of_nestedFilters :
    ∃ m, InputShapeMap.ofSchema (.ofDocuments nestedFilters) = .ok m ∧
      m.keys = ["Filter", "ID"] ∧ "ID" ∈ m.keys := by
  have laws := input_shape_laws (.ofDocuments nestedFilters)
  obtain ⟨m, hm⟩ : ∃ m, InputShapeMap.ofSchema (.ofDocuments nestedFilters) = .ok m := ⟨_, rfl⟩
  refine ⟨m, hm, (laws.keys m hm).1.trans rfl, (laws.key_iff m hm "ID").2 rfl⟩

end TypedClient
