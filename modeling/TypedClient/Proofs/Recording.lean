import TypedClient.Project

/-!
# What a recording computation gives

A recording computation never looks at the names recorded so far: it has one outcome and one list
of names, and appends the list to whatever is there. `Recording.Gives x r names` states that, and
the lemmas below find outcome and names for everything that the function of an operation is made
of. `Project.function_gives` is the summary that all later proofs start from.
-/

namespace TypedClient

namespace Recording

variable {α β : Type}

/-- Whatever was recorded before, the computation ends in `r` and appends `names`. -/
def Gives (x : Recording α) (r : Except Error α) (names : List String) : Prop :=
  ∀ recorded, x.run.run recorded = (r, recorded ++ names)

theorem gives_pure (a : α) : Gives (pure a) (.ok a) [] := by
  intro recorded
  rw [List.append_nil]
  rfl

theorem gives_throw (e : Error) : Gives (throw e : Recording α) (.error e) [] := by
  intro recorded
  rw [List.append_nil]
  rfl

theorem gives_record (name : String) : Gives (record name) (.ok ()) [name] :=
  fun _ => rfl

/-- A computation without a state records nothing. -/
theorem gives_lift (r : Except Error α) : Gives (liftM r : Recording α) r [] := by
  intro recorded
  rw [List.append_nil]
  cases r <;> rfl

theorem run_bind (x : Recording α) (f : α → Recording β) (recorded : List String) :
    (x >>= f).run.run recorded =
      match x.run.run recorded with
      | (.ok a, later) => (f a).run.run later
      | (.error e, later) => (.error e, later) := by
  rw [ExceptT.run_bind, StateT.run_bind]
  generalize x.run.run recorded = ended
  obtain ⟨r, later⟩ := ended
  cases r <;> rfl

theorem Gives.bind {x : Recording α} {f : α → Recording β} {a : α} {r : Except Error β}
    {names more : List String} (hx : Gives x (.ok a) names) (hf : Gives (f a) r more) :
    Gives (x >>= f) r (names ++ more) := by
  intro recorded
  rw [run_bind, hx recorded]
  show (f a).run.run (recorded ++ names) = _
  rw [hf, List.append_assoc]

theorem Gives.bind_error {x : Recording α} {e : Error} {names : List String}
    (hx : Gives x (.error e) names) (f : α → Recording β) :
    Gives (x >>= f) (.error e) names := by
  intro recorded
  rw [run_bind, hx recorded]

/-- A pure step at the end keeps the names, whether or not the rest succeeds. -/
theorem Gives.bind_pure {x : Recording α} {r : Except Error α} {names : List String}
    (hx : Gives x r names) (g : α → β) :
    Gives (x >>= fun a => pure (g a)) (r.map g) names := by
  cases r with
  | error e => exact hx.bind_error _
  | ok a =>
    rw [← List.append_nil names]
    exact hx.bind (gives_pure (g a))

theorem gives_lift_bind {r : Except Error α} {a : α} (h : r = .ok a) {f : α → Recording β}
    {r' : Except Error β} {names : List String} (hf : Gives (f a) r' names) :
    Gives (liftM r >>= f) r' names := by
  subst h
  exact (gives_lift (.ok a)).bind hf

theorem gives_lift_bind_error {r : Except Error α} {e : Error} (h : r = .error e)
    (f : α → Recording β) : Gives (liftM r >>= f) (.error e) [] := by
  subst h
  exact (gives_lift (.error e)).bind_error f

end Recording

open Recording (Gives gives_pure gives_throw gives_record gives_lift_bind gives_lift_bind_error)

/-! ## References to types -/

/-- How a module writes a reference to a named type. -/
def typeText (name : String) (category : Option TypeCategory) : String :=
  match primitive? name with
  | some primitive => primitive
  | none => if category = some .scalar then "Scalars[\"" ++ name ++ "\"]" else name

/-- What a module imports for a reference to a named type: nothing for a built-in scalar. -/
def typeNames (name : String) (category : Option TypeCategory) : List String :=
  match primitive? name with
  | some _ => []
  | none => if category = some .scalar then ["Scalars"] else [name]

theorem typeReference_gives (name : String) (category : Option TypeCategory) :
    Gives (typeReference name category) (.ok (typeText name category))
      (typeNames name category) := by
  unfold typeReference typeText typeNames
  cases primitive? name with
  | some primitive => exact gives_pure primitive
  | none =>
    by_cases h : category = some .scalar
    · simp only [if_pos h]
      exact (gives_record "Scalars").bind (gives_pure _)
    · simp only [if_neg h]
      exact (gives_record name).bind (gives_pure _)

namespace Project

/-! ## The parameter -/

/-- The parameter that a convention leads to. -/
def parameterOf (p : Project) (name : String) (kind : OperationKind) : Convention → Parameter
  | .bare v =>
    { name := v.name
      type := typeText v.typeName (p.schema.category? v.typeName) ++ listSuffix v.isList
      default :=
        if v.isList then some "[]"
        else if p.schema.category? v.typeName = some .input then some "\x7b\x7d"
        else none
      argument := "\x7b " ++ v.name ++ " \x7d" }
  | .bag =>
    { name := "vars"
      type := variablesTypeName p.settings name kind
      default := some "\x7b\x7d"
      argument := "vars" }

/-- What the type of the parameter makes a module import. -/
def parameterNames (p : Project) (name : String) (kind : OperationKind) :
    Convention → List String
  | .bare v => typeNames v.typeName (p.schema.category? v.typeName)
  | .bag => [variablesTypeName p.settings name kind]

theorem parameter_gives (p : Project) (name : String) (kind : OperationKind) (c : Convention) :
    Gives (p.parameter name kind c) (.ok (p.parameterOf name kind c))
      (p.parameterNames name kind c) := by
  cases c with
  | bare v => exact (typeReference_gives v.typeName (p.schema.category? v.typeName)).bind_pure _
  | bag => exact (gives_record _).bind_pure _

/-! ## The result -/

/-- The flat type of a field of a root type. -/
def rootFieldType (p : Project) (kind : OperationKind) (field : String) :
    Except Error FlatType := do
  let f ← p.schema.rootField kind field
  FlatType.ofType p.schema f.type

/-- Result type and unwrapping statement for a single field of the given type. -/
def singleFieldResult (p : Project) (head : FieldHead) (flat : FlatType) :
    Option String × Option String :=
  if flat.baseName = p.settings.voidTypeName then (none, none)
  else
    (some (typeText flat.baseName (some flat.category) ++ listSuffix flat.isList),
      some ("if (response.data) response.data = response.data." ++ head.responseName ++ "\n"))

/-- What a single field of the given type makes a module import. -/
def singleFieldNames (p : Project) (flat : FlatType) : List String :=
  if flat.baseName = p.settings.voidTypeName then []
  else typeNames flat.baseName (some flat.category)

def resultOf (p : Project) (name : String) (kind : OperationKind) (selections : List Selection) :
    Except Error (Option String × Option String) :=
  match singleField? kind selections with
  | none => .ok (some (resultTypeName p.settings name kind), none)
  | some head => (p.rootFieldType kind head.name).map (p.singleFieldResult head)

/-- What the result makes a module import; a result that cannot be found imports nothing. -/
def resultNames (p : Project) (name : String) (kind : OperationKind)
    (selections : List Selection) : List String :=
  match singleField? kind selections with
  | none => [resultTypeName p.settings name kind]
  | some head =>
    match p.rootFieldType kind head.name with
    | .ok flat => p.singleFieldNames flat
    | .error _ => []

theorem result_gives (p : Project) (name : String) (kind : OperationKind)
    (selections : List Selection) :
    Gives (p.result name kind selections) (p.resultOf name kind selections)
      (p.resultNames name kind selections) := by
  unfold result resultOf resultNames
  cases singleField? kind selections with
  | none => exact (gives_record _).bind_pure _
  | some head =>
    dsimp only
    cases hfield : p.schema.rootField kind head.name with
    | error e =>
      rw [show p.rootFieldType kind head.name = .error e by rw [rootFieldType, hfield]; rfl]
      exact gives_lift_bind_error rfl _
    | ok field =>
      have htype : p.rootFieldType kind head.name = FlatType.ofType p.schema field.type := by
        rw [rootFieldType, hfield]
        rfl
      rw [htype]
      refine gives_lift_bind rfl ?_
      cases hflat : FlatType.ofType p.schema field.type with
      | error e => exact gives_lift_bind_error rfl _
      | ok flat =>
        refine gives_lift_bind rfl ?_
        by_cases hvoid : flat.baseName = p.settings.voidTypeName
        · simp only [Except.map, singleFieldResult, singleFieldNames, if_pos hvoid]
          exact gives_pure _
        · simp only [Except.map, singleFieldResult, singleFieldNames, if_neg hvoid]
          exact (typeReference_gives flat.baseName (some flat.category)).bind_pure _

end Project

/-! ## The function of an operation -/

namespace Operation

def variableShapes (op : Operation) : List VariableShape :=
  op.variableDefinitions.map VariableShape.describe

def convention (op : Operation) : Convention :=
  Convention.ofVariables op.kind op.variableShapes

end Operation

namespace Project

/-- The record of an operation's function, given its result type and unwrapping statement. -/
def functionRecord (p : Project) (op : Operation) (name : String)
    (result : Option String × Option String) : OperationFunction :=
  let parameter := p.parameterOf name op.kind op.convention
  { kind := op.kind
    operationName := name
    functionName := functionName name op.kind
    paramName := parameter.name
    paramType := parameter.type
    paramDefault := parameter.default
    resultType := result.1
    hasInputs := !op.variableShapes.isEmpty
    variablesArg := parameter.argument
    trimInputsBlock :=
      TrimStatement.renderAll (TrimStatement.ofVariables op.convention op.variableShapes)
    gqlBlock := gqlBlock (fragmentClosure p.documents op.selections) op
    dataTransformBlock := result.2 }

def functionOf (p : Project) (op : Operation) : Except Error OperationFunction :=
  match op.name? with
  | none => .error (.anonymousOperation op.kind)
  | some name => (p.resultOf name op.kind op.selections).map (p.functionRecord op name)

/-- What the function of an operation makes a module import. -/
def functionNames (p : Project) (op : Operation) : List String :=
  match op.name? with
  | none => []
  | some name =>
    p.parameterNames name op.kind op.convention ++ p.resultNames name op.kind op.selections

theorem function_gives (p : Project) (op : Operation) :
    Gives (p.function op) (p.functionOf op) (p.functionNames op) := by
  unfold function functionOf functionNames
  cases op.name? with
  | none => exact gives_throw _
  | some name =>
    refine (p.parameter_gives name op.kind op.convention).bind ?_
    exact (p.result_gives name op.kind op.selections).bind_pure (p.functionRecord op name)

/-- Parameter, result and fragments are all that a function takes from its project. -/
theorem functionOf_congr {p p' : Project} {op : Operation}
    (hparameter : ∀ name, p.parameterOf name op.kind op.convention =
      p'.parameterOf name op.kind op.convention)
    (hresult : ∀ name, p.resultOf name op.kind op.selections =
      p'.resultOf name op.kind op.selections)
    (hclosure : fragmentClosure p.documents op.selections =
      fragmentClosure p'.documents op.selections) :
    p.functionOf op = p'.functionOf op := by
  unfold functionOf
  cases op.name? with
  | none => rfl
  | some name =>
    dsimp only
    rw [hresult]
    congr 1
    funext result
    simp only [functionRecord, hparameter, hclosure]

theorem renderOperation_gives (p : Project) (op : Operation) :
    Gives (p.renderOperation op) ((p.functionOf op).map OperationFunction.render)
      (p.functionNames op) :=
  (p.function_gives op).bind_pure OperationFunction.render

end Project

end TypedClient
