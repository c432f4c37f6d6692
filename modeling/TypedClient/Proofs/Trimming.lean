import Mathlib.Logic.Function.Basic
import TypedClient.Proofs.InputShapes
import TypedClient.Proofs.ParameterCapture
import TypedClient.Proofs.Script

/-!
# Trimmed variables

What a function sends for the variables of its operation: the block that trims the parameter is
read from its text and run, and then the expression for the request variables is evaluated. The
main statement says that every variable is trimmed as its declarations say, whichever convention
carries it, and names the parameters for which that fails.

A run changes the values of variables and nothing else. `Holding` states that for the places that
hold them, so that one step and one induction serve both conventions.
-/

namespace TypedClient

open Script

/-! ## What trimming does -/

/-- What trimming makes of a value that is declared with the named type, or with lists of it. -/
def Script.World.trimAs (w : World) (typeName : String) (isList : Bool) (d : Datum) : Datum :=
  if typeName ∈ Schema.builtinScalars then d
  else if isList then
    match d with
    | .array items => .array (items.map fun item => w.trimInput item typeName w.inputTypeInfoMap)
    | d => d
  else if d.isPresent then w.trimInput d typeName w.inputTypeInfoMap
  else d

namespace Operation

/-- The variables of an operation, each once. -/
def variableNames (op : Operation) : List String :=
  (op.variableDefinitions.map (·.name)).eraseDups

/-- The object of all variables. -/
def assigned (op : Operation) (values : String → Datum) : Datum :=
  .object (op.variableNames.map fun x => (x, values x))

/-- A value trimmed by every declaration of the variable, in order. -/
def trimmed (op : Operation) (w : World) (x : String) (d : Datum) : Datum :=
  (op.variableDefinitions.filter (·.name = x)).foldl
    (fun d v => w.trimAs v.type.innermost v.type.hasList d) d

/-- What the parameter of the operation's function holds. -/
def argument (op : Operation) (values : String → Datum) : Datum :=
  match op.convention with
  | .bare v => values v.name
  | .bag => op.assigned values

end Operation

/-- The values of all variables after one declaration was trimmed. -/
def Script.World.trimVariable (w : World) (values : String → Datum) (v : VariableShape) :
    String → Datum :=
  Function.update values v.name (w.trimAs v.typeName v.isList (values v.name))

/-- A declaration changes its own variable alone. -/
theorem foldl_trimVariable (w : World) (vs : List VariableShape) (values : String → Datum)
    (x : String) :
    vs.foldl w.trimVariable values x =
      (vs.filter (·.name = x)).foldl (fun d v => w.trimAs v.typeName v.isList d) (values x) := by
  induction vs generalizing values with
  | nil => rfl
  | cons v vs ih =>
    rw [List.foldl_cons, ih, List.filter_cons]
    by_cases hx : v.name = x
    · subst hx
      simp [World.trimVariable]
    · simp [World.trimVariable, hx, Function.update_of_ne (Ne.symm hx)]

theorem Operation.variableShapes_eq (op : Operation) :
    op.variableShapes = op.variableDefinitions.map fun v =>
      { name := v.name, typeName := v.type.innermost, isList := v.type.hasList } :=
  List.map_congr_left fun v _ => VariableShape.describe_eq v

/-- Variable by variable, the declarations do what trimming is to do. -/
theorem Operation.foldl_variableShapes (op : Operation) (w : World) (values : String → Datum)
    (x : String) :
    op.variableShapes.foldl w.trimVariable values x = op.trimmed w x (values x) := by
  rw [foldl_trimVariable, Operation.variableShapes_eq, List.filter_map, List.foldl_map]
  rfl

/-! ## Statements as they are read -/

namespace Convention

/-- The place of a variable in the body of a function. -/
def place (x : String) : Convention → Expr
  | bare _ => .name x
  | bag => .member (.name "vars") x

/-- What stands before the variable in the text of its place. -/
def holder : Convention → List Lexeme
  | bare _ => []
  | bag => [.name "vars", .dot]

theorem spells_target (c : Convention) {v : VariableShape} (h : isName v.name = true) :
    Spells (c.target v) .code (.word v.name.toList) c.holder := by
  cases c with
  | bare _ => exact spells_name h
  | bag =>
    have hvars : Spells "vars." .code .code [.name "vars", .dot] := spells_literal fun _ => rfl
    exact hvars.append (spells_name h)

end Convention

/-- The statement that trims the items of an array. -/
def trimItems (place : Expr) (typeName : String) : Guarded where
  condition := .holds (.call (.member (.name "Array") "isArray") [place])
  place := place
  value := .call (.member place "map")
    [.arrow "item" (.call (.name "trimInput")
      [.name "item", .text typeName, .name "inputTypeInfoMap"])]

/-- The statement that trims a value that is there. -/
def trimWhole (place : Expr) (typeName : String) : Guarded where
  condition := .present place
  place := place
  value := .call (.name "trimInput") [place, .text typeName, .name "inputTypeInfoMap"]

def itemsLexemes (place : List Lexeme) (typeName : String) : List Lexeme :=
  List.flatten [
    [.keyword "if", .openRound, .name "Array", .dot, .name "isArray", .openRound], place,
    [.closeRound, .closeRound, .openCurly], place,
    [.assign], place,
    [.dot, .name "map", .openRound, .name "item", .arrow, .name "trimInput", .openRound,
      .name "item", .comma, .text typeName, .comma, .name "inputTypeInfoMap", .closeRound,
      .closeRound, .closeCurly]]

def wholeLexemes (place : List Lexeme) (typeName : String) : List Lexeme :=
  List.flatten [
    [.keyword "if", .openRound], place,
    [.notEqual, .keyword "null", .closeRound, .openCurly], place,
    [.assign, .name "trimInput", .openRound], place,
    [.comma, .text typeName, .comma, .name "inputTypeInfoMap", .closeRound, .closeCurly]]

namespace VariableShape

/-- The statement that trims a variable, given its place. -/
def statement (v : VariableShape) (place : Expr) : Guarded :=
  if v.isList then trimItems place v.typeName else trimWhole place v.typeName

def lexemes (v : VariableShape) (place : List Lexeme) : List Lexeme :=
  if v.isList then itemsLexemes place v.typeName else wholeLexemes place v.typeName

/-- The variables that a block trims. -/
def isTrimmed (v : VariableShape) : Bool :=
  v.primitive?.isNone

theorem isTrimmed_iff {v : VariableShape} :
    v.isTrimmed = true ↔ v.typeName ∉ Schema.builtinScalars := by
  rw [isTrimmed, Option.isNone_iff_eq_none]
  unfold primitive? TypedClient.primitive? Schema.builtinScalars
  grind

end VariableShape

namespace TrimStatement

theorem ofVariables_eq (c : Convention) (vs : List VariableShape) :
    ofVariables c vs = (vs.filter VariableShape.isTrimmed).map fun v =>
      if v.isList then items (c.target v) v.typeName else whole (c.target v) v.typeName := by
  unfold ofVariables ofVariable VariableShape.isTrimmed
  induction vs with
  | nil => rfl
  | cons v vs ih =>
    rw [List.filterMap_cons, List.filter_cons, ih]
    cases v.primitive? with
    | some primitive => rfl
    | none => cases hlist : v.isList <;> simp [hlist]

theorem spells_items {target typeName : String} {cs : List Char} {ls : List Lexeme}
    (htarget : Spells target .code (.word cs) ls) (htype : isName typeName = true) :
    Spells (items target typeName).render .code .code
      (itemsLexemes (ls ++ [.ofWord cs]) typeName) := by
  have hif : Spells "if (Array.isArray(" .code .code
      [.keyword "if", .openRound, .name "Array", .dot, .name "isArray", .openRound] :=
    spells_literal fun _ => rfl
  have hthen : Spells ")) \x7b\n  " (.word cs) .code
      [.ofWord cs, .closeRound, .closeRound, .openCurly] :=
    spells_literal fun _ => rfl
  have hassign : Spells " = " (.word cs) .code [.ofWord cs, .assign] :=
    spells_literal fun _ => rfl
  have hmap : Spells ".map(item => trimInput(item, \"" (.word cs) (.quoted [])
      [.ofWord cs, .dot, .name "map", .openRound, .name "item", .arrow, .name "trimInput",
        .openRound, .name "item", .comma] :=
    spells_literal fun _ => rfl
  have hinfo : Spells "\", inputTypeInfoMap))\n\x7d\n" (.quoted typeName.toList) .code
      [.text (String.ofList typeName.toList), .comma, .name "inputTypeInfoMap", .closeRound,
        .closeRound, .closeCurly] :=
    spells_literal fun _ => rfl
  have hall := (((((((hif.append htarget).append hthen).append htarget).append hassign).append
    htarget).append hmap).append (spells_quoted_name htype)).append hinfo
  rw [String.ofList_toList] at hall
  unfold render itemsLexemes
  simpa only [List.flatten_cons, List.flatten_nil, List.append_assoc, List.cons_append,
    List.nil_append, List.append_nil] using hall

theorem spells_whole {target typeName : String} {cs : List Char} {ls : List Lexeme}
    (htarget : Spells target .code (.word cs) ls) (htype : isName typeName = true) :
    Spells (whole target typeName).render .code .code
      (wholeLexemes (ls ++ [.ofWord cs]) typeName) := by
  have hif : Spells "if (" .code .code [.keyword "if", .openRound] := spells_literal fun _ => rfl
  have hthen : Spells " != null) \x7b\n  " (.word cs) .code
      [.ofWord cs, .notEqual, .keyword "null", .closeRound, .openCurly] :=
    spells_literal fun _ => rfl
  have hassign : Spells " = trimInput(" (.word cs) .code
      [.ofWord cs, .assign, .name "trimInput", .openRound] :=
    spells_literal fun _ => rfl
  have hcomma : Spells ", \"" (.word cs) (.quoted []) [.ofWord cs, .comma] :=
    spells_literal fun _ => rfl
  have hinfo : Spells "\", inputTypeInfoMap)\n\x7d\n" (.quoted typeName.toList) .code
      [.text (String.ofList typeName.toList), .comma, .name "inputTypeInfoMap", .closeRound,
        .closeCurly] :=
    spells_literal fun _ => rfl
  have hall := (((((((hif.append htarget).append hthen).append htarget).append hassign).append
    htarget).append hcomma).append (spells_quoted_name htype)).append hinfo
  rw [String.ofList_toList] at hall
  unfold render wholeLexemes
  simpa only [List.flatten_cons, List.flatten_nil, List.append_assoc, List.cons_append,
    List.nil_append, List.append_nil] using hall

/-- The lexemes of a block, statement by statement. -/
theorem spells_renderAll (c : Convention) {vs : List VariableShape}
    (h : ∀ v ∈ vs, isName v.name = true ∧ isName v.typeName = true) :
    Spells (renderAll (ofVariables c vs)) .code .code
      ((vs.filter VariableShape.isTrimmed).flatMap fun v =>
        v.lexemes (c.holder ++ [.ofWord v.name.toList])) := by
  have hall : ∀ v ∈ vs.filter VariableShape.isTrimmed,
      isName v.name = true ∧ isName v.typeName = true :=
    fun v hv => h v (List.mem_filter.1 hv).1
  rw [ofVariables_eq, renderAll, List.map_map]
  generalize vs.filter VariableShape.isTrimmed = trimmed at hall
  induction trimmed with
  | nil => exact spells_empty .code
  | cons v trimmed ih =>
    obtain ⟨⟨hname, htype⟩, hrest⟩ := List.forall_mem_cons.1 hall
    rw [List.map_cons, String.join_cons, List.flatMap_cons]
    refine Spells.append ?_ (ih hrest)
    show Spells (if v.isList then _ else _ : TrimStatement).render .code .code _
    rw [VariableShape.lexemes]
    split
    · exact spells_items (c.spells_target hname) htype
    · exact spells_whole (c.spells_target hname) htype

end TrimStatement

/-! ## Reading a block -/

/-- The statement of a variable is read if its place is: a member can have any name, and a bare
variable any name that is not reserved. -/
theorem VariableShape.readGuarded_lexemes {c : Convention} {v : VariableShape}
    (h : c ≠ .bag → v.name ∉ reservedWords) (rest : List Lexeme) :
    readGuarded (v.lexemes (c.holder ++ [.ofWord v.name.toList]) ++ rest) =
      some (v.statement (c.place v.name), rest) := by
  rw [Lexeme.ofWord_toList]
  unfold lexemes statement
  cases c with
  | bare u =>
    rw [if_neg (h Convention.noConfusion)]
    cases v.isList with
    | true => rfl
    | false => rfl
  | bag =>
    by_cases hword : v.name ∈ reservedWords
    · rw [if_pos hword]
      cases v.isList with
      | true => rfl
      | false => rfl
    · rw [if_neg hword]
      cases v.isList with
      | true => rfl
      | false => rfl

/-- The statements of a block. -/
theorem statements?_renderAll {c : Convention} {vs : List VariableShape}
    (hnames : ∀ v ∈ vs, isName v.name = true ∧ isName v.typeName = true)
    (hwords : ∀ v ∈ vs, c ≠ .bag → v.name ∉ reservedWords) :
    statements? (TrimStatement.renderAll (TrimStatement.ofVariables c vs)) =
      some ((vs.filter VariableShape.isTrimmed).map fun v => v.statement (c.place v.name)) := by
  refine statements?_of_spells (TrimStatement.spells_renderAll c hnames) fun v hv rest => ?_
  exact VariableShape.readGuarded_lexemes (hwords v (List.mem_filter.1 hv).1) rest

/-! ## Running a block -/

/-- The places hold the values of the variables, and hide nothing that trimming needs: one reads
a value at its place, and an assignment changes it and no other. -/
structure Holding (w : World) (names : List String) (place : String → Expr)
    (state : (String → Datum) → Locals) : Prop where
  eval : ∀ values, ∀ x ∈ names, (place x).eval w (state values) = some (.datum (values x))
  assign : ∀ values d, ∀ x ∈ names,
    (place x).assign d (state values) = some (state (Function.update values x d))
  trimInput : ∀ values, (state values).lookup "trimInput" = none
  inputTypeInfoMap : ∀ values, (state values).lookup "inputTypeInfoMap" = none

namespace Holding

variable {w : World} {names : List String} {place : String → Expr}
  {state : (String → Datum) → Locals}

/-- One step: the variable at the place of the statement gets the value, unless the condition
fails and the variable has the value already. -/
theorem run_statement (h : Holding w names place state) {values : String → Datum} {x : String}
    (hx : x ∈ names) {s : Guarded} (hplace : s.place = place x) {b : Bool} {d : Datum}
    (hcondition : s.condition.eval w (state values) = some b)
    (hvalue : b = true → s.value.eval w (state values) = some (.datum d))
    (hskip : b = false → d = values x) :
    s.run w (state values) = some (state (Function.update values x d)) := by
  unfold Guarded.run
  rw [hcondition, hplace]
  cases b with
  | false =>
    rw [hskip rfl, Function.update_eq_self]
    rfl
  | true =>
    rw [← h.assign values d x hx]
    simp [hvalue rfl, Value.datum?]

theorem run_trimItems (h : Holding w names place state) {values : String → Datum} {x : String}
    (hx : x ∈ names) (harray : (state values).lookup "Array" = none) {typeName : String}
    (htype : typeName ∉ Schema.builtinScalars) :
    (trimItems (place x) typeName).run w (state values) =
      some (state (Function.update values x (w.trimAs typeName true (values x)))) := by
  have heval := h.eval values x hx
  have hitem (item : Datum) : (Expr.call (.name "trimInput")
      [.name "item", .text typeName, .name "inputTypeInfoMap"]).eval w
        (("item", item) :: state values) =
      some (.datum (w.trimInput item typeName w.inputTypeInfoMap)) := by
    refine eval_call_trimInput ?_ ?_ rfl typeName
    · rw [← h.trimInput values]
      rfl
    · rw [← h.inputTypeInfoMap values]
      rfl
  refine h.run_statement (b := (values x).isArray) hx rfl ?_ ?_ ?_
  · simp [trimItems, Condition.eval, eval_call_isArray harray heval]
  · intro hd
    cases hvalue : values x with
    | array items =>
      rw [hvalue] at heval
      simp [trimItems, eval_call_map heval hitem, World.trimAs, htype]
    | _ => simp [hvalue, Datum.isArray] at hd
  · intro hd
    cases hvalue : values x with
    | array items => simp [hvalue, Datum.isArray] at hd
    | _ => simp [World.trimAs]

theorem run_trimWhole (h : Holding w names place state) {values : String → Datum} {x : String}
    (hx : x ∈ names) {typeName : String} (htype : typeName ∉ Schema.builtinScalars) :
    (trimWhole (place x) typeName).run w (state values) =
      some (state (Function.update values x (w.trimAs typeName false (values x)))) := by
  have heval := h.eval values x hx
  have htrim := eval_call_trimInput (h.trimInput values) (h.inputTypeInfoMap values) heval typeName
  refine h.run_statement (b := (values x).isPresent) hx rfl ?_ ?_ ?_
  · simp [trimWhole, Condition.eval, heval]
  · intro hd
    simp [trimWhole, htrim, World.trimAs, htype, hd]
  · intro hd
    simp [World.trimAs, hd]

theorem run_variable (h : Holding w names place state) {values : String → Datum}
    {v : VariableShape} (hv : v.name ∈ names) (htrimmed : v.isTrimmed = true)
    (harray : v.isList = true → (state values).lookup "Array" = none) :
    (v.statement (place v.name)).run w (state values) =
      some (state (w.trimVariable values v)) := by
  have htype := VariableShape.isTrimmed_iff.1 htrimmed
  unfold VariableShape.statement World.trimVariable
  cases hlist : v.isList with
  | true => exact h.run_trimItems hv (harray hlist) htype
  | false => exact h.run_trimWhole hv htype

/-- A run trims the variables of all declarations, in order. -/
theorem runAll_statements (h : Holding w names place state) {vs : List VariableShape}
    (hnames : ∀ v ∈ vs, v.name ∈ names)
    (harray : ∀ v ∈ vs, v.isTrimmed = true → v.isList = true →
      ∀ values, (state values).lookup "Array" = none)
    (values : String → Datum) :
    runAll w (state values)
        ((vs.filter VariableShape.isTrimmed).map fun v => v.statement (place v.name)) =
      some (state (vs.foldl w.trimVariable values)) := by
  induction vs generalizing values with
  | nil => rfl
  | cons v vs ih =>
    obtain ⟨hv, hrest⟩ := List.forall_mem_cons.1 hnames
    obtain ⟨hlist, harrays⟩ := List.forall_mem_cons.1 harray
    rw [List.foldl_cons, ← ih hrest harrays, List.filter_cons]
    cases htrimmed : v.isTrimmed with
    | true =>
      have hstep := h.run_variable hv htrimmed fun hl => hlist htrimmed hl values
      simp [runAll, hstep]
    | false =>
      have htype : v.typeName ∈ Schema.builtinScalars := by
        rwa [← Bool.not_eq_true, VariableShape.isTrimmed_iff, not_not] at htrimmed
      simp [World.trimVariable, World.trimAs, htype]

end Holding

/-! ## The two conventions -/

theorem lookup_map_values {names : List String} {x : String} (hx : x ∈ names)
    (values : String → Datum) :
    (names.map fun y => (y, values y)).lookup x = some (values x) := by
  induction names with
  | nil => cases hx
  | cons y names ih =>
    rw [List.map_cons]
    by_cases hy : x = y
    · subst hy
      exact List.lookup_cons_self
    · rw [List.lookup_cons, beq_false_of_ne hy]
      exact ih (List.mem_of_ne_of_mem hy hx)

theorem put_map_values {names : List String} {x : String} (hx : x ∈ names)
    (values : String → Datum) (d : Datum) :
    put x d (names.map fun y => (y, values y)) =
      names.map fun y => (y, Function.update values x d y) := by
  rw [put, lookup_map_values hx, Option.isSome_some, if_pos rfl, List.map_map]
  refine List.map_congr_left fun y _ => ?_
  by_cases hy : y = x
  · subst hy
    simp
  · simp [hy]

theorem holding_bag (w : World) (names : List String) :
    Holding w names Convention.bag.place fun values =>
      [("vars", .object (names.map fun x => (x, values x)))] where
  eval values x hx := by
    simp [Convention.place, Expr.eval, World.find, Value.member, lookup_map_values hx]
  assign values d x hx := by
    have hput := put_map_values hx values d
    simp only [Convention.place, Expr.assign, List.lookup_cons_self, Option.bind_eq_bind,
      Option.bind_some, hput]
    simp [put]
  trimInput values := rfl
  inputTypeInfoMap values := rfl

theorem lookup_singleton_of_ne {x y : String} (h : x ≠ y) (d : Datum) :
    [(y, d)].lookup x = none := by
  rw [List.lookup_cons, beq_false_of_ne h]
  rfl

theorem holding_bare (w : World) {v : VariableShape} (hname : v.name ∉ Convention.reservedLocals) :
    Holding w [v.name] (Convention.bare v).place fun values => [(v.name, values v.name)] where
  eval values x hx := by
    obtain rfl := List.mem_singleton.1 hx
    simp [Convention.place, Expr.eval, World.find]
  assign values d x hx := by
    obtain rfl := List.mem_singleton.1 hx
    simp [Convention.place, Expr.assign, put]
  trimInput values := by
    refine lookup_singleton_of_ne ?_ _
    exact fun h => hname (h ▸ by decide)
  inputTypeInfoMap values := by
    refine lookup_singleton_of_ne ?_ _
    exact fun h => hname (h ▸ by decide)

theorem lexemes_shorthand {x : String} (h : isName x = true) :
    lexemes .code ("\x7b " ++ x ++ " \x7d").toList =
      [.openCurly, .ofWord x.toList, .closeCurly] := by
  have hopening : Spells "\x7b " .code .code [.openCurly] := spells_literal fun _ => rfl
  have hclosing : Spells " \x7d" (.word x.toList) .code [.ofWord x.toList, .closeCurly] :=
    spells_literal fun _ => rfl
  exact ((hopening.append (spells_name h)).append hclosing).lexemes_eq

/-- The object with one variable is an expression unless the name of the variable is reserved. -/
theorem expr?_shorthand {x : String} (h : isName x = true) :
    expr? ("\x7b " ++ x ++ " \x7d") = if x ∈ reservedWords then none else some (.shorthand x) := by
  rw [expr?, lexemes_shorthand h, Lexeme.ofWord_toList]
  by_cases hx : x ∈ reservedWords
  · rw [if_pos hx, if_pos hx]
    rfl
  · rw [if_neg hx, if_neg hx]
    rfl

example : expr? "\x7b in \x7d" = none := rfl

theorem valueAfter_bag {vs : List VariableShape}
    (h : ∀ v ∈ vs, isName v.name = true ∧ isName v.typeName = true) {names : List String}
    (hnames : ∀ v ∈ vs, v.name ∈ names) (w : World) (values : String → Datum) :
    valueAfter w [("vars", .object (names.map fun x => (x, values x)))]
        (TrimStatement.renderAll (TrimStatement.ofVariables .bag vs)) "vars" =
      some (.object (names.map fun x => (x, vs.foldl w.trimVariable values x))) := by
  have hstatements := statements?_renderAll (c := .bag) h fun _ _ hbag => absurd rfl hbag
  have hexpr : expr? "vars" = some (.name "vars") := rfl
  have hrun := (holding_bag w names).runAll_statements hnames (fun _ _ _ _ _ => rfl) values
  simp [valueAfter, hstatements, hexpr, hrun, Expr.eval, World.find]

section Bare

variable {v : VariableShape}

theorem statements?_bare (hname : isName v.name = true) (htype : isName v.typeName = true)
    (hword : v.name ∉ reservedWords) :
    statements? (TrimStatement.renderAll (TrimStatement.ofVariables (.bare v) [v])) =
      some (([v].filter VariableShape.isTrimmed).map fun u =>
        u.statement ((Convention.bare v).place u.name)) := by
  refine statements?_renderAll ?_ ?_
  · simpa using ⟨hname, htype⟩
  · intro u hu _
    obtain rfl := List.mem_singleton.1 hu
    exact hword

theorem valueAfter_bare (hname : isName v.name = true) (htype : isName v.typeName = true)
    (hlocal : v.name ∉ Convention.reservedLocals) (hword : v.name ∉ reservedWords)
    (harray : v.isTrimmed = true → v.isList = true → v.name ≠ "Array") (w : World)
    (values : String → Datum) :
    valueAfter w [(v.name, values v.name)]
        (TrimStatement.renderAll (TrimStatement.ofVariables (.bare v) [v]))
        ("\x7b " ++ v.name ++ " \x7d") =
      some (.object [(v.name, w.trimVariable values v v.name)]) := by
  have hexpr : expr? ("\x7b " ++ v.name ++ " \x7d") = some (.shorthand v.name) := by
    rw [expr?_shorthand hname, if_neg hword]
  have hfree : ∀ u ∈ [v], u.isTrimmed = true → u.isList = true →
      ∀ values : String → Datum, [(v.name, values v.name)].lookup "Array" = none := by
    intro u hu htrimmed hlist values
    obtain rfl := List.mem_singleton.1 hu
    exact lookup_singleton_of_ne (harray htrimmed hlist).symm _
  have hrun := (holding_bare w hlocal).runAll_statements (by simp) hfree values
  simp [valueAfter, statements?_bare hname htype hword, hexpr, hrun, Expr.eval, World.find]

/-- No parameter can be called by a reserved word. -/
theorem valueAfter_reserved (hname : isName v.name = true) (hword : v.name ∈ reservedWords)
    (w : World) (locals : Locals) (block : String) :
    valueAfter w locals block ("\x7b " ++ v.name ++ " \x7d") = none := by
  have hexpr : expr? ("\x7b " ++ v.name ++ " \x7d") = none := by
    rw [expr?_shorthand hname, if_pos hword]
  simp [valueAfter, hexpr]

/-- A list that is called `Array` hides the global that would tell whether it is an array. -/
theorem valueAfter_array (hname : v.name = "Array") (htype : isName v.typeName = true)
    (htrimmed : v.isTrimmed = true) (hlist : v.isList = true) (w : World) (d : Datum)
    (argument : String) :
    valueAfter w [(v.name, d)]
      (TrimStatement.renderAll (TrimStatement.ofVariables (.bare v) [v])) argument = none := by
  have hisName : isName v.name = true := by
    rw [hname]
    decide
  have hword : v.name ∉ reservedWords := by
    rw [hname]
    decide
  have hstatements := statements?_bare hisName htype hword
  have hlocal : [(v.name, d)].lookup "Array" = some d := by
    rw [hname]
    rfl
  have hcall := eval_call_isArray_of_local (w := w) hlocal [.name v.name]
  have hrun : (v.statement ((Convention.bare v).place v.name)).run w [(v.name, d)] = none := by
    rw [VariableShape.statement, if_pos hlist]
    simp [Guarded.run, trimItems, Condition.eval, Convention.place, hcall]
  simp [valueAfter, hstatements, htrimmed, runAll, hrun]

end Bare

/-! ## Functions -/

namespace Operation

/-- The only variable is the parameter, and its name does not allow that: it is a reserved word, or
it hides the global that the trimming of lists needs. -/
def Misnamed (op : Operation) : Prop :=
  ∃ v, op.convention = .bare v ∧
    (v.name ∈ reservedWords ∨ (v.name = "Array" ∧ v.isList = true ∧ v.isTrimmed = true))

theorem name_mem_variableNames {op : Operation} {v : VariableShape} (hv : v ∈ op.variableShapes) :
    v.name ∈ op.variableNames := by
  rw [variableShapes_eq] at hv
  obtain ⟨definition, hdefinition, rfl⟩ := List.mem_map.1 hv
  rw [variableNames, List.mem_eraseDups]
  exact List.mem_map_of_mem hdefinition

theorem variableNames_of_single {op : Operation} {v : VariableShape}
    (h : op.variableShapes = [v]) : op.variableNames = [v.name] := by
  have hnames : op.variableDefinitions.map (·.name) = op.variableShapes.map (·.name) := by
    rw [variableShapes_eq, List.map_map]
    rfl
  rw [variableNames, hnames, h]
  rfl

end Operation

/-- A function has its parameter and its block from the convention. -/
theorem Project.block_of_functionOf {p : Project} {op : Operation} {f : OperationFunction}
    (h : p.functionOf op = .ok f) :
    ∃ name, f.paramName = (p.parameterOf name op.kind op.convention).name ∧
      f.variablesArg = (p.parameterOf name op.kind op.convention).argument ∧
      f.trimInputsBlock =
        TrimStatement.renderAll (TrimStatement.ofVariables op.convention op.variableShapes) := by
  unfold functionOf at h
  split at h
  · cases h
  · rename_i name _
    obtain ⟨result, -, rfl⟩ := map_eq_ok_iff.1 h
    exact ⟨name, rfl, rfl, rfl⟩

/-- What the function of an operation sends for the variables. -/
def OperationFunction.sends (f : OperationFunction) (op : Operation) (w : World)
    (values : String → Datum) : Option Datum :=
  valueAfter w [(f.paramName, op.argument values)] f.trimInputsBlock f.variablesArg

namespace Project

variable {p : Project} {op : Operation} {f : OperationFunction}

theorem sends_of_bag (hf : p.functionOf op = .ok f) (hnamed : op.WellNamed)
    (hbag : op.convention = .bag) (w : World) (values : String → Datum) :
    f.sends op w values = some (op.assigned fun x => op.trimmed w x (values x)) := by
  obtain ⟨name, hparam, hargument, hblock⟩ := block_of_functionOf hf
  have hvalue := valueAfter_bag (fun v hv => hnamed.variableShape hv)
    (fun v hv => Operation.name_mem_variableNames hv) w values
  rw [hbag] at hparam hargument hblock
  rw [OperationFunction.sends, hparam, hargument, hblock, Operation.argument, hbag]
  simp only [Operation.foldl_variableShapes] at hvalue
  exact hvalue

theorem sends_of_bare {v : VariableShape} (hf : p.functionOf op = .ok f) (hnamed : op.WellNamed)
    (hbare : op.convention = .bare v) (hword : v.name ∉ reservedWords)
    (harray : v.isTrimmed = true → v.isList = true → v.name ≠ "Array") (w : World)
    (values : String → Datum) :
    f.sends op w values = some (op.assigned fun x => op.trimmed w x (values x)) := by
  obtain ⟨name, hparam, hargument, hblock⟩ := block_of_functionOf hf
  obtain ⟨hshapes, -, hlocal⟩ := Operation.convention_eq_bare_iff.1 hbare
  obtain ⟨hname, htype⟩ := hnamed.variableShape (v := v) (by rw [hshapes]; simp)
  have hvalue := valueAfter_bare hname htype hlocal hword harray w values
  have htrimmed : w.trimVariable values v v.name = op.trimmed w v.name (values v.name) := by
    rw [← Operation.foldl_variableShapes, hshapes]
    rfl
  have hassigned : (op.assigned fun x => op.trimmed w x (values x)) =
      .object [(v.name, w.trimVariable values v v.name)] := by
    rw [Operation.assigned, Operation.variableNames_of_single hshapes, htrimmed]
    rfl
  rw [hbare] at hparam hargument hblock
  rw [OperationFunction.sends, hparam, hargument, hblock, Operation.argument, hbare, hshapes,
    hassigned]
  exact hvalue

theorem sends_of_misnamed (hf : p.functionOf op = .ok f) (hnamed : op.WellNamed)
    (hmisnamed : op.Misnamed) (w : World) (values : String → Datum) :
    f.sends op w values = none := by
  obtain ⟨v, hbare, hname⟩ := hmisnamed
  obtain ⟨name, hparam, hargument, hblock⟩ := block_of_functionOf hf
  obtain ⟨hshapes, -, -⟩ := Operation.convention_eq_bare_iff.1 hbare
  obtain ⟨hisName, htype⟩ := hnamed.variableShape (v := v) (by rw [hshapes]; simp)
  rw [hbare] at hparam hargument hblock
  rw [OperationFunction.sends, hparam, hargument, hblock, hshapes]
  rcases hname with hword | ⟨harray, hlist, htrimmed⟩
  · exact valueAfter_reserved hisName hword w _ _
  · exact valueAfter_array harray htype htrimmed hlist w _ _

end Project

/-- What holds of the variables that a function sends. -/
structure SentVariableLaws (p : Project) (op : Operation) (f : OperationFunction) : Prop where
  /-- Every variable is sent, with its value trimmed by each of its declarations. -/
  sent : ¬ op.Misnamed → ∀ w values,
    f.sends op w values = some (op.assigned fun x => op.trimmed w x (values x))
  /-- A parameter with a name that does not allow it makes the function fail for all values. -/
  fails : op.Misnamed → ∀ w values, f.sends op w values = none
  /-- Input types that values are trimmed by have shapes, and no other types have. -/
  shaped : ∀ shapes, InputShapeMap.ofSchema p.schema = .ok shapes →
    ∀ v ∈ op.variableDefinitions, v.type.innermost ∉ Schema.builtinScalars →
      (v.type.innermost ∈ shapes.keys ↔ p.schema.category? v.type.innermost = some .input)

theorem sent_variables_are_trimmed (p : Project) (texts recorded : List String) (op : Operation)
    (f : OperationFunction) (hparse : DocumentSet.parse texts = .ok p.documents)
    (hop : op ∈ p.documents.operations)
    (hf : ((p.function op).run.run recorded).1 = .ok f) : SentVariableLaws p op f := by
  rw [p.function_gives op recorded] at hf
  have hnamed := Operation.wellNamed_of_parse hparse hop
  refine ⟨fun hmisnamed w values => ?_, fun hmisnamed w values => ?_, ?_⟩
  · cases hconvention : op.convention with
    | bag => exact Project.sends_of_bag hf hnamed hconvention w values
    | bare v =>
      refine Project.sends_of_bare hf hnamed hconvention (fun hword => ?_) ?_ w values
      · exact hmisnamed ⟨v, hconvention, .inl hword⟩
      · intro htrimmed hlist hname
        exact hmisnamed ⟨v, hconvention, .inr ⟨hname, hlist, htrimmed⟩⟩
  · exact Project.sends_of_misnamed hf hnamed hmisnamed w values
  · intro shapes hshapes v _ _
    exact Schema.mem_keys_iff hshapes

/-- A list of filters is trimmed filter by filter, whether it is the parameter or, as its name is
that of a local, a member of the parameter. -/
theorem sent_variables_are_trimmed_of_filters :
    (∃ f, (((filterProject "filters").function (filterSearch "filters")).run.run []).1 = .ok f ∧
      f.paramName = "filters" ∧
      SentVariableLaws (filterProject "filters") (filterSearch "filters") f ∧
      ∀ w a b, f.sends (filterSearch "filters") w (fun _ => .array [a, b]) =
        some (.object [("filters", .array [w.trimInput a "Filter" w.inputTypeInfoMap,
          w.trimInput b "Filter" w.inputTypeInfoMap])])) ∧
    ∃ f, (((filterProject "api").function (filterSearch "api")).run.run []).1 = .ok f ∧
      f.paramName = "vars" ∧
      SentVariableLaws (filterProject "api") (filterSearch "api") f ∧
      ∀ w a b, f.sends (filterSearch "api") w (fun _ => .array [a, b]) =
        some (.object [("api", .array [w.trimInput a "Filter" w.inputTypeInfoMap,
          w.trimInput b "Filter" w.inputTypeInfoMap])]) := by
  constructor
  · have hparse : DocumentSet.parse (filterTexts "filters") =
        .ok (filterProject "filters").documents := by cbv
    have hlaws f hf := sent_variables_are_trimmed _ _ [] _ f hparse (.head _) hf
    refine ⟨_, rfl, rfl, hlaws _ rfl, fun w a b => (hlaws _ rfl).sent ?_ w _⟩
    rintro ⟨v, hbare, hname⟩
    obtain rfl : filterShape "filters" = v := Convention.bare.inj hbare
    revert hname
    decide
  · have hparse : DocumentSet.parse (filterTexts "api") =
        .ok (filterProject "api").documents := by cbv
    have hlaws f hf := sent_variables_are_trimmed _ _ [] _ f hparse (.head _) hf
    refine ⟨_, rfl, rfl, hlaws _ rfl, fun w a b => (hlaws _ rfl).sent ?_ w _⟩
    rintro ⟨v, hbare, -⟩
    cases hbare

theorem sends_of_misnamed_filters {parameter : String} {f : OperationFunction}
    (hparse : DocumentSet.parse (filterTexts parameter) = .ok (filterProject parameter).documents)
    (hf : (filterProject parameter).functionOf (filterSearch parameter) = .ok f)
    (hbare : (filterSearch parameter).convention = .bare (filterShape parameter))
    (hname : parameter ∈ reservedWords ∨ parameter = "Array") (w : World)
    (values : String → Datum) : f.sends (filterSearch parameter) w values = none := by
  have hnamed := Operation.wellNamed_of_parse hparse (.head _)
  refine Project.sends_of_misnamed hf hnamed ⟨_, hbare, ?_⟩ w values
  exact hname.imp id fun hname => ⟨hname, rfl, rfl⟩

/-- Parameters that make their functions fail: `Array` hides the global of that name, and `in` is
a reserved word. -/
theorem misnamed_parameter_fails :
    (DocumentSet.parse (filterTexts "Array") = .ok (filterProject "Array").documents ∧
      ∃ f, (((filterProject "Array").function (filterSearch "Array")).run.run []).1 = .ok f ∧
        f.paramName = "Array" ∧ ∀ w values, f.sends (filterSearch "Array") w values = none) ∧
    (DocumentSet.parse (filterTexts "in") = .ok (filterProject "in").documents ∧
      ∃ f, (((filterProject "in").function (filterSearch "in")).run.run []).1 = .ok f ∧
        f.paramName = "in" ∧ ∀ w values, f.sends (filterSearch "in") w values = none) := by
  constructor
  · have hparse : DocumentSet.parse (filterTexts "Array") =
        .ok (filterProject "Array").documents := by cbv
    have hfails := sends_of_misnamed_filters hparse rfl (by decide) (.inr rfl)
    exact ⟨hparse, _, rfl, rfl, hfails⟩
  · have hparse : DocumentSet.parse (filterTexts "in") =
        .ok (filterProject "in").documents := by cbv
    have hfails := sends_of_misnamed_filters hparse rfl (by decide) (.inl (by decide))
    exact ⟨hparse, _, rfl, rfl, hfails⟩

end TypedClient
