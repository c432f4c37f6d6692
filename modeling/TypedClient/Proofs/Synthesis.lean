import TypedClient.Proofs.FirstFault
import TypedClient.Proofs.ImportNames
import TypedClient.Proofs.Recording

/-!
# Runs of synthesis

A session makes calls for one project, one after another, on one list of recorded names: the record
of an operation's function, its text, or the constant of a fragment. A call that fails does not end
the session. The main statement is that no call can tell what was called before, and that the
imports of a session are those of its calls, each taken alone.
-/

namespace TypedClient

open Recording (Gives gives_pure)

inductive SynthesisCall where
  | info (op : Operation)
  | render (op : Operation)
  | fragment (f : Fragment)

/-- The operation that a call is about. -/
def SynthesisCall.operation? : SynthesisCall → Option Operation
  | .info op | .render op => some op
  | .fragment _ => none

inductive SynthesisAnswer where
  | info (f : OperationFunction)
  | code (text : String)

namespace Project

def call (p : Project) : SynthesisCall → Recording SynthesisAnswer
  | .info op => do return .info (← p.function op)
  | .render op => do return .code (← p.renderOperation op)
  | .fragment f => return .code f.renderConstant

/-- The answers to the calls of a session, and the names recorded at its end. -/
def session (p : Project) :
    List SynthesisCall → List String → List (Except Error SynthesisAnswer) × List String
  | [], recorded => ([], recorded)
  | c :: calls, recorded =>
    let (answer, recorded) := (p.call c).run.run recorded
    let (answers, recorded) := p.session calls recorded
    (answer :: answers, recorded)

/-- What a session that starts with nothing recorded imports in the end. -/
def sessionImports (p : Project) (calls : List SynthesisCall) : List String :=
  importNames (p.session calls []).2

/-- The answer to a call when nothing was called before. -/
def answerAlone (p : Project) (c : SynthesisCall) : Except Error SynthesisAnswer :=
  ((p.call c).run.run []).1

/-- The names that a call records when nothing was called before. -/
def namesAlone (p : Project) (c : SynthesisCall) : List String :=
  ((p.call c).run.run []).2

/-! ## One call -/

/-- The names that a call records, read off the operation. -/
def callNames (p : Project) : SynthesisCall → List String
  | .info op | .render op => p.functionNames op
  | .fragment _ => []

/-- The answer to a call, read off the operation. -/
def answerOf (p : Project) : SynthesisCall → Except Error SynthesisAnswer
  | .info op => (p.functionOf op).map .info
  | .render op => ((p.functionOf op).map OperationFunction.render).map .code
  | .fragment f => .ok (.code f.renderConstant)

theorem call_gives (p : Project) (c : SynthesisCall) :
    Gives (p.call c) (p.answerOf c) (p.callNames c) := by
  cases c with
  | info op => exact (p.function_gives op).bind_pure SynthesisAnswer.info
  | render op => exact (p.renderOperation_gives op).bind_pure SynthesisAnswer.code
  | fragment f => exact gives_pure _

theorem answerAlone_eq (p : Project) (c : SynthesisCall) : p.answerAlone c = p.answerOf c := by
  rw [answerAlone, p.call_gives c []]

theorem namesAlone_eq (p : Project) (c : SynthesisCall) : p.namesAlone c = p.callNames c := by
  rw [namesAlone, p.call_gives c [], List.nil_append]

theorem run_call (p : Project) (c : SynthesisCall) (recorded : List String) :
    (p.call c).run.run recorded = (p.answerAlone c, recorded ++ p.namesAlone c) := by
  rw [answerAlone_eq, namesAlone_eq]
  exact p.call_gives c recorded

theorem run_renderOperation (p : Project) (op : Operation) (recorded : List String) :
    (p.renderOperation op).run.run recorded =
      (((p.function op).run.run recorded).1.map OperationFunction.render,
        ((p.function op).run.run recorded).2) := by
  rw [p.renderOperation_gives op recorded, p.function_gives op recorded]

/-- A result that cannot be found records no name. -/
theorem resultNames_of_error {p : Project} {name : String} {kind : OperationKind}
    {selections : List Selection} {e : Error} (h : p.resultOf name kind selections = .error e) :
    p.resultNames name kind selections = [] := by
  unfold resultOf at h
  unfold resultNames
  cases hfield : singleField? kind selections with
  | none =>
    rw [hfield] at h
    cases h
  | some head =>
    rw [hfield] at h
    dsimp only at h ⊢
    cases htype : p.rootFieldType kind head.name with
    | error e' => rfl
    | ok flat =>
      rw [htype] at h
      cases h

/-- A named operation that fails has recorded the type of its parameter, and nothing else. -/
theorem functionNames_of_error {p : Project} {op : Operation} {name : String} {e : Error}
    (hname : op.name? = some name) (h : p.functionOf op = .error e) :
    p.functionNames op = p.parameterNames name op.kind op.convention := by
  unfold functionOf at h
  unfold functionNames
  rw [hname] at h ⊢
  dsimp only at h ⊢
  cases hresult : p.resultOf name op.kind op.selections with
  | ok r =>
    rw [hresult] at h
    cases h
  | error e' => rw [resultNames_of_error hresult, List.append_nil]

theorem functionNames_of_anonymous {p : Project} {op : Operation} (h : op.name? = none) :
    p.functionNames op = [] := by
  rw [functionNames, h]

/-! ## Whole sessions -/

theorem session_eq (p : Project) (calls : List SynthesisCall) (recorded : List String) :
    p.session calls recorded =
      (calls.map p.answerAlone, recorded ++ calls.flatMap p.namesAlone) := by
  induction calls generalizing recorded with
  | nil => simp [session]
  | cons c calls ih =>
    rw [session, run_call]
    dsimp only
    rw [ih]
    simp

theorem sessionImports_eq (p : Project) (calls : List SynthesisCall) :
    p.sessionImports calls = importNames (calls.flatMap p.namesAlone) := by
  rw [sessionImports, session_eq, List.nil_append]

theorem mem_sessionImports {p : Project} {calls : List SynthesisCall} {name : String} :
    name ∈ p.sessionImports calls ↔ ∃ c ∈ calls, name ∈ p.namesAlone c := by
  rw [sessionImports_eq, mem_importNames, List.mem_flatMap]

/-! ## Calls about operations -/

theorem namesAlone_of_operation {p : Project} {c : SynthesisCall} {op : Operation}
    (h : c.operation? = some op) : p.namesAlone c = p.functionNames op := by
  rw [namesAlone_eq]
  cases c with
  | info op' | render op' =>
    cases h
    rfl
  | fragment f => cases h

theorem answerAlone_error_iff {p : Project} {c : SynthesisCall} {op : Operation} {e : Error}
    (h : c.operation? = some op) : p.answerAlone c = .error e ↔ p.functionOf op = .error e := by
  rw [answerAlone_eq]
  cases c with
  | info op' =>
    cases h
    rw [answerOf, map_eq_error_iff]
  | render op' =>
    cases h
    rw [answerOf, map_eq_error_iff, map_eq_error_iff]
  | fragment f => cases h

end Project

/-- What holds of every session of a project, whatever fails in it. -/
structure SessionLaws (p : Project) (calls : List SynthesisCall) : Prop where
  /-- A call answers as it does alone, and appends the names that it records alone. -/
  call_run : ∀ c recorded,
    (p.call c).run.run recorded = (p.answerAlone c, recorded ++ p.namesAlone c)
  answers : (p.session calls []).1 = calls.map p.answerAlone
  /-- The text of an operation is that of its record, and fails as the record does. -/
  render : ∀ op recorded,
    (p.renderOperation op).run.run recorded =
      (((p.function op).run.run recorded).1.map OperationFunction.render,
        ((p.function op).run.run recorded).2)
  increasing : (p.sessionImports calls).Pairwise fun a b => utf8 a < utf8 b
  imports : ∀ name, name ∈ p.sessionImports calls ↔ ∃ c ∈ calls, name ∈ p.namesAlone c
  /-- Calls can change places and can be repeated. -/
  same_calls : ∀ calls', (∀ c, c ∈ calls ↔ c ∈ calls') →
    p.sessionImports calls' = p.sessionImports calls
  grows : ∀ more, (p.sessionImports calls).Sublist (p.sessionImports (calls ++ more))
  fragment : ∀ f, p.namesAlone (.fragment f) = []
  anonymous : ∀ c op, c.operation? = some op → op.name? = none →
    p.answerAlone c = .error (.anonymousOperation op.kind) ∧ p.namesAlone c = []
  /-- A named operation that fails leaves the names of its parameter's type and no other. -/
  failed : ∀ c op name e, c.operation? = some op → op.name? = some name →
    p.answerAlone c = .error e →
      p.namesAlone c = p.parameterNames name op.kind op.convention

theorem session_laws (p : Project) (calls : List SynthesisCall) : SessionLaws p calls where
  call_run := p.run_call
  answers := by rw [p.session_eq]
  render := p.run_renderOperation
  increasing := pairwise_utf8_importNames _
  imports _ := Project.mem_sessionImports
  same_calls calls' h := by
    rw [p.sessionImports_eq, p.sessionImports_eq]
    refine importNames_congr fun name => ?_
    simp only [List.mem_flatMap, h]
  grows more := by
    rw [p.sessionImports_eq, p.sessionImports_eq, List.flatMap_append]
    exact importNames_sublist (List.subset_append_left _ _)
  fragment f := by rw [p.namesAlone_eq, Project.callNames]
  anonymous c op hc hname := by
    constructor
    · rw [Project.answerAlone_error_iff hc, Project.functionOf, hname]
    · rw [Project.namesAlone_of_operation hc, Project.functionNames_of_anonymous hname]
  failed c op name e hc hname he := by
    rw [Project.namesAlone_of_operation hc]
    exact Project.functionNames_of_error hname ((Project.answerAlone_error_iff hc).1 he)

end TypedClient
