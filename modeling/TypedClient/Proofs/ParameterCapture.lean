import TypedClient.Proofs.DocumentLiterals
import TypedClient.Proofs.Failures
import TypedClient.Proofs.Words

/-!
# Bare parameters

A bare parameter has the name of a variable, and that name must not be one that the body of the
function uses for something else. The names that every body uses are reserved. Two kinds of names
are not: `Array`, which the trimming of lists uses, and the constants of the fragments. The main
statement says exactly when a bare parameter captures a name of the body.

What a body uses is read off its text: `Project.usesIn` lists its words with what they stand for,
and `Project.TakesBare.bodyWords_body` states that these are the words of the text.
-/

namespace TypedClient

open Text Text.Words

/-! ## What a body uses -/

/-- What a word of a body stands for. -/
inductive Use where
  /-- A word of the language. -/
  | keyword (word : String)
  | parameter
  /-- The element at hand of a list, bound where it is used. -/
  | item
  /-- Something that the body declares, or that it finds outside of the function. -/
  | name (n : String)
deriving DecidableEq

def Use.word (parameter : String) : Use → String
  | keyword word => word
  | .parameter => parameter
  | item => "item"
  | name n => n

/-- The words for the uses, given the name of the parameter. -/
def useWords (parameter : String) (us : List Use) : List (List Char) :=
  us.map fun u => (u.word parameter).toList

theorem useWords_append (parameter : String) (us vs : List Use) :
    useWords parameter (us ++ vs) = useWords parameter us ++ useWords parameter vs :=
  List.map_append

/-- The uses in a statement that trims the parameter. -/
def TrimStatement.uses : TrimStatement → List Use
  | items .. =>
    [.keyword "if", .name "Array", .parameter, .parameter, .parameter, .item, .name "trimInput",
      .item, .name "inputTypeInfoMap"]
  | whole .. =>
    [.keyword "if", .parameter, .keyword "null", .parameter, .name "trimInput", .parameter,
      .name "inputTypeInfoMap"]

def documentUses (kind : OperationKind) : List Use :=
  [.keyword "const", .name kind.keyword, .name "gql"]

def callUses (kind : OperationKind) : List Use :=
  [.keyword "const", .name "response", .keyword "await", .name "api", .name kind.keyword,
    .parameter]

def unwrapUses (unwraps : Bool) : List Use :=
  if unwraps then [.keyword "if", .name "response", .name "response", .name "response"] else []

def returnUses : List Use :=
  [.keyword "return", .name "GraphQLResponse", .name "response"]

/-- The uses in the body of the function `f` of `op`, which takes `v` bare. -/
def Project.usesIn (p : Project) (op : Operation) (v : VariableShape) (f : OperationFunction) :
    List Use :=
  (TrimStatement.ofVariables (.bare v) [v]).flatMap TrimStatement.uses ++
    documentUses op.kind ++
    (fragmentClosure p.documents op.selections).map (fun n => .name (fragmentDocName n)) ++
    callUses op.kind ++
    unwrapUses f.dataTransformBlock.isSome ++
    returnUses

/-! ## Indented lines -/

theorem indented_lines {ls : List String} (hne : ∀ l ∈ ls, l ≠ "")
    (hinline : ∀ l ∈ ls, l.toList.all isInline = true) (pad : String) :
    indented pad (String.join (ls.map (· ++ "\n"))) =
      String.join (ls.map (pad ++ · ++ "\n")) := by
  have htext : (String.join (ls.map (· ++ "\n"))).toList =
      (ls.map String.toList).flatMap (· ++ ['\n']) := by
    rw [String.toList_join, List.flatMap_map, List.flatMap_map]
    simp
  rw [← String.toList_inj, toList_indented, htext, indent_lines, String.toList_join]
  · rw [List.flatMap_map, List.flatMap_map]
    simp
  · simpa using hne
  · simpa using hinline

theorem indented_line {line : String} (hne : line ≠ "") (hinline : line.toList.all isInline = true)
    (pad : String) : indented pad (line ++ "\n") = pad ++ line ++ "\n" := by
  have hline : ∀ l ∈ [line], l ≠ "" := by simpa using hne
  have hall : ∀ l ∈ [line], l.toList.all isInline = true := by simpa using hinline
  simpa using indented_lines hline hall pad

theorem all_isInline_of_isName {n : String} (h : isName n = true) :
    n.toList.all isInline = true := by
  rw [List.all_eq_true]
  intro c hc
  rw [isInline_iff]
  constructor
  · rintro rfl
    exact not_mem_of_isName h (by decide) hc
  · rintro rfl
    exact not_mem_of_isName h (by decide) hc

/-- Lines of code, indented. -/
theorem scans_lines {ls : List String} {founds : List (List (List Char))}
    (h : List.Forall₂ (Scans · .code .code ·) ls founds) :
    Scans (String.join (ls.map ("  " ++ · ++ "\n"))) .code .code founds.flatten := by
  induction h with
  | nil => exact scans_empty .code
  | cons hline _ ih =>
    have hline := (scans_pad.append hline).append scans_feed
    rw [List.nil_append, List.append_nil] at hline
    rw [List.map_cons, String.join_cons, List.flatten_cons]
    exact hline.append ih

/-! ## Trimming -/

namespace TrimStatement

/-- The lines of a statement. -/
def lines : TrimStatement → List String
  | items target typeName =>
    ["if (Array.isArray(" ++ target ++ ")) \x7b",
      "  " ++ target ++ " = " ++ target ++ ".map(item => trimInput(item, \"" ++ typeName ++
        "\", inputTypeInfoMap))",
      "\x7d"]
  | whole target typeName =>
    ["if (" ++ target ++ " != null) \x7b",
      "  " ++ target ++ " = trimInput(" ++ target ++ ", \"" ++ typeName ++ "\", inputTypeInfoMap)",
      "\x7d"]

theorem render_eq_join (s : TrimStatement) : s.render = String.join (s.lines.map (· ++ "\n")) := by
  cases s with
  | items target typeName =>
    have hopening : ")) \x7b\n  " = ")) \x7b" ++ ("\n" ++ "  ") := rfl
    have hclosing : "\", inputTypeInfoMap))\n\x7d\n" =
      "\", inputTypeInfoMap))" ++ ("\n" ++ ("\x7d" ++ "\n")) := rfl
    unfold render lines
    dsimp only
    rw [hopening, hclosing]
    simp only [List.map_cons, List.map_nil, String.join_cons, String.join_nil, String.append_assoc,
      String.append_empty]
  | whole target typeName =>
    have hopening : " != null) \x7b\n  " = " != null) \x7b" ++ ("\n" ++ "  ") := rfl
    have hclosing : "\", inputTypeInfoMap)\n\x7d\n" =
      "\", inputTypeInfoMap)" ++ ("\n" ++ ("\x7d" ++ "\n")) := rfl
    unfold render lines
    dsimp only
    rw [hopening, hclosing]
    simp only [List.map_cons, List.map_nil, String.join_cons, String.join_nil, String.append_assoc,
      String.append_empty]

/-- The expression that a statement trims. -/
def target : TrimStatement → String
  | items target _ | whole target _ => target

/-- The type that a statement trims by. -/
def typeName : TrimStatement → String
  | items _ typeName | whole _ typeName => typeName

theorem names_of_ofVariable {v : VariableShape} {s : TrimStatement}
    (h : ofVariable (.bare v) v = some s) : s.target = v.name ∧ s.typeName = v.typeName := by
  unfold ofVariable at h
  split at h
  · cases h
  · split at h
    · cases h
      exact ⟨rfl, rfl⟩
    · cases h
      exact ⟨rfl, rfl⟩

theorem lines_inline {s : TrimStatement} (htarget : isName s.target = true)
    (htype : isName s.typeName = true) : s.lines.all (·.toList.all isInline) = true := by
  have htarget := all_isInline_of_isName htarget
  have htype := all_isInline_of_isName htype
  cases s with
  | items t n | whole t n =>
    simp only [lines, List.all_cons, List.all_nil, String.toList_append, List.all_append, target,
      typeName] at htarget htype ⊢
    rw [htarget, htype]
    rfl

theorem indented_render {s : TrimStatement} (htarget : isName s.target = true)
    (htype : isName s.typeName = true) (pad : String) :
    indented pad s.render = String.join (s.lines.map (pad ++ · ++ "\n")) := by
  have hne : ∀ l ∈ s.lines, l ≠ "" := by
    cases s <;> simp [lines]
  have hinline : ∀ l ∈ s.lines, l.toList.all isInline = true :=
    List.all_eq_true.1 (lines_inline htarget htype)
  rw [render_eq_join, indented_lines hne hinline]

theorem scans_indented (s : TrimStatement) (htarget : isName s.target = true)
    (htype : isName s.typeName = true) :
    Scans (indented "  " s.render) .code .code (useWords s.target s.uses) := by
  rw [indented_render htarget htype]
  have hclosing : Scans "\x7d" .code .code [] := scans_literal (by decide) fun _ => rfl
  cases s with
  | items t n =>
    have hif : Scans "if (Array.isArray(" .code .code ["if".toList, "Array".toList] :=
      scans_literal (by decide) fun _ => rfl
    have hthen : Scans ")) \x7b" (.word t.toList) .code [t.toList] :=
      scans_literal (by decide) fun _ => rfl
    have hassign : Scans " = " (.word t.toList) .code [t.toList] :=
      scans_literal (by decide) fun _ => rfl
    have hmap : Scans ".map(item => trimInput(item, \"" (.word t.toList) .quoted
        [t.toList, "item".toList, "trimInput".toList, "item".toList] :=
      scans_literal (by decide) fun _ => rfl
    have hinfo : Scans "\", inputTypeInfoMap))" .quoted .code ["inputTypeInfoMap".toList] :=
      scans_literal (by decide) fun _ => rfl
    have hcondition := scans_around htarget hif hthen
    have hmapped := scans_around htarget (scans_around htarget scans_pad hassign) hmap
    have hassignment := (hmapped.append (scans_quoted_name htype)).append hinfo
    exact scans_lines
      (.cons hcondition (.cons hassignment (.cons hclosing .nil)))
  | whole t n =>
    have hif : Scans "if (" .code .code ["if".toList] := scans_literal (by decide) fun _ => rfl
    have hthen : Scans " != null) \x7b" (.word t.toList) .code [t.toList, "null".toList] :=
      scans_literal (by decide) fun _ => rfl
    have hassign : Scans " = trimInput(" (.word t.toList) .code [t.toList, "trimInput".toList] :=
      scans_literal (by decide) fun _ => rfl
    have hcomma : Scans ", \"" (.word t.toList) .quoted [t.toList] :=
      scans_literal (by decide) fun _ => rfl
    have hinfo : Scans "\", inputTypeInfoMap)" .quoted .code ["inputTypeInfoMap".toList] :=
      scans_literal (by decide) fun _ => rfl
    have hcondition := scans_around htarget hif hthen
    have hcall := scans_around htarget (scans_around htarget scans_pad hassign) hcomma
    have hassignment := (hcall.append (scans_quoted_name htype)).append hinfo
    exact scans_lines (.cons hcondition (.cons hassignment (.cons hclosing .nil)))

theorem render_ne_empty (s : TrimStatement) : s.render ≠ "" := by
  rw [render_eq_join, ne_eq, ← String.toList_inj, String.toList_join]
  cases s <;> simp [lines]

end TrimStatement

/-! ## Functions with a bare parameter -/

theorem Operation.convention_eq_bare_iff {op : Operation} {v : VariableShape} :
    op.convention = .bare v ↔
      op.variableShapes = [v] ∧ op.kind ≠ .subscription ∧ v.name ∉ Convention.reservedLocals := by
  unfold Operation.convention Convention.ofVariables
  constructor
  · intro h
    split at h
    · split at h
      · rename_i hshapes hbare
        cases h
        exact ⟨hshapes, hbare⟩
      · cases h
    · cases h
  · rintro ⟨hshapes, hbare⟩
    rw [hshapes]
    exact if_pos hbare

/-- The statement that takes a field out of the response. -/
def unwrapStatement (field : String) : String :=
  "if (response.data) response.data = response.data." ++ field

theorem indented_unwrapStatement {field : String} (h : isName field = true) (pad : String) :
    indented pad (unwrapStatement field ++ "\n") = pad ++ unwrapStatement field ++ "\n" := by
  unfold unwrapStatement
  refine indented_line (by simp) ?_ pad
  rw [String.toList_append, List.all_append, all_isInline_of_isName h]
  rfl

namespace Project

/-- The parts of a function that takes `v` bare, as far as its body depends on them. -/
structure TakesBare (p : Project) (op : Operation) (v : VariableShape) (f : OperationFunction) :
    Prop where
  kind : f.kind = op.kind
  paramName : f.paramName = v.name
  trim : f.trimInputsBlock = TrimStatement.renderAll (TrimStatement.ofVariables (.bare v) [v])
  document : f.gqlBlock = gqlBlock (fragmentClosure p.documents op.selections) op
  call : f.callArguments = op.kind.keyword ++ ", " ++ ("\x7b " ++ v.name ++ " \x7d")
  unwrap : ∀ block ∈ f.dataTransformBlock, ∃ head below, op.selections = [.field head below] ∧
    block = unwrapStatement head.responseName ++ "\n"

/-- A response is unwrapped by the only field that was selected. -/
theorem unwraps_single_field {p : Project} {name : String} {kind : OperationKind}
    {selections : List Selection} {result : Option String × Option String}
    (h : p.resultOf name kind selections = .ok result) {block : String}
    (hblock : block ∈ result.2) :
    ∃ head below, selections = [.field head below] ∧
      block = unwrapStatement head.responseName ++ "\n" := by
  unfold resultOf at h
  split at h
  · obtain rfl := Except.ok.inj h
    cases hblock
  · rename_i head hhead
    obtain ⟨-, ⟨below, hselections⟩, -⟩ := singleField?_eq_some_iff.1 hhead
    obtain ⟨flat, -, rfl⟩ := map_eq_ok_iff.1 h
    refine ⟨head, below, hselections, ?_⟩
    unfold singleFieldResult at hblock
    split at hblock
    · cases hblock
    · exact (Option.some.inj hblock).symm

theorem takesBare_of_functionOf {p : Project} {op : Operation} {v : VariableShape}
    {f : OperationFunction} (h : p.functionOf op = .ok f) (hbare : op.convention = .bare v) :
    p.TakesBare op v f := by
  obtain ⟨hshapes, -, -⟩ := Operation.convention_eq_bare_iff.1 hbare
  unfold functionOf at h
  split at h
  · cases h
  · rename_i name _
    obtain ⟨result, hresult, rfl⟩ := map_eq_ok_iff.1 h
    have hparameter : p.parameterOf name op.kind op.convention =
        p.parameterOf name op.kind (.bare v) := by rw [hbare]
    refine ⟨rfl, ?_, ?_, rfl, ?_, fun block hblock => unwraps_single_field hresult hblock⟩
    · exact congrArg Parameter.name hparameter
    · rw [functionRecord, hshapes, hbare]
    · have hinputs : (p.functionRecord op name result).hasInputs = true := by
        rw [functionRecord, hshapes]
        rfl
      rw [OperationFunction.callArguments, if_pos hinputs]
      exact congrArg (op.kind.keyword ++ ", " ++ ·) (congrArg Parameter.argument hparameter)

end Project

/-! ## The text of a body -/

namespace OperationFunction

/-- What stands before the body of a request. -/
def heading (f : OperationFunction) : String :=
  "export async function " ++ f.functionName ++ " (" ++ f.parameter ++ ") \x7b\n"

/-- The type of the data, as an argument of the response's type. -/
def typeArgument (f : OperationFunction) : String :=
  match f.resultType with
  | some type => "<" ++ type ++ ">"
  | none => ""

def unwrapText (f : OperationFunction) : String :=
  match f.dataTransformBlock with
  | some block => indented "  " block
  | none => ""

/-- The body of a request, with a type argument for the response. -/
def body (f : OperationFunction) (typeArgument : String) : String :=
  f.trimText ++ f.documentText ++
    "  const response = await api.run(" ++ f.callArguments ++ ")\n" ++
    f.unwrapText ++
    "  return <GraphQLResponse" ++ typeArgument ++ ">response\n\x7d\n"

theorem renderRequest_eq (f : OperationFunction) :
    f.renderRequest = f.heading ++ f.body f.typeArgument := by
  have hrequest : f.renderRequest = f.heading ++ f.trimText ++ f.documentText ++
      "  const response = await api.run(" ++ f.callArguments ++ ")\n" ++ f.unwrapText ++
      (match f.resultType with
        | some type => "  return <GraphQLResponse<" ++ type ++ ">>response\n"
        | none => "  return <GraphQLResponse>response\n") ++ "\x7d\n" := rfl
  have hend : ">response\n\x7d\n" = ">response\n" ++ "\x7d\n" := rfl
  rw [hrequest]
  unfold body typeArgument
  rw [hend]
  cases f.resultType with
  | none =>
    have hreturn : "  return <GraphQLResponse>response\n" =
      "  return <GraphQLResponse" ++ ">response\n" := rfl
    dsimp only
    rw [hreturn]
    simp only [String.append_assoc, String.append_empty]
  | some type =>
    have hreturn : "  return <GraphQLResponse<" = "  return <GraphQLResponse" ++ "<" := rfl
    have hclosing : ">>response\n" = ">" ++ ">response\n" := rfl
    dsimp only
    rw [hreturn, hclosing]
    simp only [String.append_assoc]

/-- What stands behind the document, but for the type argument. -/
def afterDocument (f : OperationFunction) : String :=
  "\n  const response = await api.run(" ++ f.callArguments ++ ")\n" ++ f.unwrapText ++
    "  return <GraphQLResponse>response\n\x7d\n"

theorem body_eq (f : OperationFunction) :
    f.body "" = f.trimText ++ ("  const " ++ f.kind.keyword ++ " = gql") ++ "`" ++ f.literal ++
      "`" ++ f.afterDocument := by
  have hgql : " = gql" = " = " ++ "gql" := rfl
  have hopening : "gql`" = "gql" ++ "`" := rfl
  have hclosing : "`\n" = "`" ++ "\n" := rfl
  have hcall : "\n  const response = await api.run(" =
    "\n" ++ "  const response = await api.run(" := rfl
  have hreturn : "  return <GraphQLResponse>response\n\x7d\n" =
    "  return <GraphQLResponse" ++ ">response\n\x7d\n" := rfl
  unfold body afterDocument
  rw [documentText_eq, hgql, hopening, hclosing, hcall, hreturn]
  simp only [String.append_assoc, String.append_empty]

end OperationFunction

/-! ## The words of a body -/

theorem OperationKind.isName_keyword (kind : OperationKind) : isName kind.keyword = true := by
  cases kind <;> decide

theorem Operation.WellNamed.variableShape {op : Operation} (h : op.WellNamed) {v : VariableShape}
    (hv : v ∈ op.variableShapes) : isName v.name = true ∧ isName v.typeName = true := by
  obtain ⟨definition, hdefinition, rfl⟩ := List.mem_map.1 hv
  have hnamed := h.vars definition hdefinition
  rw [VariableShape.describe_eq]
  exact ⟨hnamed.name, hnamed.type⟩

namespace Project.TakesBare

variable {p : Project} {op : Operation} {v : VariableShape} {f : OperationFunction}

theorem scans_trimText (hf : p.TakesBare op v f) (hname : isName v.name = true)
    (htype : isName v.typeName = true) :
    Scans f.trimText .code .code
      (useWords v.name ((TrimStatement.ofVariables (.bare v) [v]).flatMap TrimStatement.uses)) := by
  unfold OperationFunction.trimText
  rw [hf.trim, TrimStatement.ofVariables, List.filterMap_cons, List.filterMap_nil]
  cases hs : TrimStatement.ofVariable (.bare v) v with
  | none => exact scans_empty .code
  | some s =>
    obtain ⟨htarget, htypeName⟩ := TrimStatement.names_of_ofVariable hs
    have hall : TrimStatement.renderAll [s] = s.render := by
      simp [TrimStatement.renderAll]
    have hempty : s.render.isEmpty = false := by
      simpa using s.render_ne_empty
    have hscans := s.scans_indented (htarget ▸ hname) (htypeName ▸ htype)
    dsimp only
    rw [hall, hempty, List.flatMap_singleton, ← htarget]
    simpa using hscans.append scans_feed

theorem scans_call (hf : p.TakesBare op v f) (hname : isName v.name = true) :
    Scans ("\n  const response = await api.run(" ++ f.callArguments ++ ")\n") .code .code
      (useWords v.name (callUses op.kind)) := by
  have hrun : Scans "\n  const response = await api.run(" .code .code
      ["const".toList, "response".toList, "await".toList, "api".toList] :=
    scans_literal (by decide) fun _ => rfl
  have hcomma : Scans ", \x7b " (.word op.kind.keyword.toList) .code [op.kind.keyword.toList] :=
    scans_literal (by decide) fun _ => rfl
  have hclose : Scans " \x7d)\n" (.word v.name.toList) .code [v.name.toList] :=
    scans_literal (by decide) fun _ => rfl
  have htext : "\n  const response = await api.run(" ++ f.callArguments ++ ")\n" =
      "\n  const response = await api.run(" ++ op.kind.keyword ++ ", \x7b " ++ v.name ++
        " \x7d)\n" := by
    have hcomma : ", \x7b " = ", " ++ "\x7b " := rfl
    have hclose : " \x7d)\n" = " \x7d" ++ ")\n" := rfl
    rw [hf.call, hcomma, hclose]
    simp only [String.append_assoc]
  rw [htext]
  exact scans_around hname (scans_around op.kind.isName_keyword hrun hcomma) hclose

theorem scans_unwrapText (hf : p.TakesBare op v f) (hnamed : op.WellNamed) (parameter : String) :
    Scans f.unwrapText .code .code
      (useWords parameter (unwrapUses f.dataTransformBlock.isSome)) := by
  unfold OperationFunction.unwrapText
  cases hdata : f.dataTransformBlock with
  | none => exact scans_empty .code
  | some block =>
    obtain ⟨head, below, hselections, rfl⟩ := hf.unwrap block hdata
    have hfield : isName head.responseName = true :=
      hnamed.selections (.field head below) (by rw [hselections]; simp)
    have hread : Scans "if (response.data) response.data = response.data." .code .dot
        ["if".toList, "response".toList, "response".toList, "response".toList] :=
      scans_literal (by decide) fun _ => rfl
    have hend : Scans "\n" .member .code [] := scans_literal (by decide) fun _ => rfl
    dsimp only
    rw [indented_unwrapStatement hfield]
    exact (scans_pad.append (hread.append (scans_member_name hfield))).append hend

theorem scans_afterDocument (hf : p.TakesBare op v f) (hnamed : op.WellNamed)
    (hname : isName v.name = true) :
    Scans f.afterDocument .code .code
      (useWords v.name
        (callUses op.kind ++ unwrapUses f.dataTransformBlock.isSome ++ returnUses)) := by
  have hreturn : Scans "  return <GraphQLResponse>response\n\x7d\n" .code .code
      ["return".toList, "GraphQLResponse".toList, "response".toList] :=
    scans_literal (by decide) fun _ => rfl
  rw [useWords_append, useWords_append]
  exact ((hf.scans_call hname).append (hf.scans_unwrapText hnamed v.name)).append hreturn

/-- The words of a body. The argument of the response's type is left out: types have names of their
own. -/
theorem bodyWords_body (hf : p.TakesBare op v f) (hdocuments : p.documents.WellNamed)
    (hnamed : op.WellNamed) (hname : isName v.name = true) (htype : isName v.typeName = true) :
    bodyWords (f.body "") = useWords v.name (p.usesIn op v f) := by
  have hconst : Scans "  const " .code .code ["const".toList] :=
    scans_literal (by decide) fun _ => rfl
  have hgql : Scans " = gql" (.word op.kind.keyword.toList) (.word "gql".toList)
      [op.kind.keyword.toList] :=
    scans_literal (by decide) fun _ => rfl
  -- The reader comes to the literal in the word `gql`, which the backtick ends.
  have hbefore := (hf.scans_trimText hname htype).append
    (scans_around op.kind.isName_keyword hconst hgql)
  have hreads := reads_operation_literal hf.document fun n hn =>
    isName_of_mem_fragmentClosure hdocuments hn
  have hconstants (fragments : List String) : (fragments.map fragmentDocName).map String.toList =
      useWords v.name (fragments.map fun n => .name (fragmentDocName n)) := by
    simp [useWords, Use.word]
  rw [f.body_eq, hf.kind, bodyWords_eq hbefore hreads (hf.scans_afterDocument hnamed hname),
    TemplateLiteral.substitutions_append, TemplateLiteral.substitutions_spaced,
    TemplateLiteral.substitutions_chars, hconstants, usesIn]
  simp only [useWords_append, List.append_assoc, List.append_nil]
  rfl

end Project.TakesBare

/-! ## Capture -/

/-- The names that the bodies of all requests of a kind may use. -/
def commonNames (kind : OperationKind) : List String :=
  [kind.keyword, "response", "api", "gql", "GraphQLResponse", "trimInput", "inputTypeInfoMap"]

theorem commonNames_subset (kind : OperationKind) :
    commonNames kind ⊆ Convention.reservedLocals := by
  cases kind <;> decide

theorem mem_commonNames {kind : OperationKind} {unwraps : Bool} {n : String}
    (h : Use.name n ∈ documentUses kind ++ callUses kind ++ unwrapUses unwraps ++ returnUses) :
    n ∈ commonNames kind := by
  rw [commonNames]
  grind [documentUses, callUses, unwrapUses, returnUses]

theorem name_mem_trimUses {v : VariableShape} (hname : v.name ∉ Convention.reservedLocals) :
    Use.name v.name ∈ (TrimStatement.ofVariables (.bare v) [v]).flatMap TrimStatement.uses ↔
      v.primitive? = none ∧ v.isList = true ∧ v.name = "Array" := by
  have htrim : v.name ≠ "trimInput" := fun h => hname (h ▸ by decide)
  have hinfo : v.name ≠ "inputTypeInfoMap" := fun h => hname (h ▸ by decide)
  rw [TrimStatement.ofVariables, List.filterMap_cons, List.filterMap_nil, TrimStatement.ofVariable]
  cases v.primitive? with
  | some primitive => simp
  | none =>
    cases v.isList with
    | true => simp [TrimStatement.uses, htrim, hinfo]
    | false => simp [TrimStatement.uses, htrim, hinfo]

/-- A name that is not reserved is used for `Array` and for the constants of fragments only. -/
theorem Project.name_mem_usesIn {p : Project} {op : Operation} {v : VariableShape}
    {f : OperationFunction} (hname : v.name ∉ Convention.reservedLocals) :
    Use.name v.name ∈ p.usesIn op v f ↔
      (v.primitive? = none ∧ v.isList = true ∧ v.name = "Array") ∨
        ∃ n ∈ fragmentClosure p.documents op.selections, fragmentDocName n = v.name := by
  have hfixed : Use.name v.name ∉ documentUses op.kind ++ callUses op.kind ++
      unwrapUses f.dataTransformBlock.isSome ++ returnUses :=
    fun h => hname (commonNames_subset op.kind (mem_commonNames h))
  simp only [List.mem_append, not_or] at hfixed
  obtain ⟨⟨⟨hdocument, hcall⟩, hunwrap⟩, hreturn⟩ := hfixed
  rw [← name_mem_trimUses hname]
  simp [usesIn, hdocument, hcall, hunwrap, hreturn]

/-- What holds of a function that takes its only variable bare. -/
structure BareParameterLaws (p : Project) (op : Operation) (v : VariableShape)
    (f : OperationFunction) : Prop where
  name : f.paramName = v.name
  /-- The body is the text behind the head of the function. -/
  text : f.render = f.heading ++ f.body f.typeArgument
  /-- Its words are those of the uses, but for the type of the data. -/
  words : bodyWords (f.body "") = useWords f.paramName (p.usesIn op v f)
  /-- The parameter is none of the names that bodies have in common. -/
  reserved : f.paramName ∉ commonNames op.kind
  /-- It captures a name of its body in two cases: it is `Array` and a list to be trimmed, or the
  constant of a fragment that the document needs. -/
  captures_iff : Use.name f.paramName ∈ p.usesIn op v f ↔
    (v.primitive? = none ∧ v.isList = true ∧ f.paramName = "Array") ∨
      ∃ n ∈ fragmentClosure p.documents op.selections, fragmentDocName n = f.paramName

theorem bare_parameter_laws (p : Project) (texts recorded : List String) (op : Operation)
    (v : VariableShape) (f : OperationFunction)
    (hparse : DocumentSet.parse texts = .ok p.documents) (hop : op ∈ p.documents.operations)
    (hbare : op.convention = .bare v) (hf : ((p.function op).run.run recorded).1 = .ok f) :
    BareParameterLaws p op v f := by
  obtain ⟨hshapes, hkind, hreserved⟩ := Operation.convention_eq_bare_iff.1 hbare
  rw [p.function_gives op recorded] at hf
  have hf := Project.takesBare_of_functionOf hf hbare
  have hdocuments := DocumentSet.wellNamed_of_parse hparse
  have hnamed := Operation.wellNamed_of_parse hparse hop
  obtain ⟨hname, htype⟩ := hnamed.variableShape (v := v) (by rw [hshapes]; simp)
  refine ⟨hf.paramName, ?_, ?_, ?_, ?_⟩
  · have hrequest : f.render = f.renderRequest := by
      unfold OperationFunction.render
      rw [hf.kind]
      split
      · contradiction
      · rfl
      · rfl
    rw [hrequest, f.renderRequest_eq]
  · rw [hf.paramName]
    exact hf.bodyWords_body hdocuments hnamed hname htype
  · rw [hf.paramName]
    exact fun h => hreserved (commonNames_subset op.kind h)
  · rw [hf.paramName]
    exact Project.name_mem_usesIn hreserved

/-- A search by a list of filters, the variable of which has the given name. -/
def filterSearch (parameter : String) : Operation :=
  .headed .query (some "search") [⟨parameter, .list (.nonNull (.named "Filter")), none⟩] []
    [.field ⟨none, "users", [("filters", .variable parameter)], []⟩ [.spread "card" []]]

def filterShape (parameter : String) : VariableShape :=
  { name := parameter, typeName := "Filter", isList := true }

def filterProject (parameter : String) : Project where
  schema := .ofDocuments [[
    .type ⟨none, "Filter", [], .input [⟨none, "name", .named "String", none, []⟩]⟩,
    .type ⟨none, "User", [], .object [] [⟨none, "id", [], .named "ID", []⟩]⟩,
    .type ⟨none, "Query", [], .object [] [
      ⟨none, "users", [⟨none, "filters", .list (.nonNull (.named "Filter")), none, []⟩],
        .nonNull (.list (.nonNull (.named "User"))), []⟩]⟩]]
  documents := { definitions := [
    .operation (filterSearch parameter),
    .fragment ⟨"card", "User", [], [.field ⟨none, "id", [], []⟩ []]⟩] }
  settings := {}

def filterTexts (parameter : String) : List String :=
  ["query search($" ++ parameter ++ ": [Filter!]) \x7b users(filters: $" ++ parameter ++
    ") \x7b ...card \x7d \x7d fragment card on User \x7b id \x7d"]

theorem fragmentClosure_filterProject (parameter : String) :
    fragmentClosure (filterProject parameter).documents (filterSearch parameter).selections =
      ["card"] := by
  cbv

theorem bare_parameter_laws_of_filters :
    ∃ f, (((filterProject "filters").function (filterSearch "filters")).run.run []).1 = .ok f ∧
      BareParameterLaws (filterProject "filters") (filterSearch "filters")
        (filterShape "filters") f ∧
      Use.name f.paramName ∉
        (filterProject "filters").usesIn (filterSearch "filters") (filterShape "filters") f := by
  have hparse : DocumentSet.parse (filterTexts "filters") =
      .ok (filterProject "filters").documents := by cbv
  have hbare : (filterSearch "filters").convention = .bare (filterShape "filters") := by decide
  have hlaws f hf := bare_parameter_laws _ _ [] _ _ f hparse (.head _) hbare hf
  refine ⟨_, rfl, hlaws _ rfl, fun h => ?_⟩
  rcases (hlaws _ rfl).captures_iff.1 h with ⟨-, -, hname⟩ | ⟨n, hn, hname⟩
  · exact absurd hname (by decide)
  · rw [fragmentClosure_filterProject, List.mem_singleton] at hn
    subst hn
    exact absurd hname (by decide +kernel)

/-- Names that are not reserved and still captured: a list that is called `Array` is asked whether
it is an array, and a variable can be called like the constant of a fragment. -/
theorem bare_parameter_captures :
    (DocumentSet.parse (filterTexts "Array") = .ok (filterProject "Array").documents ∧
      (filterSearch "Array").convention = .bare (filterShape "Array") ∧
      ∃ f, (((filterProject "Array").function (filterSearch "Array")).run.run []).1 = .ok f ∧
        f.trimInputsBlock = "if (Array.isArray(Array)) \x7b\n  Array = Array.map(" ++
          "item => trimInput(item, \"Filter\", inputTypeInfoMap))\n\x7d\n" ∧
        Use.name f.paramName ∈
          (filterProject "Array").usesIn (filterSearch "Array") (filterShape "Array") f) ∧
    (DocumentSet.parse (filterTexts "CardFragmentDoc") =
        .ok (filterProject "CardFragmentDoc").documents ∧
      (filterSearch "CardFragmentDoc").convention = .bare (filterShape "CardFragmentDoc") ∧
      ∃ f, (((filterProject "CardFragmentDoc").function
          (filterSearch "CardFragmentDoc")).run.run []).1 = .ok f ∧
        f.gqlBlock = "$\x7bCardFragmentDoc\x7d\n" ++
          templateText (filterSearch "CardFragmentDoc").print ++ "\n" ∧
        Use.name f.paramName ∈ (filterProject "CardFragmentDoc").usesIn
          (filterSearch "CardFragmentDoc") (filterShape "CardFragmentDoc") f) := by
  refine ⟨⟨by cbv, by decide, _, rfl, ?_, ?_⟩, ⟨by cbv, by decide, _, rfl, ?_, ?_⟩⟩
  · show TrimStatement.renderAll (TrimStatement.ofVariables (.bare (filterShape "Array"))
      [filterShape "Array"]) = _
    decide +kernel
  · exact (Project.name_mem_usesIn (by decide)).2 (.inl ⟨by decide, rfl, rfl⟩)
  · have hline : fragmentLine "card" = "$\x7bCardFragmentDoc\x7d\n" := by decide +kernel
    show gqlBlock (fragmentClosure _ (filterSearch "CardFragmentDoc").selections) _ = _
    rw [fragmentClosure_filterProject, gqlBlock, List.map_singleton, hline, String.join_cons,
      String.join_nil, String.append_empty]
  · refine (Project.name_mem_usesIn (by decide)).2 (.inr ⟨"card", ?_, by decide +kernel⟩)
    rw [fragmentClosure_filterProject]
    exact List.mem_singleton.2 rfl

end TypedClient
