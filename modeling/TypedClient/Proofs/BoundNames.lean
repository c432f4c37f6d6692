import Mathlib.Data.List.Infix
import TypedClient.Proofs.ImportedTypes
import TypedClient.Proofs.Words

/-!
# Names that a module binds

A module binds some names whatever it is made from, the name of a function for each operation, and
the name of a constant for each fragment. Functions and constants end in ways that keep them apart
from each other and from the fixed names. So a name is bound twice exactly when two operations have
the same name and kind, or when two fragments have names that differ only in initials.

The names are also read off the text: `boundBy` finds what a statement binds.
-/

namespace TypedClient

open Text Text.Words

/-! ## Endings -/

theorem append_ne_of_endings {a b s t : String} (hst : ¬ s.toList <:+ t.toList)
    (hts : ¬ t.toList <:+ s.toList) : a ++ s ≠ b ++ t := by
  intro h
  have hs : s.toList <:+ (a ++ s).toList := by
    rw [String.toList_append]
    exact List.suffix_append _ _
  have ht : t.toList <:+ (a ++ s).toList := by
    rw [h, String.toList_append]
    exact List.suffix_append _ _
  rcases List.suffix_or_suffix_of_suffix hs ht with h | h
  · exact hst h
  · exact hts h

theorem append_not_mem_of_ending {s : String} {names : List String}
    (h : ∀ n ∈ names, ¬ s.toList <:+ n.toList) (a : String) : a ++ s ∉ names := by
  intro hmem
  refine h _ hmem ?_
  rw [String.toList_append]
  exact List.suffix_append _ _

theorem capitalized_not_suffix {j k : OperationKind} (h : j ≠ k) :
    ¬ j.capitalized.toList <:+ k.capitalized.toList := by
  revert h
  cases j <;> cases k <;> decide

/-- The kind stands at the end of a function's name, so name and kind are both seen there. -/
theorem functionName_eq_iff {a b : String} {j k : OperationKind} :
    functionName a j = functionName b k ↔ a = b ∧ j = k := by
  unfold functionName
  constructor
  · intro h
    by_cases hkind : j = k
    · subst hkind
      exact ⟨(String.append_left_inj _).1 h, rfl⟩
    · refine absurd h (append_ne_of_endings ?_ ?_)
      · exact capitalized_not_suffix hkind
      · exact capitalized_not_suffix (Ne.symm hkind)
  · rintro ⟨rfl, rfl⟩
    rfl

theorem functionName_ne_fragmentDocName (a b : String) (kind : OperationKind) :
    functionName a kind ≠ fragmentDocName b := by
  refine append_ne_of_endings ?_ ?_
  · cases kind <;> decide
  · cases kind <;> decide

theorem fragmentDocName_eq_iff {a b : String} (ha : isName a = true) (hb : isName b = true) :
    fragmentDocName a = fragmentDocName b ↔ SameButInitials a b := by
  unfold fragmentDocName
  rw [String.append_left_inj, pascalCase_eq_iff ha hb]

/-! ## Names from the documents -/

/-- The names that every module binds: the api and what sets it, the input shapes, and the imports
from the runtime. -/
def fixedNames : List String :=
  ["api", "setApi", "initApi", "inputTypeInfoMap", "Api", "ApiOptions", "GraphQLResponse", "gql",
    "trimInput"]

/-- The function of an operation that has a name. -/
def Operation.functionName? (op : Operation) : Option String :=
  op.name?.map (functionName · op.kind)

/-- The names that the module of the documents binds. -/
def DocumentSet.boundNames (d : DocumentSet) : List String :=
  fixedNames ++ (d.operations.filterMap Operation.functionName? ++
    d.fragments.map fun f => fragmentDocName f.name)

/-- The names that the documents give to operations and fragments. -/
def DocumentSet.givenNames (d : DocumentSet) : List String :=
  d.operations.filterMap Operation.name? ++ d.fragments.map Fragment.name

theorem functionName_not_mem_fixedNames (a : String) (kind : OperationKind) :
    functionName a kind ∉ fixedNames :=
  append_not_mem_of_ending (by cases kind <;> decide) a

theorem fragmentDocName_not_mem_fixedNames (a : String) : fragmentDocName a ∉ fixedNames :=
  append_not_mem_of_ending (by decide) (pascalCase a)

namespace DocumentSet

variable {d : DocumentSet}

theorem mem_functionNames {n : String} (h : n ∈ d.operations.filterMap Operation.functionName?) :
    ∃ a kind, n = functionName a kind := by
  obtain ⟨op, -, hop⟩ := List.mem_filterMap.1 h
  obtain ⟨a, -, rfl⟩ := Option.map_eq_some_iff.1 hop
  exact ⟨a, op.kind, rfl⟩

/-- The three parts of the names have nothing in common. -/
theorem nodup_boundNames_iff :
    d.boundNames.Nodup ↔ (d.operations.filterMap Operation.functionName?).Nodup ∧
      (d.fragments.map fun f => fragmentDocName f.name).Nodup := by
  have hfixed : fixedNames.Nodup := by decide
  unfold boundNames
  rw [List.nodup_append, List.nodup_append]
  constructor
  · rintro ⟨-, ⟨hfunctions, hconstants, -⟩, -⟩
    exact ⟨hfunctions, hconstants⟩
  · rintro ⟨hfunctions, hconstants⟩
    refine ⟨hfixed, ⟨hfunctions, hconstants, ?_⟩, ?_⟩
    · intro n hn n' hn'
      obtain ⟨a, kind, rfl⟩ := mem_functionNames hn
      obtain ⟨f, -, rfl⟩ := List.mem_map.1 hn'
      exact functionName_ne_fragmentDocName a f.name kind
    · rintro n hn n' hn' rfl
      rcases List.mem_append.1 hn' with hn' | hn'
      · obtain ⟨a, kind, rfl⟩ := mem_functionNames hn'
        exact functionName_not_mem_fixedNames a kind hn
      · obtain ⟨f, -, rfl⟩ := List.mem_map.1 hn'
        exact fragmentDocName_not_mem_fixedNames f.name hn

theorem nodup_functionNames_iff (h : ∀ op ∈ d.operations, ∃ name, op.name? = some name) :
    (d.operations.filterMap Operation.functionName?).Nodup ↔
      d.operations.Pairwise fun op op' => ¬ (op.name? = op'.name? ∧ op.kind = op'.kind) := by
  unfold List.Nodup
  rw [List.pairwise_filterMap]
  refine List.Pairwise.iff_of_mem fun {op op'} hop hop' => ?_
  obtain ⟨name, hname⟩ := h op hop
  obtain ⟨name', hname'⟩ := h op' hop'
  simp [Operation.functionName?, hname, hname', functionName_eq_iff]

theorem nodup_constantNames_iff (h : ∀ f ∈ d.fragments, isName f.name = true) :
    (d.fragments.map fun f => fragmentDocName f.name).Nodup ↔
      d.fragments.Pairwise fun f g => ¬ SameButInitials f.name g.name := by
  unfold List.Nodup
  rw [List.pairwise_map]
  refine List.Pairwise.iff_of_mem fun {f g} hf hg => ?_
  rw [ne_eq, fragmentDocName_eq_iff (h f hf) (h g hg)]

end DocumentSet

/-! ## Names in the text -/

/-- The words that a declaration starts with. -/
def declarationWords : List String :=
  ["export", "async", "function", "const", "let"]

/-- The names that a statement with the given words binds: an import binds the words up to `from`,
and a declaration binds the word behind its keywords. -/
def bindings : List String → List String
  | "import" :: words => words.takeWhile (· != "from")
  | words => (words.dropWhile (· ∈ declarationWords)).take 1

/-- The names that a statement binds, read off its text. -/
def boundBy (text : String) : List String :=
  bindings ((scan .code text.toList).map String.ofList)

/-- A declaration binds the name behind its keywords, whatever comes then. -/
theorem boundBy_declaration {opening name closing : String} {w : List Char}
    {ws : List (List Char)} {m : Mode} (hopening : Scans opening .code .code (w :: ws))
    (hwords : ∀ v ∈ w :: ws, String.ofList v ∈ declarationWords) (hname : isName name = true)
    (hnot : name ∉ declarationWords) (hclosing : Scans closing (.word name.toList) m [name.toList])
    (rest : String) : boundBy (opening ++ name ++ closing ++ rest) = [name] := by
  have hscan : scan .code (opening ++ name ++ closing ++ rest).toList =
      w :: ws ++ name.toList :: scan m rest.toList := by
    rw [String.toList_append, (scans_around hname hopening hclosing).scan_append]
    simp
  have himport : String.ofList w ≠ "import" := by
    intro h
    exact absurd (h ▸ hwords w List.mem_cons_self) (by decide)
  have hkeywords : ∀ v ∈ (w :: ws).map String.ofList, decide (v ∈ declarationWords) = true := by
    simpa using hwords
  rw [boundBy, hscan, List.map_append, List.map_cons, List.cons_append, bindings,
    ← List.cons_append, ← List.map_cons, List.dropWhile_append_of_pos hkeywords, List.map_cons,
    String.ofList_toList, List.dropWhile_cons_of_neg (by simpa using hnot)]
  · rfl
  · exact fun words h => himport (List.cons.inj h).1

/-- An import binds what stands in its braces, whatever it is imported from. -/
theorem boundBy_import {opening : String} {ws : List (List Char)} {m : Mode}
    (hopening : Scans opening .code m ("import".toList :: ws ++ ["from".toList]))
    (hwords : ∀ v ∈ ws, String.ofList v ≠ "from") (rest : String) :
    boundBy (opening ++ rest) = ws.map String.ofList := by
  have hscan : scan .code (opening ++ rest).toList =
      "import".toList :: (ws ++ "from".toList :: scan m rest.toList) := by
    rw [String.toList_append, hopening.scan_append]
    simp
  have hnames : ∀ v ∈ ws.map String.ofList, (v != "from") = true := by
    simpa using hwords
  rw [boundBy, hscan, List.map_cons, List.map_append, List.map_cons, String.ofList_toList,
    String.ofList_toList, bindings, List.takeWhile_append_of_pos hnames,
    List.takeWhile_cons_of_neg (by simp), List.append_nil]

namespace ClientModule

/-- The statement that imports from the runtime. -/
def runtimeStatement (m : ClientModule) : String :=
  "import \x7b Api, ApiOptions, GraphQLResponse, gql, trimInput \x7d from \"" ++
    m.runtimeModule ++ "\"\n"

/-- The declarations for the api, with the blank lines before them. -/
def apiDeclarations : List String :=
  ["\nexport let api: Api\n",
    "export function setApi (toApi: Api) \x7b api = toApi \x7d\n",
    "\nexport function initApi (url: string, options?: ApiOptions) \x7b\n" ++
      "  api = new Api(url, options)\n\x7d\n"]

/-- The declarations of a module, with the blank lines before them. -/
def declarations (m : ClientModule) : List String :=
  apiDeclarations ++ ("\n" ++ m.inputShapesBlock) :: m.entries.map fun e => "\n" ++ e.render

/-- The names that a module binds, read off its text. -/
def boundNames (m : ClientModule) : List String :=
  boundBy m.runtimeStatement ++ m.declarations.flatMap boundBy

/-- A module is a comment, its imports and its declarations. -/
theorem content_eq_declarations (m : ClientModule) :
    ∃ types, ImportStatement m.typesPath m.typeImports types ∧
      m.content = "/* eslint-disable */\n" ++ m.runtimeStatement ++ types ++
        String.join m.declarations := by
  obtain ⟨types, htypes, himports⟩ := m.importsBlock_eq
  refine ⟨types, htypes, ?_⟩
  have hruntime : m.runtimeImport = "/* eslint-disable */\n" ++ m.runtimeStatement := by
    unfold runtimeImport runtimeStatement
    simp only [String.append_assoc]
  have hapi : String.join apiDeclarations = "\n" ++ apiBlock := by
    have hlet : "\nexport let api: Api\n" = "\n" ++ "export let api: Api\n" := rfl
    have hinit : "\nexport function initApi (url: string, options?: ApiOptions) \x7b\n" =
      "\n" ++ "export function initApi (url: string, options?: ApiOptions) \x7b\n" := rfl
    have hclosing : "  api = new Api(url, options)\n\x7d\n" =
      "  api = new Api(url, options)\n" ++ "\x7d\n" := rfl
    unfold apiDeclarations apiBlock
    rw [hlet, hinit, hclosing]
    simp only [String.join_cons, String.join_nil, String.append_assoc, String.append_empty]
  rw [content, himports, hruntime, declarations, String.join_append, hapi]
  simp only [String.join_cons, String.append_assoc]

theorem boundBy_runtimeStatement (m : ClientModule) :
    boundBy m.runtimeStatement = ["Api", "ApiOptions", "GraphQLResponse", "gql", "trimInput"] := by
  have hopening : Scans "import \x7b Api, ApiOptions, GraphQLResponse, gql, trimInput \x7d from \""
      .code .quoted ("import".toList ::
        ["Api", "ApiOptions", "GraphQLResponse", "gql", "trimInput"].map String.toList ++
          ["from".toList]) :=
    scans_literal (by decide) fun _ => rfl
  unfold runtimeStatement
  rw [String.append_assoc, boundBy_import hopening (by decide)]
  rfl

end ClientModule

theorem Fragment.renderConstant_eq_opening (f : Fragment) :
    ∃ rest, "\n" ++ f.renderConstant =
      "\nexport const " ++ fragmentDocName f.name ++ " = " ++ rest := by
  have hopening : "\nexport const " = "\n" ++ "export const " := rfl
  have hclosing : " = gql`\n" = " = " ++ "gql`\n" := rfl
  refine ⟨"gql`\n" ++ indented "  " (templateText f.print) ++ "`\n", ?_⟩
  unfold Fragment.renderConstant
  rw [hopening, hclosing]
  simp only [String.append_assoc]

/-- A function starts as a plain one or as an asynchronous one. -/
theorem OperationFunction.render_eq_opening (f : OperationFunction) :
    (∃ rest, "\n" ++ f.render = "\nexport function " ++ f.functionName ++ " (" ++ rest) ∨
      ∃ rest, "\n" ++ f.render =
        "\nexport async function " ++ f.functionName ++ " (" ++ rest := by
  have hfunction : "\nexport function " = "\n" ++ "export function " := rfl
  have hasync : "\nexport async function " = "\n" ++ "export async function " := rfl
  have hclosing : " (\n" = " (" ++ "\n" := rfl
  unfold render
  rw [hfunction, hasync]
  split
  · unfold renderSubscription
    rw [hclosing]
    simp only [String.append_assoc]
    exact .inl ⟨_, rfl⟩
  · unfold renderRequest
    simp only [String.append_assoc]
    exact .inr ⟨_, rfl⟩
  · unfold renderRequest
    simp only [String.append_assoc]
    exact .inr ⟨_, rfl⟩

namespace ModuleEntry

/-- The name that an entry binds. -/
def name : ModuleEntry → String
  | function f => f.functionName
  | constant f => fragmentDocName f.name

/-- An entry starts with keywords, its name, and a parameter list or a value. -/
theorem boundBy_render (e : ModuleEntry) (hname : isName e.name = true)
    (hnot : e.name ∉ declarationWords) : boundBy ("\n" ++ e.render) = [e.name] := by
  have hparameter : Scans " (" (.word e.name.toList) .code [e.name.toList] :=
    scans_literal (by decide) fun _ => rfl
  have hvalue : Scans " = " (.word e.name.toList) .code [e.name.toList] :=
    scans_literal (by decide) fun _ => rfl
  have hconst : Scans "\nexport const " .code .code ["export".toList, "const".toList] :=
    scans_literal (by decide) fun _ => rfl
  have hfunction : Scans "\nexport function " .code .code ["export".toList, "function".toList] :=
    scans_literal (by decide) fun _ => rfl
  have hasync : Scans "\nexport async function " .code .code
      ["export".toList, "async".toList, "function".toList] :=
    scans_literal (by decide) fun _ => rfl
  cases e with
  | constant f =>
    obtain ⟨rest, htext⟩ := f.renderConstant_eq_opening
    rw [render, htext]
    exact boundBy_declaration hconst (by decide) hname hnot hvalue rest
  | function f =>
    rcases f.render_eq_opening with ⟨rest, htext⟩ | ⟨rest, htext⟩
    · rw [render, htext]
      exact boundBy_declaration hfunction (by decide) hname hnot hparameter rest
    · rw [render, htext]
      exact boundBy_declaration hasync (by decide) hname hnot hparameter rest

end ModuleEntry

namespace ClientModule

theorem boundBy_inputShapesBlock (m : ClientModule) :
    boundBy ("\n" ++ m.inputShapesBlock) = ["inputTypeInfoMap"] := by
  have hconst : Scans "\nconst " .code .code ["const".toList] :=
    scans_literal (by decide) fun _ => rfl
  have hvalue : Scans " = " (.word "inputTypeInfoMap".toList) .code ["inputTypeInfoMap".toList] :=
    scans_literal (by decide) fun _ => rfl
  have htext : "\n" ++ m.inputShapesBlock =
      "\nconst " ++ "inputTypeInfoMap" ++ " = " ++ (m.inputShapes.render ++ "\n") := by
    have hconst : "\nconst " = "\n" ++ "const " := rfl
    have hopening : "const inputTypeInfoMap = " = "const " ++ "inputTypeInfoMap = " := rfl
    have hname : "inputTypeInfoMap = " = "inputTypeInfoMap" ++ " = " := rfl
    unfold inputShapesBlock
    rw [hconst, hopening, hname]
    simp only [String.append_assoc]
  rw [htext]
  exact boundBy_declaration hconst (by decide) (by decide) (by decide) hvalue _

theorem flatMap_boundBy_apiDeclarations :
    apiDeclarations.flatMap boundBy = ["api", "setApi", "initApi"] := by
  decide +kernel

/-- The names in the text of a module, if the entries have names that are none of the keywords. -/
theorem boundNames_eq {m : ClientModule}
    (h : ∀ e ∈ m.entries, isName e.name = true ∧ e.name ∉ declarationWords) :
    m.boundNames = ["Api", "ApiOptions", "GraphQLResponse", "gql", "trimInput"] ++
      (["api", "setApi", "initApi", "inputTypeInfoMap"] ++ m.entries.map ModuleEntry.name) := by
  have hentries : (m.entries.map fun e => "\n" ++ e.render).flatMap boundBy =
      m.entries.map ModuleEntry.name := by
    rw [List.flatMap_map, List.map_eq_flatMap]
    refine List.flatMap_congr fun e he => ?_
    exact e.boundBy_render (h e he).1 (h e he).2
  rw [boundNames, declarations, List.flatMap_append, List.flatMap_cons, hentries,
    m.boundBy_runtimeStatement, m.boundBy_inputShapesBlock, flatMap_boundBy_apiDeclarations]
  rfl

/-- Functions and constants are all entries that there are. -/
theorem names_perm (m : ClientModule) :
    (m.entries.map ModuleEntry.name).Perm
      (m.functions.map OperationFunction.functionName ++
        m.constants.map fun f => fragmentDocName f.name) := by
  unfold functions constants
  induction m.entries with
  | nil => exact .nil
  | cons e es ih =>
    cases e with
    | function f => exact ih.cons f.functionName
    | constant f => exact (ih.cons (fragmentDocName f.name)).trans List.perm_middle.symm

end ClientModule

namespace Project

theorem functionName_of_functionOf {p : Project} {op : Operation} {f : OperationFunction}
    (h : p.functionOf op = .ok f) : op.functionName? = some f.functionName := by
  unfold functionOf at h
  unfold Operation.functionName?
  split at h
  · cases h
  · rename_i name hname
    obtain ⟨result, -, rfl⟩ := map_eq_ok_iff.1 h
    rw [hname]
    rfl

theorem functionNames_of_generate {p : Project} {m : ClientModule} (h : p.generate = .ok m) :
    m.functions.map OperationFunction.functionName =
      p.documents.operations.filterMap Operation.functionName? := by
  have hfunctions := functions_of_generate h
  generalize p.documents.operations = operations at hfunctions
  generalize m.functions = functions at hfunctions
  induction hfunctions with
  | nil => rfl
  | cons hf _ ih =>
    rw [List.map_cons, List.filterMap_cons, functionName_of_functionOf hf, ih]

/-- Names given in the documents lead to names of entries that are no keywords. -/
theorem isName_of_entry {p : Project} {m : ClientModule} (h : p.generate = .ok m)
    (hnames : ∀ n ∈ p.documents.givenNames, isName n = true) {e : ModuleEntry}
    (he : e ∈ m.entries) : isName e.name = true ∧ e.name ∉ declarationWords := by
  cases e with
  | function f =>
    have hf : f ∈ m.functions := List.mem_filterMap.2 ⟨.function f, he, rfl⟩
    obtain ⟨op, hop, hof⟩ := exists_mem_of_forall₂ (functions_of_generate h) hf
    obtain ⟨a, ha, hname⟩ := Option.map_eq_some_iff.1 (functionName_of_functionOf hof)
    have hgiven : a ∈ p.documents.givenNames :=
      List.mem_append_left _ (List.mem_filterMap.2 ⟨op, hop, ha⟩)
    show isName f.functionName = true ∧ f.functionName ∉ declarationWords
    rw [← hname]
    refine ⟨isName_functionName (hnames a hgiven) op.kind, append_not_mem_of_ending ?_ a⟩
    cases op.kind <;> decide
  | constant f =>
    have hf : f ∈ m.constants := List.mem_filterMap.2 ⟨.constant f, he, rfl⟩
    rw [constants_of_generate h] at hf
    have hgiven : f.name ∈ p.documents.givenNames :=
      List.mem_append_right _ (List.mem_map_of_mem hf)
    refine ⟨isName_fragmentDocName (hnames f.name hgiven), append_not_mem_of_ending ?_ _⟩
    decide

/-- The text binds what the documents lead to, in another order. -/
theorem boundNames_perm_of_generate {p : Project} {m : ClientModule} (h : p.generate = .ok m)
    (hnames : ∀ n ∈ p.documents.givenNames, isName n = true) :
    m.boundNames.Perm p.documents.boundNames := by
  have hfixed : (["Api", "ApiOptions", "GraphQLResponse", "gql", "trimInput"] ++
      ["api", "setApi", "initApi", "inputTypeInfoMap"]).Perm fixedNames :=
    List.perm_append_comm
  rw [ClientModule.boundNames_eq fun e he => isName_of_entry h hnames he, ← List.append_assoc,
    DocumentSet.boundNames, ← functionNames_of_generate h, ← constants_of_generate h]
  exact hfixed.append m.names_perm

end Project

/-- What holds of the names that a generated module binds. -/
structure BoundNameLaws (p : Project) (m : ClientModule) : Prop where
  text : ∃ types, ImportStatement p.settings.typesPath m.typeImports types ∧
    m.content = "/* eslint-disable */\n" ++ m.runtimeStatement ++ types ++
      String.join m.declarations
  /-- The names in the text are those that the documents lead to. -/
  read : m.boundNames.Perm p.documents.boundNames
  nodup_iff : p.documents.boundNames.Nodup ↔
    (p.documents.operations.Pairwise fun op op' =>
        ¬ (op.name? = op'.name? ∧ op.kind = op'.kind)) ∧
      p.documents.fragments.Pairwise fun f g => ¬ SameButInitials f.name g.name

theorem bound_names_nodup_iff (p : Project) (m : ClientModule)
    (hnames : ∀ n ∈ p.documents.givenNames, isName n = true) (h : p.generate = .ok m) :
    BoundNameLaws p m := by
  have hpath : m.typesPath = p.settings.typesPath := by
    obtain ⟨inputShapes, entries, -, rfl⟩ := Project.eq_of_generate h
    rfl
  have hnamed : ∀ op ∈ p.documents.operations, ∃ name, op.name? = some name := by
    intro op hop
    obtain ⟨f, -, hf⟩ := exists_mem_of_forall₂ (Project.functions_of_generate h).flip hop
    obtain ⟨name, hname, -⟩ := Option.map_eq_some_iff.1 (Project.functionName_of_functionOf hf)
    exact ⟨name, hname⟩
  have hfragments : ∀ f ∈ p.documents.fragments, isName f.name = true := by
    intro f hf
    exact hnames f.name (List.mem_append_right _ (List.mem_map_of_mem hf))
  refine ⟨?_, Project.boundNames_perm_of_generate h hnames, ?_⟩
  · rw [← hpath]
    exact m.content_eq_declarations
  · rw [DocumentSet.nodup_boundNames_iff, DocumentSet.nodup_functionNames_iff hnamed,
      DocumentSet.nodup_constantNames_iff hfragments]

/-- A query and a mutation of the same name, and two fragments. -/
def cardRequests (first second : String) : Project where
  schema := .ofDocuments [[
    .type ⟨none, "Card", [], .object [] [⟨none, "id", [], .named "ID", []⟩]⟩,
    .type ⟨none, "Query", [], .object [] [⟨none, "card", [], .named "Card", []⟩]⟩,
    .type ⟨none, "Mutation", [], .object [] [⟨none, "draw", [], .named "Card", []⟩]⟩]]
  documents := { definitions := [
    .operation (.headed .query (some "show") [] []
      [.field ⟨none, "card", [], []⟩ [.spread first []]]),
    .fragment ⟨first, "Card", [], [.field ⟨none, "id", [], []⟩ []]⟩,
    .operation (.headed .mutation (some "show") [] []
      [.field ⟨none, "draw", [], []⟩ [.spread second []]]),
    .fragment ⟨second, "Card", [], [.field ⟨none, "id", [], []⟩ []]⟩] }
  settings := {}

/-- A missing underscore keeps two constants apart, and capitals at the starts of words do not. -/
theorem bound_names_nodup_iff_of_cardRequests :
    (∃ m, (cardRequests "card_row" "cardRow").generate = .ok m ∧
        BoundNameLaws (cardRequests "card_row" "cardRow") m ∧ m.boundNames.Nodup) ∧
      ∃ m, (cardRequests "card_row" "Card_Row").generate = .ok m ∧
        BoundNameLaws (cardRequests "card_row" "Card_Row") m ∧ ¬ m.boundNames.Nodup := by
  have hgenerate : ∃ m, (cardRequests "card_row" "cardRow").generate = .ok m := ⟨_, rfl⟩
  have hgenerate' : ∃ m, (cardRequests "card_row" "Card_Row").generate = .ok m := ⟨_, rfl⟩
  obtain ⟨m, hm⟩ := hgenerate
  obtain ⟨m', hm'⟩ := hgenerate'
  have hlaws := bound_names_nodup_iff _ m (by decide) hm
  have hlaws' := bound_names_nodup_iff _ m' (by decide) hm'
  refine ⟨⟨m, hm, hlaws, ?_⟩, m', hm', hlaws', ?_⟩
  · rw [hlaws.read.nodup_iff, hlaws.nodup_iff]
    refine ⟨by decide, .cons ?_ (List.pairwise_singleton ..)⟩
    intro f hf hsame
    obtain rfl := List.mem_singleton.1 hf
    exact absurd hsame.length (by decide)
  · have hsame : SameButInitials "card_row" "Card_Row" :=
      (pascalCase_eq_iff (by decide) (by decide)).1 (by decide +kernel)
    rw [hlaws'.read.nodup_iff, hlaws'.nodup_iff]
    rintro ⟨-, hfragments⟩
    exact List.rel_of_pairwise_cons hfragments List.mem_cons_self hsame

end TypedClient
