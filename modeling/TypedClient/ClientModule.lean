import TypedClient.Graphql.Document.Parser
import TypedClient.Graphql.TypeSystem.Parser
import TypedClient.InputShape.Json
import TypedClient.Project

/-!
# Client modules

The whole module: imports, the holder of the api, the input shapes, and an entry for every
definition of the documents.
-/

namespace TypedClient

inductive ModuleEntry where
  | function (f : OperationFunction)
  | constant (f : Fragment)

def ModuleEntry.render : ModuleEntry → String
  | function f => f.render
  | constant f => f.renderConstant

structure ClientModule where
  runtimeModule : String
  typesPath : String
  /-- The imported type names, in increasing order. -/
  typeImports : List String
  inputShapes : InputShapeMap
  entries : List ModuleEntry

namespace ClientModule

def importsBlock (m : ClientModule) : String :=
  "/* eslint-disable */\n" ++
    "import \x7b Api, ApiOptions, GraphQLResponse, gql, trimInput \x7d from \"" ++
    m.runtimeModule ++ "\"\n" ++
    if m.typeImports.isEmpty then ""
    else
      "import \x7b\n" ++ ",\n".intercalate (m.typeImports.map ("  " ++ ·)) ++ "\n\x7d from \"" ++
        m.typesPath ++ "\"\n"

def apiBlock : String :=
  "export let api: Api\n" ++
    "export function setApi (toApi: Api) \x7b api = toApi \x7d\n" ++
    "\n" ++
    "export function initApi (url: string, options?: ApiOptions) \x7b\n" ++
    "  api = new Api(url, options)\n" ++
    "\x7d\n"

def inputShapesBlock (m : ClientModule) : String :=
  "const inputTypeInfoMap = " ++ m.inputShapes.render ++ "\n"

/-- The text of the module. -/
def content (m : ClientModule) : String :=
  m.importsBlock ++ "\n" ++ apiBlock ++ "\n" ++ m.inputShapesBlock ++
    String.join (m.entries.map fun e => "\n" ++ e.render)

/-- The functions of the module, in order. -/
def functions (m : ClientModule) : List OperationFunction :=
  m.entries.filterMap fun
    | .function f => some f
    | .constant _ => none

/-- The fragments whose documents are constants of the module, in order. -/
def constants (m : ClientModule) : List Fragment :=
  m.entries.filterMap fun
    | .function _ => none
    | .constant f => some f

end ClientModule

namespace Project

def entry (p : Project) : Definition → Recording ModuleEntry
  | .operation op => do return .function (← p.function op)
  | .fragment f => return .constant f

/-- The module of all definitions; one failure leaves no module. -/
def generate (p : Project) : Except Error ClientModule := do
  p.settings.validate.mapError fun e => Error.config (.invalid e)
  let inputShapes ← InputShapeMap.ofSchema p.schema
  -- The names recorded before a failure do not matter here, as the failure is all that is given.
  let (entries, recorded) := (p.documents.definitions.mapM p.entry).run.run []
  return {
    runtimeModule := p.settings.runtimeModule
    typesPath := p.settings.typesPath
    typeImports := importNames recorded
    inputShapes := inputShapes
    entries := ← entries }

end Project

/-! ## Texts

Schemas and document sets are spread over texts. Each text is read on its own, and the first one
that cannot be read is the error.
-/

def Schema.parse (texts : List String) : Except Error Schema := do
  let docs ← texts.mapM fun text => (TypeSystemDefinition.parse text).mapError .schemaParse
  return ofDocuments docs

def DocumentSet.parse (texts : List String) : Except Error DocumentSet := do
  let docs ← texts.mapM fun text => (Definition.parse text).mapError .documentParse
  return { definitions := docs.flatten }

/-- Reads the schema, then the documents, and generates their module. -/
def ClientModule.ofTexts (schemaTexts documentTexts : List String) (settings : Settings) :
    Except Error ClientModule := do
  let schema ← Schema.parse schemaTexts
  let documents ← DocumentSet.parse documentTexts
  Project.generate { schema := schema, documents := documents, settings := settings }

end TypedClient
