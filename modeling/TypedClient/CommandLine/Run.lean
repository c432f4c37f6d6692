import TypedClient.ClientModule
import TypedClient.CommandLine.Arguments
import TypedClient.CommandLine.Files
import TypedClient.CommandLine.Help
import TypedClient.Endpoint
import TypedClient.Settings.Load

/-!
# Runs

A run of the command line: it loads the settings, the schema and the documents in this order,
generates the module, and writes it once it is complete.
-/

namespace TypedClient

/-- What a run can fail with, by what it was about to do. -/
inductive Failure where
  | config (e : Error)
  | noSchema
  | schema (e : Error)
  | fetch (endpoint : String) (e : Error)
  | documents (e : Error)
  | generation (e : Error)
  | writing (path : String) (fault : FileFault)

/-- The message of a failure and its causes. -/
def Failure.chain : Failure → List String
  | config e => e.chain
  | noSchema => ["--schema or --url is required"]
  | schema e => "failed to load schema" :: e.chain
  | fetch endpoint e => ("failed to load schema from " ++ endpoint) :: e.chain
  | documents e => "failed to load documents" :: e.chain
  | generation e =>
    (if e.isSchemaError then "invalid schema" else "failed to generate operations") :: e.chain
  | writing path fault => ["failed to write " ++ path, fault.message]

/-- What a run leaves behind, files apart. -/
inductive Report where
  | misuse
  | help
  | done (output : String)
  | failed (failure : Failure)

namespace Report

def status : Report → Nat
  | misuse => 2
  | help | done _ => 0
  | failed _ => 1

/-- What goes to standard output. -/
def output : Report → String
  | help => Help.text
  | done output => output
  | misuse | failed _ => ""

/-- What goes to standard error. -/
def errors : Report → String
  | misuse => Help.usage
  | help | done _ => ""
  | failed failure => "codegen failed: " ++ ": ".intercalate failure.chain ++ "\n"

end Report

namespace Run

variable {m : Type → Type} [Monad m] (world : Surroundings m)

/-- A part of a run. -/
abbrev Step (m : Type → Type) (α : Type) := ExceptT Failure m α

/-- Fails with an error. -/
def check {α : Type} (failure : Error → Failure) : Except Error α → Step m α
  | .ok a => return a
  | .error e => throw (failure e)

/-- The text of a file. -/
def readText (failure : FileFault → Failure) (path : String) : Step m String := do
  match ← world.read path with
  | .ok text => return text
  | .error fault => throw (failure fault)

/-- The settings of the configuration file, which have to be valid on their own. -/
def fileSettings (path : String) : Step m Settings := do
  let text ← readText world (fun fault => .config (.file fault)) path
  check .config ((Settings.ofToml text).mapError fun e => .config (.inFile path e))

/-- Options of the command line come before the settings of the file. -/
def override (a : Arguments) (s : Settings) : Settings :=
  { runtimeModule := a.runtimeModule.getD s.runtimeModule
    typesPath := a.typesPath.getD s.typesPath
    operationResultSuffix := a.operationResultSuffix.getD s.operationResultSuffix
    dedupeOperationSuffix := a.dedupeOperationSuffix || s.dedupeOperationSuffix
    omitOperationSuffix := a.omitOperationSuffix || s.omitOperationSuffix
    voidTypeName := a.voidTypeName.getD s.voidTypeName }

/-- The settings of the file, or the defaults without a file. -/
def baseSettings (a : Arguments) : Step m Settings :=
  match a.config with
  | some path => fileSettings world path
  | none => return {}

def settings (a : Arguments) : Step m Settings := do
  let effective := override a (← baseSettings world a)
  check .config (effective.validate.mapError fun e => .config (.invalid e))
  return effective

/-- The texts of several files, in order. -/
def sources (failure : Error → Failure) : List String → Step m (List String)
  | [] => return []
  | path :: paths => do
    let text ← readText world (fun fault => failure (.source path fault)) path
    return text :: (← sources failure paths)

def fetchSchema (endpoint : String) (token : Option String) : Step m String := do
  let url ← check (.fetch endpoint) (Endpoint.request endpoint token)
  check (.fetch endpoint) ((← world.fetch url.text token).mapError .http)

def schemaTexts (a : Arguments) : Step m (List String) := do
  match a.url with
  | some endpoint => return [← fetchSchema world endpoint a.token]
  | none => if a.schema.isEmpty then throw .noSchema else sources world .schema a.schema

/-- Gives the module away; what is left of it goes to standard output. -/
def deliver (a : Arguments) (content : String) : Step m String :=
  match a.out with
  | none => return content
  | some path => do
    match ← world.write path content with
    | .ok () => return ""
    | .error fault => throw (.writing path fault)

/-- Gives what goes to standard output. -/
def produce (a : Arguments) : Step m String := do
  let s ← settings world a
  let schema ← schemaTexts world a
  let documents ← sources world .documents a.documents
  let module ← check .generation (ClientModule.ofTexts schema documents s)
  deliver world a module.content

end Run

/-- Runs a command line in its surroundings. -/
def Command.run {m : Type → Type} [Monad m] (world : Surroundings m) (args : List String) :
    m Report := do
  match Command.parse args with
  | .misuse => return .misuse
  | .help => return .help
  | .generate a =>
    match ← (Run.produce world a).run with
    | .ok output => return .done output
    | .error failure => return .failed failure

/-- A run in surroundings with a state: the report and the state after it. -/
def Command.runIn {σ : Type} (world : Surroundings (StateM σ)) (files : σ) (args : List String) :
    Report × σ :=
  Id.run ((Command.run world args).run files)

/-- A run on files as a value: the report and the files after it. -/
def Command.runOn (files : Files) (args : List String) : Report × Files :=
  Command.runIn Files.surroundings files args

end TypedClient
