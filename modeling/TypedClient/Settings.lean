import TypedClient.Text

/-!
# Settings

What a user can choose about the names and paths in the module.
-/

namespace TypedClient

structure Settings where
  /-- The module that provides the runtime. -/
  runtimeModule : String := "graphqlex"
  /-- The module that provides the types of the schema and of the operations. -/
  typesPath : String := "./graphql-types"
  /-- Ends the name of an operation's result type. -/
  operationResultSuffix : String := ""
  /-- Type names of an operation whose name already ends with its kind do not repeat the kind. -/
  dedupeOperationSuffix : Bool := false
  /-- Type names never end with the kind. -/
  omitOperationSuffix : Bool := false
  /-- The scalar of fields that return nothing. -/
  voidTypeName : String := "Void"
deriving DecidableEq

inductive SettingsError where
  | emptyRuntimeModule
  | emptyTypesPath
  | quoteInPath
deriving DecidableEq

def SettingsError.message : SettingsError → String
  | emptyRuntimeModule => "runtime module cannot be empty"
  | emptyTypesPath => "types path cannot be empty"
  | quoteInPath => "module paths cannot contain double quotes"

def Settings.validate (s : Settings) : Except SettingsError Unit :=
  if Text.allBlank s.runtimeModule.toList then .error .emptyRuntimeModule
  else if Text.allBlank s.typesPath.toList then .error .emptyTypesPath
  else if s.typesPath.toList.contains '"' || s.runtimeModule.toList.contains '"' then
    .error .quoteInPath
  else .ok ()

end TypedClient
