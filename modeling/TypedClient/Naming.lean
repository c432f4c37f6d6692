import TypedClient.Graphql.Document
import TypedClient.Settings
import TypedClient.Text.Uppercase

/-!
# Names

How names of the schema and the documents become names of the module.
-/

namespace TypedClient

/-- Upper-cases the next character when `start` holds. An underscore is kept, a hyphen or a blank is
dropped, and each of them starts a word. -/
def pascalChars (start : Bool) : List Char → List Char
  | [] => []
  | c :: cs =>
    if c = '_' then c :: pascalChars true cs
    else if c = '-' || Text.isBlank c then pascalChars true cs
    else if start then Text.upper c ++ pascalChars false cs
    else c :: pascalChars false cs

def pascalCase (name : String) : String :=
  String.ofList (pascalChars true name.toList)

/-- The constant that holds the document of a fragment. -/
def fragmentDocName (fragment : String) : String :=
  pascalCase fragment ++ "FragmentDoc"

/-- The primitive type that carries a built-in scalar. -/
def primitive? (typeName : String) : Option String :=
  if typeName = "String" ∨ typeName = "ID" then some "string"
  else if typeName = "Int" ∨ typeName = "Float" then some "number"
  else if typeName = "Boolean" then some "boolean"
  else none

/-- The function of an operation. -/
def functionName (name : String) (kind : OperationKind) : String :=
  name ++ kind.capitalized

/-- Whether a name ends with the kind, in any case of its letters. Letters beyond ASCII do not
count, as none of them is a letter of a kind in another case. -/
def endsWithKind (name : String) (kind : OperationKind) : Bool :=
  kind.keyword.toList.isSuffixOf (name.toList.map Char.toLower)

/-- The common start of the type names of an operation. -/
def operationTypeName (s : Settings) (name : String) (kind : OperationKind) : String :=
  if s.omitOperationSuffix || (s.dedupeOperationSuffix && endsWithKind name kind) then
    pascalCase name
  else pascalCase name ++ kind.capitalized

def variablesTypeName (s : Settings) (name : String) (kind : OperationKind) : String :=
  operationTypeName s name kind ++ "Variables"

def resultTypeName (s : Settings) (name : String) (kind : OperationKind) : String :=
  operationTypeName s name kind ++ s.operationResultSuffix

end TypedClient
