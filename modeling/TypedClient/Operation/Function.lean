import TypedClient.Operation.Literal

/-!
# Operation functions

The record of everything that the function of an operation shows, and its text.
-/

namespace TypedClient

structure OperationFunction where
  kind : OperationKind
  operationName : String
  functionName : String
  paramName : String
  paramType : String
  /-- The expression a missing argument stands for. -/
  paramDefault : Option String
  /-- An operation without a result type returns no data. -/
  resultType : Option String
  hasInputs : Bool
  /-- The expression for the request variables. -/
  variablesArg : String
  trimInputsBlock : String
  gqlBlock : String
  /-- The statement that takes the single selected field out of the response. -/
  dataTransformBlock : Option String
deriving DecidableEq

namespace OperationFunction

/-- Name, type and default of the parameter. -/
def parameter (f : OperationFunction) : String :=
  f.paramName ++ ": " ++ f.paramType ++
    (match f.paramDefault with
      | some value => " = " ++ value
      | none => "")

def trimText (f : OperationFunction) : String :=
  if f.trimInputsBlock.isEmpty then "" else indented "  " f.trimInputsBlock ++ "\n"

/-- The local that holds the document is named by the kind. -/
def documentText (f : OperationFunction) : String :=
  "  const " ++ f.kind.keyword ++ " = gql`\n" ++ indented "    " f.gqlBlock ++ "  `\n"

/-- The arguments of the call that sends the operation. -/
def callArguments (f : OperationFunction) : String :=
  if f.hasInputs then f.kind.keyword ++ ", " ++ f.variablesArg else f.kind.keyword

def renderRequest (f : OperationFunction) : String :=
  "export async function " ++ f.functionName ++ " (" ++ f.parameter ++ ") \x7b\n" ++
    f.trimText ++
    f.documentText ++
    "  const response = await api.run(" ++ f.callArguments ++ ")\n" ++
    (match f.dataTransformBlock with
      | some block => indented "  " block
      | none => "") ++
    (match f.resultType with
      | some type => "  return <GraphQLResponse<" ++ type ++ ">>response\n"
      | none => "  return <GraphQLResponse>response\n") ++
    "\x7d\n"

def renderSubscription (f : OperationFunction) : String :=
  "export function " ++ f.functionName ++ " (\n" ++
    "  handler?: (data: " ++ f.resultType.getD "any" ++ ") => any,\n" ++
    "  " ++ f.parameter ++ "\n" ++
    ") \x7b\n" ++
    f.trimText ++
    f.documentText ++
    "  api.subscribe(" ++ f.callArguments ++ ").onData(handler)\n" ++
    "\x7d\n"

def render (f : OperationFunction) : String :=
  match f.kind with
  | .subscription => f.renderSubscription
  | .query | .mutation => f.renderRequest

end OperationFunction

end TypedClient
