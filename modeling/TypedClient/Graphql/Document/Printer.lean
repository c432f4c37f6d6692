import TypedClient.Graphql.Document
import TypedClient.Graphql.StringLiteral
import TypedClient.Number.Shortest

/-!
# Printing documents

Canonical text of operations and fragments: one selection a line, two spaces for each level. The
indent of a value is that of the block it stands in; it shows in block strings only.
-/

namespace TypedClient

mutual

def Value.print (indent : Nat) : Value → String
  | .variable name => "$" ++ name
  | .int n => toString n
  | .float x => x.text
  | .string s => String.ofList (StringLiteral.print indent s.toList)
  | .boolean b => if b then "true" else "false"
  | .null => "null"
  | .enum name => name
  | .list items => "[" ++ ", ".intercalate (Value.printItems indent items) ++ "]"
  | .object members => "\x7b" ++ ", ".intercalate (Value.printMembers indent members) ++ "\x7d"

def Value.printItems (indent : Nat) : List Value → List String
  | [] => []
  | v :: vs => v.print indent :: Value.printItems indent vs

/-- Members of an object, or arguments. -/
def Value.printMembers (indent : Nat) : List (String × Value) → List String
  | [] => []
  | (name, v) :: ms => (name ++ ": " ++ v.print indent) :: Value.printMembers indent ms

end

def printArguments (indent : Nat) (arguments : List (String × Value)) : String :=
  if arguments.isEmpty then ""
  else "(" ++ ", ".intercalate (Value.printMembers indent arguments) ++ ")"

def Directive.print (indent : Nat) (d : Directive) : String :=
  "@" ++ d.name ++ printArguments indent d.arguments

/-- Each directive has a blank before it. -/
def printDirectives (indent : Nat) (directives : List Directive) : String :=
  String.join (directives.map fun d => " " ++ d.print indent)

def FieldHead.print (indent : Nat) (f : FieldHead) : String :=
  (match f.responseAlias with
    | some key => key ++ ": " ++ f.name
    | none => f.name) ++
  printArguments indent f.arguments ++ printDirectives indent f.directives

def margin (indent : Nat) : String :=
  String.ofList (List.replicate indent ' ')

mutual

def Selection.print (indent : Nat) : Selection → String
  | .field head selections =>
    margin indent ++ head.print indent ++
      (match selections with
        | [] => "\n"
        | _ :: _ =>
          " \x7b\n" ++ Selection.printAll (indent + 2) selections ++ margin indent ++ "\x7d\n")
  | .spread fragment directives =>
    margin indent ++ "..." ++ fragment ++ printDirectives indent directives ++ "\n"
  | .inline condition directives selections =>
    margin indent ++ "..." ++
      (match condition with
        | some type => " on " ++ type
        | none => "") ++
      printDirectives indent directives ++
      " \x7b\n" ++ Selection.printAll (indent + 2) selections ++ margin indent ++ "\x7d\n"

def Selection.printAll (indent : Nat) : List Selection → String
  | [] => ""
  | s :: ss => s.print indent ++ Selection.printAll indent ss

end

/-- A selection set that ends a definition. -/
def printSelectionSet (selections : List Selection) : String :=
  "\x7b\n" ++ Selection.printAll 2 selections ++ "\x7d\n"

def VariableDefinition.print (v : VariableDefinition) : String :=
  "$" ++ v.name ++ ": " ++ v.type.print ++
    (match v.default with
      | some d => " = " ++ d.print 0
      | none => "")

def printVariables (separator : String) (vars : List VariableDefinition) : String :=
  if vars.isEmpty then ""
  else "(" ++ separator.intercalate (vars.map VariableDefinition.print) ++ ")"

/-- A subscription has nothing between its vars, and shows them only when it has a name. -/
def Operation.print : Operation → String
  | .bare selections => printSelectionSet selections
  | .headed kind name vars directives selections =>
    kind.keyword ++
      (match kind, name with
        | .subscription, some name => " " ++ name ++ printVariables "" vars
        | .subscription, none => ""
        | _, some name => " " ++ name ++ printVariables ", " vars
        | _, none => printVariables ", " vars) ++
      printDirectives 0 directives ++ " " ++ printSelectionSet selections

def Fragment.print (f : Fragment) : String :=
  "fragment " ++ f.name ++ " on " ++ f.condition ++ printDirectives 0 f.directives ++ " " ++
    printSelectionSet f.selections

def Definition.print : Definition → String
  | .operation o => o.print
  | .fragment f => f.print

end TypedClient
