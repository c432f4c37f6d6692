import TypedClient.Graphql.Document.Printer
import TypedClient.Naming
import TypedClient.Text

/-!
# Document literals

Operations and fragments as the text of template literals. In such a text a backslash escapes the
character after it, a backtick ends the literal, and a dollar sign with an opening brace starts a
substitution.
-/

namespace TypedClient

namespace Text.TemplateLiteral

/-- Writes a text so that a template literal holds exactly that text. -/
def escape : List Char → List Char
  | [] => []
  | '\\' :: cs => '\\' :: '\\' :: escape cs
  | '\x60' :: cs => '\\' :: '\x60' :: escape cs
  | '$' :: '\x7b' :: cs => '\\' :: '$' :: '\x7b' :: escape cs
  | c :: cs => c :: escape cs

end Text.TemplateLiteral

/-- A printed definition as the text of a template literal. -/
def templateText (printed : String) : String :=
  String.ofList (Text.TemplateLiteral.escape (Text.trimEnd printed.toList))

/-- The substitution of a fragment's document. -/
def fragmentLine (fragment : String) : String :=
  "$\x7b" ++ fragmentDocName fragment ++ "\x7d\n"

/-- The documents of the fragments that an operation needs, then the operation. -/
def gqlBlock (fragments : List String) (op : Operation) : String :=
  String.join (fragments.map fragmentLine) ++ templateText op.print ++ "\n"

def indented (pad block : String) : String :=
  String.ofList (Text.indent pad.toList block.toList)

/-- The constant that holds the document of a fragment. -/
def Fragment.renderConstant (f : Fragment) : String :=
  "export const " ++ fragmentDocName f.name ++ " = gql`\n" ++
    indented "  " (templateText f.print) ++ "`\n"

end TypedClient
