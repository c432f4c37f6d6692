import TypedClient.Number.Shortest

/-!
# Tokens

The lexical items of GraphQL texts, and what can be wrong with a text.
-/

namespace TypedClient

inductive Bracket where
  | round
  | square
  | curly
deriving DecidableEq

/-- Literals stand for their values: a string token holds the text after its escapes are undone. -/
inductive Token where
  | opening (b : Bracket)
  | closing (b : Bracket)
  | exclamation
  | dollar
  | colon
  | equals
  | atSign
  | bar
  | ampersand
  | ellipsis
  | name (s : String)
  | int (n : Int)
  | float (x : Binary64)
  | string (s : String)
deriving DecidableEq

def Token.describe : Token → String
  | opening .round => "("
  | opening .square => "["
  | opening .curly => "\x7b"
  | closing .round => ")"
  | closing .square => "]"
  | closing .curly => "\x7d"
  | exclamation => "!"
  | dollar => "$"
  | colon => ":"
  | equals => "="
  | atSign => "@"
  | bar => "|"
  | ampersand => "&"
  | ellipsis => "..."
  | name s => "`" ++ s ++ "`"
  | int n => toString n
  | float x => x.text
  | string _ => "a string"

/-- Where reading a GraphQL text stops. -/
inductive SyntaxError where
  | character (c : Char)
  | number (text : String)
  | string
  | token (t : Token)
  | ending
deriving DecidableEq

/-- A text for people; its wording is not part of the language. -/
def SyntaxError.message : SyntaxError → String
  | character c => "Parse error at character " ++ c.toString
  | number text => "Parse error at number " ++ text
  | string => "Parse error at a string that does not end or has an unknown escape"
  | token t => "Parse error at " ++ t.describe
  | ending => "Parse error at the end of the text"

end TypedClient
