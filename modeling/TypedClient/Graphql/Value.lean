import TypedClient.Number.Binary64

/-!
# Values

Argument and default values of documents.
-/

namespace TypedClient

inductive Value where
  | variable (name : String)
  | int (n : Int)
  | float (x : Binary64)
  | string (s : String)
  | boolean (b : Bool)
  | null
  | enum (name : String)
  | list (items : List Value)
  | object (members : List (String × Value))

namespace Value

/-- Adds a member to members in order of their names; a member of the same name gives way. -/
def insertMember (name : String) (v : Value) : List (String × Value) → List (String × Value)
  | [] => [(name, v)]
  | (other, w) :: rest =>
    if name < other then (name, v) :: (other, w) :: rest
    else if name = other then (name, v) :: rest
    else (other, w) :: insertMember name v rest

/-- An object keeps its members in order of their names, the last one of each name. -/
def ofMembers (members : List (String × Value)) : Value :=
  .object (members.foldl (fun ms m => insertMember m.1 m.2 ms) [])

end Value

/-- A directive applied in a document: `@name(arguments)`. -/
structure Directive where
  name : String
  arguments : List (String × Value)

end TypedClient
