import TypedClient.InputShape
import TypedClient.Json.Token

/-!
# Input shapes as JSON

The map is written with two spaces for each level, and read back from any JSON text.
-/

namespace TypedClient

def jsonString (s : String) : String :=
  String.ofList (Json.quote s.toList)

def jsonBool (b : Bool) : String :=
  if b then "true" else "false"

namespace InputFieldShape

def render (f : InputFieldShape) : String :=
  "      \x7b\n        \"name\": " ++ jsonString f.name ++
    ",\n        \"typeName\": " ++ jsonString f.typeName ++
    ",\n        \"isList\": " ++ jsonBool f.isList ++
    ",\n        \"isNonNull\": " ++ jsonBool f.isNonNull ++ "\n      \x7d"

def ofJson? (ts : List Json.Token) : Option InputFieldShape := do
  match ← Json.record? ["name", "typeName", "isList", "isNonNull"] ts with
  | [name, typeName, isList, isNonNull] =>
    return {
      name := ← Json.text? name
      typeName := ← Json.text? typeName
      isList := ← Json.boolean? isList
      isNonNull := ← Json.boolean? isNonNull }
  | _ => none

end InputFieldShape

namespace InputShape

def renderFields (fields : List InputFieldShape) : String :=
  if fields.isEmpty then "[]"
  else "[\n" ++ ",\n".intercalate (fields.map InputFieldShape.render) ++ "\n    ]"

def render (s : InputShape) : String :=
  "\x7b\n    \"name\": " ++ jsonString s.name ++
    ",\n    \"fields\": " ++ renderFields s.fields ++ "\n  \x7d"

def ofJson? (ts : List Json.Token) : Option InputShape := do
  match ← Json.record? ["name", "fields"] ts with
  | [name, fields] =>
    return {
      name := ← Json.text? name
      fields := ← (← Json.elements? fields).mapM InputFieldShape.ofJson? }
  | _ => none

end InputShape

namespace InputShapeMap

def render (m : InputShapeMap) : String :=
  if m.items.isEmpty then "\x7b\x7d"
  else
    "\x7b\n" ++
      ",\n".intercalate (m.items.map fun (key, s) => "  " ++ jsonString key ++ ": " ++ s.render) ++
      "\n\x7d"

def ofJson? (text : String) : Option InputShapeMap := do
  let members ← Json.members? (← Json.Token.scan text.toList)
  let shapes ← members.mapM fun (key, value) => do return (key, ← InputShape.ofJson? value)
  return Keyed.ofList shapes

/-- Reads the map from a JSON text. -/
def ofJson (text : String) : Except Error InputShapeMap :=
  match ofJson? text with
  | some m => .ok m
  | none => .error .json

end InputShapeMap

end TypedClient
