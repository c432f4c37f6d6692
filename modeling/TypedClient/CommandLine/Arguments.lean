/-!
# Arguments

The options of the command line. An option that takes a value is written `--name value` or
`--name=value`.
-/

namespace TypedClient

structure Arguments where
  schema : List String
  url : Option String
  token : Option String
  documents : List String
  out : Option String
  config : Option String
  runtimeModule : Option String
  typesPath : Option String
  dedupeOperationSuffix : Bool
  omitOperationSuffix : Bool
  operationResultSuffix : Option String
  voidTypeName : Option String
deriving DecidableEq

/-- What a command line asks for. -/
inductive Command where
  | generate (a : Arguments)
  | help
  | misuse
deriving DecidableEq

namespace Arguments

/-- Options that name files, and so cannot be empty. -/
def pathOptions : List String :=
  ["schema", "documents", "out", "config"]

def textOptions : List String :=
  ["url", "token", "runtime-module", "types-path", "operation-result-suffix", "void-type-name"]

def switches : List String :=
  ["dedupe-operation-suffix", "omit-operation-suffix"]

/-- Options that may be given several times. -/
def repeatable : List String :=
  ["schema", "documents"]

/-- One option of a command line. -/
inductive Item where
  | value (option value : String)
  | switch (option : String)
  | help
deriving DecidableEq

/-- The name of an option and the value attached to it. -/
def option? (arg : String) : Option (String × Option String) :=
  match arg.toList with
  | '-' :: '-' :: cs =>
    let name := String.ofList (cs.takeWhile (· != '='))
    match cs.dropWhile (· != '=') with
    | _ :: value => some (name, some (String.ofList value))
    | [] => some (name, none)
  | _ => none

/-- Whether an argument cannot be the value of the option before it. -/
def looksLikeOption (arg : String) : Bool :=
  match arg.toList with
  | '-' :: _ :: _ => true
  | _ => false

/-- Whether an argument asks for help. What is written after the letter does not matter. -/
def asksHelp (arg : String) : Bool :=
  match arg.toList with
  | '-' :: 'h' :: _ => true
  | _ => arg = "--help"

/-- The options of a command line, up to a call for help. There are no positional arguments. -/
def items? : List String → Option (List Item)
  | [] => some []
  | arg :: rest =>
    if arg = "--" then if rest.isEmpty then some [] else none
    else if asksHelp arg then some [.help]
    else
      match option? arg with
      | none => none
      | some (name, attached) =>
        if name ∈ switches then
          match attached with
          | none => (items? rest).map (.switch name :: ·)
          | some _ => none
        else if name ∈ pathOptions ∨ name ∈ textOptions then
          match attached with
          | some value => (items? rest).map (.value name value :: ·)
          | none =>
            match rest with
            | [] => none
            | value :: rest =>
              if looksLikeOption value then none else (items? rest).map (.value name value :: ·)
        else none

def values (items : List Item) (option : String) : List String :=
  items.filterMap fun
    | .value name value => if name = option then some value else none
    | _ => none

def switchCount (items : List Item) (option : String) : Nat :=
  items.count (.switch option)

/-- Options are given once unless they are repeatable, and no path is empty. -/
def wellFormed (items : List Item) : Bool :=
  switches.all (switchCount items · ≤ 1) &&
    (pathOptions ++ textOptions).all (fun o => o ∈ repeatable || (values items o).length ≤ 1) &&
    pathOptions.all fun o => (values items o).all (!String.isEmpty ·)

def ofItems (items : List Item) : Arguments :=
  let text (option : String) : Option String := (values items option).head?
  let switch (option : String) : Bool := switchCount items option ≠ 0
  { schema := values items "schema"
    url := text "url"
    token := text "token"
    documents := values items "documents"
    out := text "out"
    config := text "config"
    runtimeModule := text "runtime-module"
    typesPath := text "types-path"
    dedupeOperationSuffix := switch "dedupe-operation-suffix"
    omitOperationSuffix := switch "omit-operation-suffix"
    operationResultSuffix := text "operation-result-suffix"
    voidTypeName := text "void-type-name" }

/-- Documents are required, the schema comes from files or from an address, and a token goes with an
address. With schema files the last rule has no say. -/
def consistent (a : Arguments) : Bool :=
  !a.documents.isEmpty &&
    (a.url.isNone || a.schema.isEmpty) &&
    (a.token.isNone || a.url.isSome || !a.schema.isEmpty)

end Arguments

def Command.parse (args : List String) : Command :=
  match Arguments.items? args with
  | none => .misuse
  | some items =>
    if !Arguments.wellFormed items then .misuse
    else if .help ∈ items then .help
    else if (Arguments.ofItems items).consistent then .generate (Arguments.ofItems items)
    else .misuse

end TypedClient
