import TypedClient.Graphql.Document
import TypedClient.Graphql.Token
import TypedClient.Settings
import TypedClient.Settings.Toml

/-!
# Errors

Everything that can stop a run. `Error.message` says what happened; `Error.chain` adds the causes
that a report lists after it.
-/

namespace TypedClient

/-- Why a file cannot be read or written. -/
inductive FileFault where
  | missing
  | notDirectory
  | directory
  | nameTooLong
  | notText
  | other (text : String)
deriving DecidableEq

def FileFault.message : FileFault → String
  | missing => "No such file or directory (os error 2)"
  | notDirectory => "Not a directory (os error 20)"
  | directory => "Is a directory (os error 21)"
  | nameTooLong => "File name too long (os error 36)"
  | notText => "stream did not contain valid UTF-8"
  | other text => text

/-- What is wrong with an address. -/
inductive UrlError where
  | relative
  | emptyHost
  | portNumber
  | ipv4
  | ipv6
  | domain
  | domainCharacter
deriving DecidableEq

def UrlError.message : UrlError → String
  | relative => "relative URL without a base"
  | emptyHost => "empty host"
  | portNumber => "invalid port number"
  | ipv4 => "invalid IPv4 address"
  | ipv6 => "invalid IPv6 address"
  | domain => "invalid international domain name"
  | domainCharacter => "invalid domain character"

/-- What is wrong with the settings or with the request for a schema. -/
inductive ConfigError where
  | invalid (e : SettingsError)
  | toml (e : TomlError)
  | inFile (path : String) (e : ConfigError)
  | urlScheme (scheme : String)
  | token

namespace ConfigError

def message : ConfigError → String
  | invalid e => "config error: " ++ e.message
  | toml e => "config error: " ++ e.message
  | inFile path e => "config error: " ++ path ++ ": " ++ e.message
  | urlScheme scheme =>
    "config error: invalid url scheme: " ++ scheme ++ ". must be http or https"
  | token => "config error: invalid token header value: failed to parse header value"

end ConfigError

inductive Error where
  | unknownTypeKind (name : String)
  | unresolvableInputFieldType (input field typeName : String)
  | unknownRootField (root field : String)
  | missingRootType (kind : OperationKind) (root : String)
  | anonymousOperation (kind : OperationKind)
  | schemaParse (e : SyntaxError)
  | documentParse (e : SyntaxError)
  | json
  | file (fault : FileFault)
  | source (path : String) (fault : FileFault)
  | http (text : String)
  | url (e : UrlError)
  | config (e : ConfigError)

namespace Error

/-- Whether the schema is at fault, and not the documents or the surroundings. -/
def isSchemaError : Error → Bool
  | unknownTypeKind _ | unresolvableInputFieldType .. | missingRootType .. | schemaParse _ => true
  | _ => false

/-- The cause that an error wraps. -/
def cause? : Error → Option String
  | schemaParse e => some ("schema parse error: " ++ e.message)
  | documentParse e => some ("query parse error: " ++ e.message)
  | json => some "the text is no input shape map"
  | file fault => some fault.message
  | source path fault => some ("failed to read " ++ path ++ ": " ++ fault.message)
  | http text => some text
  | url e => some e.message
  | _ => none

def message : Error → String
  | unknownTypeKind name =>
    "type `" ++ name ++ "` is not a scalar, object, interface, union, enum, or input type"
  | unresolvableInputFieldType input field typeName =>
    "input field `" ++ input ++ "." ++ field ++ "` has an unknown type `" ++ typeName ++ "`"
  | unknownRootField root field =>
    "field `" ++ field ++ "` is not defined on root type `" ++ root ++ "`"
  | missingRootType kind root => "schema has no " ++ kind.keyword ++ " root type `" ++ root ++ "`"
  | anonymousOperation kind =>
    "anonymous " ++ kind.keyword ++
      " operations cannot be generated; give the operation a name"
  | config e => e.message
  | schemaParse e => "schema parse error: schema parse error: " ++ e.message
  | documentParse e => "document parse error: query parse error: " ++ e.message
  | json => "json error: the text is no input shape map"
  | file fault => "io error: " ++ fault.message
  | source path fault => "io error: failed to read " ++ path ++ ": " ++ fault.message
  | http text => "http error: " ++ text
  | url e => "url error: " ++ e.message

/-- The message of an error and that of its cause. -/
def chain (e : Error) : List String :=
  e.message :: e.cause?.toList

end Error

end TypedClient
