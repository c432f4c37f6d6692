import TypedClient.Endpoint.Url
import TypedClient.Error

/-!
# Endpoints

The address a schema is fetched from, and the token that is sent along.
-/

namespace TypedClient

namespace Endpoint

/-- The address without the slashes at its end. -/
def withoutSlashes (endpoint : String) : String :=
  String.ofList (endpoint.toList.reverse.dropWhile (· == '/')).reverse

/-- The address that serves the schema: it has to be one of HTTP. -/
def schemaUrl (endpoint : String) : Except Error WebUrl := do
  let address ← (Address.parse (withoutSlashes endpoint)).mapError .url
  match address with
  | .web u =>
    if u.scheme = "http" ∨ u.scheme = "https" then return u
    else throw (.config (.urlScheme u.scheme))
  | .foreign scheme => throw (.config (.urlScheme scheme))

/-- A token may not hold controls other than the tab. -/
def isTokenChar (c : Char) : Bool :=
  c == '\t' || (0x20 ≤ c.toNat && c.toNat != 0x7F)

/-- Address and token of the request for a schema. -/
def request (endpoint : String) (token : Option String) : Except Error WebUrl := do
  let url ← schemaUrl endpoint
  unless (token.getD "").toList.all isTokenChar do throw (.config .token)
  return url

end Endpoint

end TypedClient
