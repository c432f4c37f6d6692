import TypedClient.Endpoint.Ip
import TypedClient.Endpoint.Percent
import TypedClient.Idna

/-!
# Hosts

The host of an address is a domain name or a numeric address.
-/

namespace TypedClient.Host

/-- Characters that no domain may hold. -/
def isForbidden (c : Char) : Bool :=
  c.toNat ≤ 0x20 || c.toNat == 0x7F || "%#/:<>?@[\\]^|".toList.contains c

/-- A domain name in ASCII. -/
def domain (cs : List Char) : Except UrlError (List Char) :=
  match String.fromUTF8? (Percent.decode cs).toByteArray with
  | none => .error .domain
  | some text =>
    match Idna.toAscii isForbidden text.toList with
    | none => .error .domain
    | some [] => .error .emptyHost
    | some name => .ok name

/-- The address in brackets. -/
def bracketed (cs : List Char) : Except UrlError (List Char) :=
  match cs.getLast? with
  | some ']' => do
    let pieces ← Ipv6.parse cs.dropLast
    return '[' :: Ipv6.text pieces ++ [']']
  | _ => .error .ipv6

/-- The text of the host of a web address. -/
def parse : List Char → Except UrlError (List Char)
  | '[' :: cs => bracketed cs
  | cs => do
    let name ← domain cs
    if Ipv4.endsInNumber name then return Ipv4.text (← Ipv4.parse name) else return name

/-- Hosts under other schemes are not interpreted. -/
def checkOpaque : List Char → Except UrlError Unit
  | '[' :: cs => do
    let _ ← bracketed cs
  | cs =>
    if cs.any (fun c => c == '\x00' || "\t\n\r #/:<>?@[\\]^|".toList.contains c) then
      .error .domainCharacter
    else .ok ()

end TypedClient.Host
