import TypedClient.Endpoint.Host

/-!
# Addresses

Reading absolute addresses. Those of the web are kept in parts; of any other address only the scheme
is kept, once the rest is found well formed.
-/

namespace TypedClient

structure WebUrl where
  scheme : String
  /-- User and password with the sign after them, encoded; empty when neither is given. -/
  userinfo : List Char
  host : List Char
  /-- The number after the host, unless it is that of the scheme. -/
  portNumber : Option Nat
  /-- The parts between slashes. -/
  path : List (List Char)
  query : Option (List Char)
  fragment : Option (List Char)

def WebUrl.text (u : WebUrl) : String :=
  let number := match u.portNumber with
    | some n => ':' :: Nat.toDigits 10 n
    | none => []
  let query := match u.query with
    | some q => '?' :: q
    | none => []
  let fragment := match u.fragment with
    | some f => '#' :: f
    | none => []
  u.scheme ++ "://" ++
    String.ofList (u.userinfo ++ u.host ++ number ++ u.path.flatMap ('/' :: ·) ++ query ++ fragment)

inductive Address where
  | web (u : WebUrl)
  | foreign (scheme : String)

def Address.scheme : Address → String
  | web u => u.scheme
  | foreign scheme => scheme

namespace Url

/-- The schemes of web addresses and the numbers of their ports. -/
def webPorts : List (String × Nat) :=
  [("http", 80), ("https", 443), ("ws", 80), ("wss", 443), ("ftp", 21)]

/-- Blanks and controls at the ends and line breaks anywhere have no meaning. -/
def cleaned (cs : List Char) : List Char :=
  let isOuter (c : Char) : Bool := c.toNat ≤ 0x20
  let trimmed := ((cs.dropWhile isOuter).reverse.dropWhile isOuter).reverse
  trimmed.filter fun c => !(c == '\t' || c == '\n' || c == '\r')

def isSchemeChar (c : Char) : Bool :=
  c.isAlphanum || c == '+' || c == '-' || c == '.'

/-- The scheme in lower case, and what follows the colon. -/
def scheme? : List Char → Option (String × List Char)
  | [] => none
  | c :: cs =>
    match c.isAlpha, cs.dropWhile isSchemeChar with
    | true, ':' :: rest =>
      some (String.ofList ((c :: cs.takeWhile isSchemeChar).map Char.toLower), rest)
    | _, _ => none

/-- Where an authority ends. A backslash counts as a slash in web addresses. -/
def endsAuthority (web : Bool) (c : Char) : Bool :=
  c == '/' || c == '?' || c == '#' || (web && c == '\\')

/-- The parts before and after the last at sign. -/
def splitUserinfo (authority : List Char) : Option (List Char × List Char) :=
  match authority.reverse.dropWhile (· != '@') with
  | [] => none
  | _ :: before => some (before.reverse, (authority.reverse.takeWhile (· != '@')).reverse)

/-- User and password with the sign after them. A colon stands only before a password. -/
def encodeUserinfo (cs : List Char) : List Char :=
  let user := cs.takeWhile (· != ':')
  let password := (cs.dropWhile (· != ':')).drop 1
  let encode := Percent.encode Percent.userinfoReserved
  if user.isEmpty && password.isEmpty then []
  else if password.isEmpty then encode user ++ ['@']
  else encode user ++ ':' :: encode password ++ ['@']

/-- Splits a host from its number: a colon inside brackets belongs to the host. -/
def splitNumber (brackets : Bool) : List Char → List Char × Option (List Char)
  | [] => ([], none)
  | c :: cs =>
    if c = ':' && !brackets then ([], some cs)
    else
      let brackets := if c = '[' then true else if c = ']' then false else brackets
      let (host, number) := splitNumber brackets cs
      (c :: host, number)

/-- The number after a host, if digits are given. -/
def portNumber (cs : List Char) : Except UrlError (Option Nat) :=
  if cs.isEmpty then .ok none
  else
    match Ipv4.number? 10 cs with
    | some n => if n < 0x10000 then .ok (some n) else .error .portNumber
    | none => .error .portNumber

/-- A segment that stands for the directory itself, also when its dot is encoded. -/
def isSingleDot (cs : List Char) : Bool :=
  String.ofList (cs.map Char.toLower) ∈ [".", "%2e"]

/-- A segment that stands for the directory above. -/
def isDoubleDot (cs : List Char) : Bool :=
  String.ofList (cs.map Char.toLower) ∈ ["..", ".%2e", "%2e.", "%2e%2e"]

/-- A letter and a colon or bar, which name a drive. -/
def isDriveLetter : List Char → Bool
  | [c, d] => c.isAlpha && (d == ':' || d == '|')
  | _ => false

/-- The segments of the directory above; there is nothing above a drive. -/
def goUp : List (List Char) → List (List Char)
  | [] => []
  | s :: above => if isDriveLetter s then s :: above else above

/-- Resolves dots against the segments read so far, which stand in reverse order. A path that ends
with dots ends with a slash. -/
def resolveDots (above : List (List Char)) : List (List Char) → List (List Char)
  | [] => above.reverse
  | s :: rest =>
    if isDoubleDot s then resolveDots (if rest.isEmpty then [] :: goUp above else goUp above) rest
    else if isSingleDot s then resolveDots (if rest.isEmpty then [] :: above else above) rest
    else resolveDots (s :: above) rest

/-- The segments of a path, encoded; a path that is empty is a single slash. -/
def path (cs : List Char) : List (List Char) :=
  let slashed := cs.map fun c => if c = '\\' then '/' else c
  let segments := Text.split '/' (slashed.drop 1)
  resolveDots [] (segments.map (Percent.encode Percent.pathReserved))

/-- Query and fragment with the marks before them. -/
def queryAndFragment (cs : List Char) : Option (List Char) × Option (List Char) :=
  let query := match cs.takeWhile (· != '#') with
    | '?' :: q => some (Percent.encode Percent.queryReserved q)
    | _ => none
  let fragment := match cs.dropWhile (· != '#') with
    | '#' :: f => some (Percent.encode Percent.fragmentReserved f)
    | _ => none
  (query, fragment)

def isSlash (c : Char) : Bool := c == '/' || c == '\\'

/-- An address of the web after its scheme and colon. Any number of slashes may follow them. -/
def parseWeb (scheme : String) (defaultNumber : Nat) (cs : List Char) : Except UrlError WebUrl := do
  let cs := cs.dropWhile isSlash
  let authority := cs.takeWhile (!endsAuthority true ·)
  let rest := cs.dropWhile (!endsAuthority true ·)
  let (userinfo, located) := (splitUserinfo authority).getD ([], authority)
  let (host, number) := splitNumber false located
  if host.isEmpty then throw .emptyHost
  -- A bad host is reported before a bad number.
  let host ← Host.parse host
  let number ← portNumber (number.getD [])
  let isMark (c : Char) : Bool := c == '?' || c == '#'
  let (query, fragment) := queryAndFragment (rest.dropWhile (!isMark ·))
  return {
    scheme := scheme
    userinfo := encodeUserinfo userinfo
    host := host
    portNumber := if number = some defaultNumber then none else number
    path := path (rest.takeWhile (!isMark ·))
    query := query
    fragment := fragment }

/-- The host of a file, if there is one; a drive may stand in its place. -/
def checkFile : List Char → Except UrlError Unit
  | a :: b :: cs => do
    if isSlash a && isSlash b then
      let host := cs.takeWhile (!endsAuthority true ·)
      unless host.isEmpty || isDriveLetter host do
        let _ ← Host.parse host
  | _ => .ok ()

/-- The authority of an address under some other scheme, if there is one. -/
def checkForeign : List Char → Except UrlError Unit
  | '/' :: '/' :: cs => do
    let authority := cs.takeWhile (!endsAuthority false ·)
    let rest := cs.dropWhile (!endsAuthority false ·)
    if authority = ['@'] && !rest.isEmpty then throw .emptyHost
    let (userinfo, located) := (splitUserinfo authority).getD ([], authority)
    let (host, number) := splitNumber false located
    Host.checkOpaque host
    if host.isEmpty && (number.isSome || !(encodeUserinfo userinfo).isEmpty) then
      throw .emptyHost
    let _ ← portNumber ((number.getD []).takeWhile (· != '\\'))
  | _ => .ok ()

end Url

def Address.parse (text : String) : Except UrlError Address :=
  match Url.scheme? (Url.cleaned text.toList) with
  | none => .error .relative
  | some (scheme, rest) =>
    match Url.webPorts.lookup scheme with
    | some number => do return .web (← Url.parseWeb scheme number rest)
    | none => do
      if scheme = "file" then Url.checkFile rest else Url.checkForeign rest
      return .foreign scheme

end TypedClient
