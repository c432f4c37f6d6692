import TypedClient.Text

/-!
# TOML documents of texts and switches

A document is a list of keys and values, one on a line. Values are strings in any of their four
forms, and booleans. The other values of TOML, its tables and its dotted keys have no place in such
a document.
-/

namespace TypedClient

inductive TomlError where
  | malformed
  | unknownKey (key : String)
  | repeatedKey (key : String)
  | wrongType (key : String)
deriving DecidableEq

/-- A text for people; its wording is not part of the format. -/
def TomlError.message : TomlError → String
  | malformed => "TOML parse error: the text is no list of keys and values"
  | unknownKey key => "TOML parse error: unknown key `" ++ key ++ "`"
  | repeatedKey key => "TOML parse error: repeated key `" ++ key ++ "`"
  | wrongType key => "TOML parse error: wrong type of value for `" ++ key ++ "`"

inductive TomlValue where
  | string (s : String)
  | boolean (b : Bool)
deriving DecidableEq

namespace Toml

def isBlank (c : Char) : Bool := c == ' ' || c == '\t'

def dropBlanks (cs : List Char) : List Char := cs.dropWhile isBlank

/-- Characters of strings and comments: no controls but the tab. -/
def isTextChar (c : Char) : Bool := c == '\t' || (0x20 ≤ c.toNat && c.toNat != 0x7F)

def isBareKeyChar (c : Char) : Bool := c.isAlphanum || c == '_' || c == '-'

/-- Reads a line end, if one comes next. -/
def newline? : List Char → Option (List Char)
  | '\n' :: cs => some cs
  | '\r' :: '\n' :: cs => some cs
  | _ => none

/-- What follows a line on which only blanks and a comment are left. -/
def endLine? (cs : List Char) : Option (List Char) :=
  let rest := match dropBlanks cs with
    | '#' :: cs => cs.dropWhile isTextChar
    | cs => cs
  if rest.isEmpty then some [] else newline? rest

def escaped? : Char → Option Char
  | 'b' => some '\x08'
  | 't' => some '\t'
  | 'n' => some '\n'
  | 'f' => some '\x0c'
  | 'r' => some '\r'
  | '"' => some '"'
  | '\\' => some '\\'
  | _ => none

/-- The character of an escape after its backslash, and what is left. -/
def escape? : List Char → Option (Char × List Char)
  | 'u' :: a :: b :: c :: d :: rest => do
    let x ← Text.scalar? (← Text.hexValue? [a, b, c, d])
    return (x, rest)
  | 'U' :: a :: b :: c :: d :: e :: f :: g :: h :: rest => do
    let x ← Text.scalar? (← Text.hexValue? [a, b, c, d, e, f, g, h])
    return (x, rest)
  | c :: rest => (escaped? c).map fun x => (x, rest)
  | [] => none

/-- A line end escaped by a backslash, together with the blanks and line ends after it. -/
def escapedBreak? (cs : List Char) : Option (List Char) :=
  (newline? (dropBlanks cs)).map dropBreaks
where
  dropBreaks : List Char → List Char
    | ' ' :: cs => dropBreaks cs
    | '\t' :: cs => dropBreaks cs
    | '\n' :: cs => dropBreaks cs
    | '\r' :: '\n' :: cs => dropBreaks cs
    | cs => cs

/-- The text up to the closing quote, and what is left. -/
abbrev Reading := Option (List Char × List Char)

def Reading.cons (c : Char) (r : Reading) : Reading :=
  r.map fun (text, rest) => (c :: text, rest)

theorem length_of_newline? {cs rest : List Char} (h : newline? cs = some rest) :
    rest.length < cs.length := by
  unfold newline? at h
  split at h
  · obtain rfl := Option.some.inj h
    simp only [List.length_cons]
    omega
  · obtain rfl := Option.some.inj h
    simp only [List.length_cons]
    omega
  · cases h

theorem length_dropBreaks (cs : List Char) :
    (escapedBreak?.dropBreaks cs).length ≤ cs.length := by
  fun_induction escapedBreak?.dropBreaks cs with
  | case5 => exact Nat.le_refl _
  | _ =>
    simp only [List.length_cons]
    omega

theorem length_of_escapedBreak? {cs rest : List Char} (h : escapedBreak? cs = some rest) :
    rest.length < cs.length := by
  obtain ⟨r, hr, rfl⟩ := Option.map_eq_some_iff.1 h
  have h1 := length_of_newline? hr
  have h2 := length_dropBreaks r
  have h3 : (dropBlanks cs).length ≤ cs.length := (List.dropWhile_sublist _).length_le
  omega

theorem length_of_escape? {cs rest : List Char} {c : Char} (h : escape? cs = some (c, rest)) :
    rest.length < cs.length := by
  unfold escape? at h
  split at h
  · obtain ⟨n, _, h⟩ := Option.bind_eq_some_iff.1 h
    obtain ⟨x, _, h⟩ := Option.bind_eq_some_iff.1 h
    obtain ⟨_, rfl⟩ := Prod.mk.inj (Option.some.inj h)
    simp only [List.length_cons]
    omega
  · obtain ⟨n, _, h⟩ := Option.bind_eq_some_iff.1 h
    obtain ⟨x, _, h⟩ := Option.bind_eq_some_iff.1 h
    obtain ⟨_, rfl⟩ := Prod.mk.inj (Option.some.inj h)
    simp only [List.length_cons]
    omega
  · obtain ⟨x, _, h⟩ := Option.map_eq_some_iff.1 h
    obtain ⟨_, rfl⟩ := Prod.mk.inj h
    exact Nat.lt_succ_self _
  · cases h

/-- A basic string after its opening quote. -/
def basic (cs : List Char) : Reading :=
  match cs with
  | [] => none
  | '"' :: rest => some ([], rest)
  | '\\' :: rest =>
    match h : escape? rest with
    | some (c, rest') =>
      have := length_of_escape? h
      (basic rest').cons c
    | none => none
  | c :: rest => if isTextChar c then (basic rest).cons c else none
termination_by cs.length

/-- A basic string of several lines after its opening quotes. Line ends are read as line feeds, and
up to two quotes may stand before the closing ones. -/
def multilineBasic (cs : List Char) : Reading :=
  match cs with
  | [] => none
  | '"' :: '"' :: '"' :: '"' :: '"' :: rest => some (['"', '"'], rest)
  | '"' :: '"' :: '"' :: '"' :: rest => some (['"'], rest)
  | '"' :: '"' :: '"' :: rest => some ([], rest)
  | '\\' :: rest =>
    match hb : escapedBreak? rest with
    | some rest' =>
      have := length_of_escapedBreak? hb
      multilineBasic rest'
    | none =>
      match he : escape? rest with
      | some (c, rest') =>
        have := length_of_escape? he
        (multilineBasic rest').cons c
      | none => none
  | '\n' :: rest => (multilineBasic rest).cons '\n'
  | '\r' :: '\n' :: rest => (multilineBasic rest).cons '\n'
  | c :: rest => if isTextChar c then (multilineBasic rest).cons c else none
termination_by cs.length

/-- A literal string after its opening quote; a backslash is a character like others. -/
def literal : List Char → Reading
  | [] => none
  | '\x27' :: rest => some ([], rest)
  | c :: rest => if isTextChar c then (literal rest).cons c else none

/-- A literal string of several lines after its opening quotes. -/
def multilineLiteral : List Char → Reading
  | [] => none
  | '\x27' :: '\x27' :: '\x27' :: '\x27' :: '\x27' :: rest => some (['\x27', '\x27'], rest)
  | '\x27' :: '\x27' :: '\x27' :: '\x27' :: rest => some (['\x27'], rest)
  | '\x27' :: '\x27' :: '\x27' :: rest => some ([], rest)
  | '\n' :: rest => (multilineLiteral rest).cons '\n'
  | '\r' :: '\n' :: rest => (multilineLiteral rest).cons '\n'
  | c :: rest => if isTextChar c then (multilineLiteral rest).cons c else none

/-- A line end right after the opening quotes does not belong to the string. -/
def dropFirstBreak (cs : List Char) : List Char :=
  (newline? cs).getD cs

def string? : List Char → Reading
  | '"' :: '"' :: '"' :: rest => multilineBasic (dropFirstBreak rest)
  | '"' :: rest => basic rest
  | '\x27' :: '\x27' :: '\x27' :: rest => multilineLiteral (dropFirstBreak rest)
  | '\x27' :: rest => literal rest
  | _ => none

def value? : List Char → Option (TomlValue × List Char)
  | 't' :: 'r' :: 'u' :: 'e' :: rest => some (.boolean true, rest)
  | 'f' :: 'a' :: 'l' :: 's' :: 'e' :: rest => some (.boolean false, rest)
  | cs => (string? cs).map fun (text, rest) => (.string (String.ofList text), rest)

/-- A key is bare, or a string on one line. -/
def key? : List Char → Option (String × List Char)
  | '"' :: rest => (basic rest).map fun (text, rest) => (String.ofList text, rest)
  | '\x27' :: rest => (literal rest).map fun (text, rest) => (String.ofList text, rest)
  | cs =>
    match cs.takeWhile isBareKeyChar with
    | [] => none
    | text => some (String.ofList text, cs.dropWhile isBareKeyChar)

/-- A key, an equals sign and a value, up to the end of the line. -/
def entry? (cs : List Char) : Option ((String × TomlValue) × List Char) := do
  let (key, rest) ← key? cs
  let '=' :: rest := dropBlanks rest | none
  let (value, rest) ← value? (dropBlanks rest)
  return ((key, value), ← endLine? rest)

/-- The entries of a text. Every line is shorter than what it is read from. -/
def entries (cs : List Char) : Option (List (String × TomlValue)) :=
  if cs.isEmpty then some []
  else
    match endLine? cs with
    | some rest => if rest.length < cs.length then entries rest else none
    | none =>
      match entry? (dropBlanks cs) with
      | some (entry, rest) =>
        if rest.length < cs.length then (entries rest).map (entry :: ·) else none
      | none => none
termination_by cs.length

end Toml

/-- The keys and values of a TOML text. A byte order mark before it has no meaning. -/
def TomlValue.parse (text : String) : Option (List (String × TomlValue)) :=
  match text.toList with
  | '\ufeff' :: cs => Toml.entries cs
  | cs => Toml.entries cs

end TypedClient
