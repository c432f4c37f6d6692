import TypedClient.Text

/-!
# String literals

Quoted strings stand on one line and have escapes. Block strings stand between triple quotes, where
only a triple quote can be escaped, and lose their common indent.
-/

namespace TypedClient.StringLiteral

/-- Splits at the quote that closes a quoted string; the string may not hold a line feed. -/
def splitQuoted : List Char → Option (List Char × List Char)
  | [] => none
  | '"' :: rest => some ([], rest)
  | '\n' :: _ => none
  | '\\' :: '\n' :: _ => none
  | '\\' :: c :: rest => (splitQuoted rest).map fun (body, rest) => ('\\' :: c :: body, rest)
  | c :: rest => (splitQuoted rest).map fun (body, rest) => (c :: body, rest)

theorem length_of_splitQuoted {cs body rest : List Char}
    (h : splitQuoted cs = some (body, rest)) : rest.length < cs.length := by
  fun_induction splitQuoted cs generalizing body with grind [Option.map_eq_some_iff]

/-- Splits at the first triple quote without a backslash before it. -/
def splitBlock : List Char → Option (List Char × List Char)
  | [] => none
  | '"' :: '"' :: '"' :: rest => some ([], rest)
  | '\\' :: '"' :: '"' :: '"' :: rest =>
    (splitBlock rest).map fun (body, rest) => ('\\' :: '"' :: '"' :: '"' :: body, rest)
  | c :: rest => (splitBlock rest).map fun (body, rest) => (c :: body, rest)

theorem length_of_splitBlock {cs body rest : List Char}
    (h : splitBlock cs = some (body, rest)) : rest.length < cs.length := by
  fun_induction splitBlock cs generalizing body with grind [Option.map_eq_some_iff]

/-- The character of four hexadecimal digits, of which the first may be a plus sign. -/
def codeUnit? (a b c d : Char) : Option Char := do
  let n ← if a = '+' then Text.hexValue? [b, c, d] else Text.hexValue? [a, b, c, d]
  Text.scalar? n

/-- The character that a letter after a backslash stands for; for `b` that is U+0010, and not the
backspace. -/
def escaped? : Char → Option Char
  | '"' => some '"'
  | '\\' => some '\\'
  | '/' => some '/'
  | 'b' => some '\x10'
  | 'f' => some '\x0c'
  | 'n' => some '\n'
  | 'r' => some '\r'
  | 't' => some '\t'
  | _ => none

/-- The text of a quoted string. -/
def unescape : List Char → Option (List Char)
  | [] => some []
  | '\\' :: 'u' :: a :: b :: c :: d :: rest => do
    let x ← codeUnit? a b c d
    return x :: (← unescape rest)
  | '\\' :: c :: rest => do
    let x ← escaped? c
    return x :: (← unescape rest)
  | ['\\'] => none
  | c :: rest => do return c :: (← unescape rest)

/-- The size of a text in bytes. -/
def byteSize (cs : List Char) : Nat :=
  cs.foldl (fun n c => n + c.utf8Size) 0

/-- The size of the leading blanks of a line. -/
def indentSize (line : List Char) : Nat :=
  byteSize (line.takeWhile Text.isBlank)

def dropBytes : Nat → List Char → List Char
  | _, [] => []
  | 0, cs => cs
  | n + 1, c :: cs => dropBytes (n + 1 - c.utf8Size) cs

/-- Removes an indent from a line that is at least as long. -/
def unindent (size : Nat) (line : List Char) : List Char :=
  if size ≤ byteSize line then dropBytes size line else line

def unescapeTriple : List Char → List Char
  | [] => []
  | '\\' :: '"' :: '"' :: '"' :: rest => '"' :: '"' :: '"' :: unescapeTriple rest
  | c :: rest => c :: unescapeTriple rest

/-- Removes the common indent of all lines but the first. -/
def stripIndent : List (List Char) → List (List Char)
  | [] => []
  | first :: rest =>
    match ((rest.filter (!Text.allBlank ·)).map indentSize).min? with
    | some common => first :: rest.map (unindent common)
    | none => first :: rest

/-- The text of a block string: without common indent and without blank lines at either end. -/
def blockText (raw : List Char) : List Char :=
  let kept := (stripIndent (Text.lines raw)).dropWhile Text.allBlank
  let kept := (kept.reverse.dropWhile Text.allBlank).reverse
  ['\n'].intercalate (kept.map unescapeTriple)

/-- Characters that every string may show as they are. -/
def isPlain (c : Char) : Bool :=
  c == '\n' || c == '\r' || c == '\t' || (0x20 ≤ c.toNat && c.toNat ≤ 0xFFFF)

/-- A character in a quoted string; one that is not plain shows its code in decimal. -/
def quoteChar (c : Char) : List Char :=
  match c with
  | '\r' => ['\\', 'r']
  | '\n' => ['\\', 'n']
  | '\t' => ['\\', 't']
  | '"' => ['\\', '"']
  | '\\' => ['\\', '\\']
  | c =>
    if isPlain c then [c]
    else
      let digits := Nat.toDigits 10 c.toNat
      '\\' :: 'u' :: (List.replicate (4 - digits.length) '0' ++ digits)

def escapeTriple : List Char → List Char
  | [] => []
  | '"' :: '"' :: '"' :: rest => '\\' :: '"' :: '"' :: '"' :: escapeTriple rest
  | c :: rest => c :: escapeTriple rest

/-- Writes a text as a quoted string, or as a block string at the given indent when the text has
several lines of plain characters. -/
def print (indent : Nat) (s : List Char) : List Char :=
  if s.contains '\n' && s.all isPlain then
    let margin := List.replicate indent ' '
    let body := (Text.lines s).flatMap fun line =>
      if Text.allBlank line then ['\n'] else margin ++ [' ', ' '] ++ escapeTriple line ++ ['\n']
    ['"', '"', '"', '\n'] ++ body ++ margin ++ ['"', '"', '"']
  else
    '"' :: s.flatMap quoteChar ++ ['"']

end TypedClient.StringLiteral
