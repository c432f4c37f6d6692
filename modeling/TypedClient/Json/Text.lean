import TypedClient.Text

/-!
# JSON strings

Writing a text as a JSON string, and reading string literals. A literal whose escapes leave a
surrogate without its partner is well formed, and stands for no text.
-/

namespace TypedClient.Json

/-- Two lower-case hexadecimal digits. -/
def hexPair (n : Nat) : List Char :=
  [Nat.digitChar (n / 16), Nat.digitChar (n % 16)]

def quoteChar : Char → List Char
  | '"' => ['\\', '"']
  | '\\' => ['\\', '\\']
  | '\x08' => ['\\', 'b']
  | '\x0c' => ['\\', 'f']
  | '\n' => ['\\', 'n']
  | '\r' => ['\\', 'r']
  | '\t' => ['\\', 't']
  | c => if c.toNat < 0x20 then '\\' :: 'u' :: '0' :: '0' :: hexPair c.toNat else [c]

def quote (s : List Char) : List Char :=
  '"' :: s.flatMap quoteChar ++ ['"']

/-- A piece of a literal: a character, or the code unit of a numeric escape. -/
inductive Piece where
  | char (c : Char)
  | unit (n : Nat)

def escaped? : Char → Option Char
  | '"' => some '"'
  | '\\' => some '\\'
  | '/' => some '/'
  | 'b' => some '\x08'
  | 'f' => some '\x0c'
  | 'n' => some '\n'
  | 'r' => some '\r'
  | 't' => some '\t'
  | _ => none

/-- The pieces up to the closing quote, and what is left. -/
def pieces : List Char → Option (List Piece × List Char)
  | [] => none
  | '"' :: rest => some ([], rest)
  | '\\' :: 'u' :: a :: b :: c :: d :: rest => do
    let n ← Text.hexValue? [a, b, c, d]
    let (ps, rest) ← pieces rest
    return (.unit n :: ps, rest)
  | '\\' :: c :: rest => do
    let x ← escaped? c
    let (ps, rest) ← pieces rest
    return (.char x :: ps, rest)
  | c :: rest =>
    if c.toNat < 0x20 then none
    else do
      let (ps, rest) ← pieces rest
      return (.char c :: ps, rest)

def isHighSurrogate (n : Nat) : Bool := 0xD800 ≤ n && n ≤ 0xDBFF

def isLowSurrogate (n : Nat) : Bool := 0xDC00 ≤ n && n ≤ 0xDFFF

/-- The text of the pieces: a high and a low surrogate make one character. -/
def join : List Piece → Option (List Char)
  | [] => some []
  | .char c :: rest => do return c :: (← join rest)
  | .unit high :: .unit low :: rest =>
    if isHighSurrogate high && isLowSurrogate low then do
      let c ← Text.scalar? (0x10000 + (high - 0xD800) * 0x400 + (low - 0xDC00))
      return c :: (← join rest)
    else do
      let c ← Text.scalar? high
      return c :: (← join (.unit low :: rest))
  | .unit n :: rest => do
    let c ← Text.scalar? n
    return c :: (← join rest)

theorem length_of_pieces {cs rest : List Char} {ps : List Piece}
    (h : pieces cs = some (ps, rest)) : rest.length < cs.length := by
  fun_induction pieces cs generalizing ps with grind [Option.bind_eq_some_iff]

end TypedClient.Json
