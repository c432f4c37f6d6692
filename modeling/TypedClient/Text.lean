/-!
# Texts

Texts as lists of characters: their parts, lines and blanks, and the numbers that are written in
them.
-/

namespace TypedClient.Text

/-- The parts between separators; a text without separators is one part. -/
def split (separator : Char) : List Char → List (List Char)
  | [] => [[]]
  | c :: cs =>
    if c = separator then [] :: split separator cs
    else
      match split separator cs with
      | [] => [[c]]
      | part :: parts => (c :: part) :: parts

/-! ## Lines

A line ends at a line feed, and a carriage return right before it belongs to the line end. A line
feed at the very end opens no further line.
-/

def lines : List Char → List (List Char)
  | [] => []
  | '\n' :: cs => [] :: lines cs
  | '\r' :: '\n' :: cs => [] :: lines cs
  | c :: cs =>
    match lines cs with
    | [] => [[c]]
    | line :: rest => (c :: line) :: rest

/-- Writes `pad` before every line that is not empty, and a line feed after every line. -/
def indent (pad s : List Char) : List Char :=
  (lines s).flatMap fun line =>
    if line.isEmpty then ['\n'] else pad ++ line ++ ['\n']

/-! ## Blanks -/

/-- The property `White_Space`: ten ranges, twenty-five characters. -/
def isBlank (c : Char) : Bool :=
  let n := c.toNat
  (0x9 ≤ n && n ≤ 0xD) || n == 0x20 || n == 0x85 || n == 0xA0 || n == 0x1680 ||
    (0x2000 ≤ n && n ≤ 0x200A) || n == 0x2028 || n == 0x2029 || n == 0x202F || n == 0x205F ||
    n == 0x3000

/-- The text without the blanks at its end. -/
def trimEnd (s : List Char) : List Char :=
  (s.reverse.dropWhile isBlank).reverse

/-- Whether a text holds nothing but blanks. -/
def allBlank (s : List Char) : Bool :=
  s.all isBlank

/-! ## Hexadecimal digits -/

def hexDigit? (c : Char) : Option Nat :=
  if c.isDigit then some (c.toNat - '0'.toNat)
  else if 'a' ≤ c && c ≤ 'f' then some (c.toNat - 'a'.toNat + 10)
  else if 'A' ≤ c && c ≤ 'F' then some (c.toNat - 'A'.toNat + 10)
  else none

/-- The number that hexadecimal digits denote, the first one most significant. -/
def hexValue? (cs : List Char) : Option Nat :=
  cs.foldlM (fun n c => (hexDigit? c).map (16 * n + ·)) 0

/-- The character of a code point; a surrogate has none. -/
def scalar? (n : Nat) : Option Char :=
  if n.isValidChar then some (Char.ofNat n) else none

end TypedClient.Text
