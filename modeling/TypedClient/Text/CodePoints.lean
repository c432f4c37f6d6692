import TypedClient.Text

/-!
# Tables of code points

Tables that map characters to characters at fixed distances are kept as runs. Large tables are kept
as texts: code points in hexadecimal, with blanks and line ends between them.
-/

namespace TypedClient.Text

/-- Every `step`-th character from `first` to `last` has an image, and the images stand at the same
distances from each other, from `image` on. -/
structure CharRun where
  first : Nat
  last : Nat
  step : Nat
  image : Nat

namespace CharRun

def contains (r : CharRun) (n : Nat) : Bool :=
  r.first ≤ n && n ≤ r.last && (n - r.first) % r.step == 0

/-- The image of a character under the first run that contains it. -/
def image? (runs : List CharRun) (c : Char) : Option Char :=
  (runs.find? (·.contains c.toNat)).map fun r => Char.ofNat (c.toNat - r.first + r.image)

end CharRun

/-- The words of a table. -/
def words (table : String) : List (List Char) :=
  (split ' ' (table.toList.map fun c => if c = '\n' then ' ' else c)).filter (!·.isEmpty)

/-- A code point of a table. -/
def codePoint (cs : List Char) : Nat :=
  (hexValue? cs).getD 0

/-- A set of characters, as ranges of their code points. -/
abbrev CodePoints := List (Nat × Nat)

namespace CodePoints

/-- A word is a code point, or the ends of a range with a hyphen between them. -/
def read (table : String) : CodePoints :=
  (words table).map fun word =>
    match split '-' word with
    | [first, last] => (codePoint first, codePoint last)
    | _ => (codePoint word, codePoint word)

def contains (ranges : CodePoints) (c : Char) : Bool :=
  ranges.any fun (first, last) => first ≤ c.toNat && c.toNat ≤ last

end CodePoints

/-- Texts for characters. -/
abbrev Images := List (Char × List Char)

namespace Images

/-- A word with a colon gives the character that the next text belongs to, and the texts after it
belong to the characters that follow. The code points of a text have plus signs between them. -/
def read (table : String) : Images :=
  go 0 (words table)
where
  go (n : Nat) : List (List Char) → Images
    | [] => []
    | word :: rest =>
      match split ':' word with
      | [start, _] => go (codePoint start) rest
      | _ => (Char.ofNat n, (split '+' word).map (Char.ofNat <| codePoint ·)) :: go (n + 1) rest

end Images

end TypedClient.Text
