import TypedClient.Text

/-!
# Punycode

Labels of international domain names in ASCII: the plain characters, then the places and the code
points of the others as a sequence of numbers of variable length.
-/

namespace TypedClient.Punycode

def digit? (c : Char) : Option Nat :=
  if c.isLower then some (c.toNat - 'a'.toNat)
  else if c.isDigit then some (c.toNat - '0'.toNat + 26)
  else none

def digitChar (d : Nat) : Char :=
  Char.ofNat (if d < 26 then 'a'.toNat + d else '0'.toNat + (d - 26))

/-- The least digit that is not the last one of a number, at the place of weight `k`. -/
def threshold (k bias : Nat) : Nat :=
  if k ≤ bias + 1 then 1 else if bias + 26 ≤ k then 26 else k - bias

/-- Numbers and weights of digits fit into 32 bits. -/
def limit : Nat := 0xFFFFFFFF

/-- Reads a number: its digits from the least significant one on. -/
def number? (bias : Nat) (k weight total : Nat) : List Char → Option (Nat × List Char)
  | [] => none
  | c :: cs =>
    match digit? c with
    | none => none
    | some d =>
      let t := threshold k bias
      let total := total + d * weight
      let weight' := weight * (36 - t)
      if limit < total then none
      else if d < t then some (total, cs)
      else if limit < weight' then none
      else number? bias (k + 36) weight' total cs

theorem threshold_pos (k bias : Nat) : 1 ≤ threshold k bias := by
  unfold threshold
  split
  · exact Nat.le_refl 1
  · split
    · decide
    · omega

/-- Writes a number. -/
def digits (bias k n : Nat) : List Char :=
  let t := threshold k bias
  if h : n < t then [digitChar n]
  else
    have : (n - t) / (36 - t) < n := by
      have hpos := threshold_pos k bias
      have hle := Nat.div_le_self (n - t) (36 - t)
      omega
    digitChar (t + (n - t) % (36 - t)) :: digits bias (k + 36) ((n - t) / (36 - t))
termination_by n

/-- Brings a distance down to the range of one digit and counts the digits dropped. -/
def scaleDown (delta k : Nat) : Nat × Nat :=
  if 455 < delta then scaleDown (delta / 35) (k + 36) else (delta, k)

/-- The bias for the next number. -/
def adapt (delta points : Nat) (first : Bool) : Nat :=
  let delta := if first then delta / 700 else delta / 2
  let (delta, k) := scaleDown (delta + delta / points) 0
  k + 36 * delta / (delta + 38)

/-- The code points after ASCII start here. -/
def firstCode : Nat := 0x80

def firstBias : Nat := 72

/-- Inserts the characters that the numbers denote into `out`. -/
def insertAll (code place bias : Nat) (first : Bool) (out cs : List Char) : Option (List Char) :=
  if cs.isEmpty then some out
  else
    match number? bias 36 1 place cs with
    | none => none
    | some (total, rest) =>
      let points := out.length + 1
      let code := code + total / points
      match Text.scalar? code with
      | none => none
      | some c =>
        let index := total % points
        if rest.length < cs.length then
          insertAll code (index + 1) (adapt (total - place) points first) false
            (out.take index ++ c :: out.drop index) rest
        else none
termination_by cs.length

/-- The text of a label: what stands before the last hyphen is plain. A hyphen at the very start has
nothing before it and is no digit either. -/
def decode (label : List Char) : Option (List Char) :=
  let tail := (label.reverse.takeWhile (· != '-')).reverse
  let plain := label.take (label.length - tail.length - 1)
  if plain.isEmpty then insertAll firstCode 0 firstBias true [] label
  else insertAll firstCode 0 firstBias true plain tail

/-- What is known while characters are written in the order of their code points: `delta` counts the
places passed over since the last one. -/
structure Progress where
  delta : Nat
  bias : Nat
  done : Nat
  first : Bool
  out : List Char

/-- Passes over a place, and writes its number if the character of the code `code` stands there. -/
def Progress.visit (code : Nat) (p : Progress) (c : Char) : Progress :=
  if c.toNat < code then { p with delta := p.delta + 1 }
  else if c.toNat = code then
    { delta := 0
      bias := adapt p.delta (p.done + 1) p.first
      done := p.done + 1
      first := false
      out := p.out ++ digits p.bias 36 p.delta }
  else p

/-- Writes the places of the characters of each code, in increasing order of the codes. -/
def encodeCodes (label : List Char) (next : Nat) (p : Progress) : List Nat → List Char
  | [] => p.out
  | code :: codes =>
    let p := { p with delta := p.delta + (code - next) * (p.done + 1) }
    let p := label.foldl (Progress.visit code) p
    encodeCodes label (code + 1) { p with delta := p.delta + 1 } codes

/-- Inserts a code into increasing ones, where it stands once. -/
def insertCode (n : Nat) : List Nat → List Nat
  | [] => [n]
  | m :: rest =>
    if n < m then n :: m :: rest
    else if n = m then m :: rest
    else m :: insertCode n rest

def encode (label : List Char) : List Char :=
  let plain := label.filter (·.toNat < firstCode)
  let codes := ((label.map Char.toNat).filter (firstCode ≤ ·)).foldr insertCode []
  let start := if plain.isEmpty then [] else plain ++ ['-']
  encodeCodes label firstCode
    { delta := 0, bias := firstBias, done := plain.length, first := true, out := start } codes

end TypedClient.Punycode
