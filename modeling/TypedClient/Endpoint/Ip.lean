import TypedClient.Error
import TypedClient.Text

/-!
# Numeric addresses

Addresses of the Internet Protocol in the notations that addresses on the web may use.
-/

namespace TypedClient

namespace Ipv4

/-- The number that digits denote in a base. -/
def number? (base : Nat) (cs : List Char) : Option Nat :=
  cs.foldlM (fun n c => do
    let d ← Text.hexDigit? c
    if d < base then some (base * n + d) else none) 0

/-- A part is hexadecimal after `0x`, octal after a zero, and decimal otherwise. -/
def part? : List Char → Option Nat
  | [] => none
  | '0' :: 'x' :: cs => number? 16 cs
  | '0' :: 'X' :: cs => number? 16 cs
  | '0' :: c :: cs => number? 8 (c :: cs)
  | cs => number? 10 cs

/-- The parts of a dotted text; a final dot opens no further part. -/
def parts (cs : List Char) : List (List Char) :=
  match (Text.split '.' cs).reverse with
  | [] :: rest => rest.reverse
  | rest => rest.reverse

/-- A host whose last part is a number can only be a numeric address. -/
def endsInNumber (cs : List Char) : Bool :=
  match (parts cs).getLast? with
  | none => false
  | some last => (!last.isEmpty && last.all Char.isDigit) || (part? last).isSome

/-- All parts but the last are bytes; the last part fills the bytes that are left. -/
def combine : Nat → List Nat → Option Nat
  | _, [] => none
  | 0, _ :: _ => none
  | bytes + 1, [n] => if n < Nat.pow 256 (bytes + 1) then some n else none
  | bytes + 1, n :: m :: rest =>
    if n < 256 then (combine bytes (m :: rest)).map (n * Nat.pow 256 bytes + ·) else none

def parse (cs : List Char) : Except UrlError Nat :=
  match (parts cs).mapM part? with
  | none => .error .ipv4
  | some ns =>
    match combine 4 ns with
    | none => .error .ipv4
    | some n => .ok n

def text (n : Nat) : List Char :=
  ['.'].intercalate
    ([n / 0x1000000, n / 0x10000 % 256, n / 0x100 % 256, n % 256].map (Nat.toDigits 10 ·))

end Ipv4

namespace Ipv6

/-- A piece has one to four hexadecimal digits. -/
def piece? (cs : List Char) : Option Nat :=
  if 1 ≤ cs.length ∧ cs.length ≤ 4 then Text.hexValue? cs else none

/-- A byte in decimal without superfluous zeros. -/
def byte? (cs : List Char) : Option Nat :=
  if cs.isEmpty || !cs.all Char.isDigit || (cs.head? = some '0' && cs.length ≠ 1) then none
  else
    match Ipv4.number? 10 cs with
    | some n => if n < 256 then some n else none
    | none => none

/-- Four dotted bytes make two pieces. -/
def dotted? (cs : List Char) : Option (List Nat) :=
  match (Text.split '.' cs).mapM byte? with
  | some [a, b, c, d] => some [256 * a + b, 256 * c + d]
  | _ => none

/-- The pieces between colons; the last one may be dotted when `dotted` holds. -/
def pieces? (dotted : Bool) : List (List Char) → Option (List Nat)
  | [] => some []
  | [last] =>
    if dotted && last.contains '.' then dotted? last else (piece? last).map ([·])
  | p :: q :: rest => do
    let n ← piece? p
    return n :: (← pieces? dotted (q :: rest))

/-- The parts around the first double colon. -/
def splitGap : List Char → Option (List Char × List Char)
  | ':' :: ':' :: rest => some ([], rest)
  | c :: rest => (splitGap rest).map fun (before, after) => (c :: before, after)
  | [] => none

def side? (dotted : Bool) (cs : List Char) : Option (List Nat) :=
  if cs.isEmpty then some [] else pieces? dotted (Text.split ':' cs)

/-- The eight pieces of an address; a double colon stands for one or more pieces of zero. -/
def parse? (cs : List Char) : Option (List Nat) :=
  match splitGap cs with
  | none => do
    let ns ← side? true cs
    if ns.length = 8 then some ns else none
  | some (before, after) => do
    let left ← side? false before
    let right ← side? true after
    let written := left.length + right.length
    if written ≤ 7 then some (left ++ List.replicate (8 - written) 0 ++ right) else none

def parse (cs : List Char) : Except UrlError (List Nat) :=
  match parse? cs with
  | some ns => .ok ns
  | none => .error .ipv6

/-- How many zeros stand at the start. -/
def zeros (ns : List Nat) : Nat := (ns.takeWhile (· == 0)).length

/-- Place and length of the first longest run of zeros. -/
def longestGap (i : Nat) : List Nat → Nat × Nat
  | [] => (i, 0)
  | n :: ns =>
    let here := zeros (n :: ns)
    let (j, best) := longestGap (i + 1) ns
    if best ≤ here then (i, here) else (j, best)

def hexText (ns : List Nat) : List Char :=
  [':'].intercalate (ns.map (Nat.toDigits 16 ·))

/-- The first longest run of two or more zeros is written as a double colon. -/
def text (ns : List Nat) : List Char :=
  let (place, length) := longestGap 0 ns
  if length < 2 then hexText ns
  else hexText (ns.take place) ++ [':', ':'] ++ hexText (ns.drop (place + length))

end Ipv6

end TypedClient
