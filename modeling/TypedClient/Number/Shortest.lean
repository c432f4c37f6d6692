import TypedClient.Number.Binary64

/-!
# Shortest decimal text

The text of a binary64 number has the fewest digits that read back as the number, and of those the
nearest. It is always positional: no exponent, and no point unless a fraction follows.
-/

namespace TypedClient

/-- The interval of reals that round to `m · 2 ^ q`, over a common denominator: its value, its ends,
and whether the ends belong to it. -/
structure RoundingInterval where
  value : Nat
  low : Nat
  high : Nat
  den : Nat
  closed : Bool

namespace RoundingInterval

/-- Below a power of two the neighbours are twice as dense, so the lower end is half as far. -/
def ofSignificand (m : Nat) (q : Int) : RoundingInterval :=
  let quarter := Nat.pow 2 q.toNat
  let value := 4 * m * quarter
  let below :=
    if m = Binary64.leastNormal ∧ Binary64.leastExponent < q then quarter else 2 * quarter
  { value := value
    low := value - below
    high := value + 2 * quarter
    den := 4 * Nat.pow 2 (-q).toNat
    closed := m % 2 = 0 }

/-- Whether `n · 10 ^ p` lies in the interval. -/
def contains (i : RoundingInterval) (n : Nat) (p : Int) : Bool :=
  let x := n * Nat.pow 10 p.toNat * i.den
  let scale := Nat.pow 10 (-p).toNat
  if i.closed then i.low * scale ≤ x && x ≤ i.high * scale
  else i.low * scale < x && x < i.high * scale

/-- The exponent of the leading decimal digit of the value. -/
def leadingPower (i : RoundingInterval) : Int :=
  if i.den ≤ i.value then (Nat.toDigits 10 (i.value / i.den)).length - 1
  else
    -- Here `10 ^ (k - 1) ≤ (den - 1) / value < 10 ^ k`, which puts the value between `10 ^ -k` and
    -- `10 ^ (1 - k)`, the upper end left out.
    -((Nat.toDigits 10 ((i.den - 1) / i.value)).length : Int)

/-- The greatest `n` with `n · 10 ^ p` at most the value. -/
def floorAt (i : RoundingInterval) (p : Int) : Nat :=
  (i.value * Nat.pow 10 (-p).toNat) / (i.den * Nat.pow 10 p.toNat)

/-- Of the value's two neighbours on the grid of `10 ^ p`, the nearer one that lies in the interval.
The upper one is taken when both are equally near. -/
def onGrid (i : RoundingInterval) (p : Int) : Option Nat :=
  let n := i.floorAt p
  let nearer :=
    if 2 * i.value * Nat.pow 10 (-p).toNat < (2 * n + 1) * i.den * Nat.pow 10 p.toNat then n
    else n + 1
  let farther := if nearer = n then n + 1 else n
  if i.contains nearer p then some nearer
  else if i.contains farther p then some farther
  else none

/-- The first grid with a point in the interval, from `p` on; seventeen digits always suffice. -/
def shortestFrom (i : RoundingInterval) (p : Int) : Nat → Nat × Int
  | 0 => (i.floorAt p, p)
  | tries + 1 =>
    match i.onGrid p with
    | some n => (n, p)
    | none => i.shortestFrom (p - 1) tries

def shortest (i : RoundingInterval) : Nat × Int :=
  i.shortestFrom i.leadingPower 17

end RoundingInterval

namespace Binary64

/-- `digits · 10 ^ power` written with a decimal point where one is needed. -/
def positional (digits : Nat) (power : Int) : List Char :=
  let written := Nat.toDigits 10 digits
  if 0 ≤ power then written ++ List.replicate power.toNat '0'
  else
    let places := (-power).toNat
    let padded := List.replicate (places + 1 - written.length) '0' ++ written
    let whole := padded.take (padded.length - places)
    let fraction := (padded.drop (padded.length - places)).reverse.dropWhile (· == '0') |>.reverse
    if fraction.isEmpty then whole else whole ++ '.' :: fraction

def text : Binary64 → String
  | .infinite negative => if negative then "-inf" else "inf"
  | .finite negative m q =>
    let magnitude :=
      if m = 0 then ['0']
      else
        let (digits, power) := (RoundingInterval.ofSignificand m q).shortest
        positional digits power
    String.ofList (if negative then '-' :: magnitude else magnitude)

end Binary64

end TypedClient
