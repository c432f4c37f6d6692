/-!
# Binary64 numbers

The numbers of the 64-bit binary format that a decimal numeral can denote: a significand times a
power of two, or an infinity when the numeral is too large.
-/

namespace TypedClient

/-- `finite s m q` is `m · 2 ^ q`, negated when `s` holds. The significand is below `2 ^ 53`, and at
least `2 ^ 52` unless the exponent is the least one, `-1074`. -/
inductive Binary64 where
  | finite (negative : Bool) (significand : Nat) (exponent : Int)
  | infinite (negative : Bool)
deriving DecidableEq

namespace Binary64

def leastExponent : Int := -1074

def greatestExponent : Int := 971

/-- The least significand with 53 bits. -/
def leastNormal : Nat := 0x10000000000000

/-- `n / d` to the nearest whole number, a half to the even neighbour. -/
def roundHalfEven (n d : Nat) : Nat :=
  let quotient := n / d
  let twice := 2 * (n % d)
  if twice < d ∨ (twice = d ∧ quotient % 2 = 0) then quotient else quotient + 1

/-- The power of two at which the significand of `num / den` has 53 bits. -/
def unitExponent (num den : Nat) : Int :=
  let e : Int := (num.log2 : Int) - den.log2
  let reached := if 0 ≤ e then den * Nat.pow 2 e.toNat ≤ num else den ≤ num * Nat.pow 2 (-e).toNat
  max ((if reached then e else e - 1) - 52) leastExponent

/-- The number nearest to `num / den`, of two equally near ones that with an even significand. -/
def ofRatio (negative : Bool) (num den : Nat) : Binary64 :=
  let q := unitExponent num den
  let m :=
    if 0 ≤ q then roundHalfEven num (den * Nat.pow 2 q.toNat)
    else roundHalfEven (num * Nat.pow 2 (-q).toNat) den
  let (m, q) := if m = 2 * leastNormal then (leastNormal, q + 1) else (m, q)
  if greatestExponent < q then .infinite negative else .finite negative m q

/-- The number nearest to `digits · 10 ^ exponent`. Magnitudes far outside the format are settled by
their number of digits, so that no huge power is computed. -/
def ofDecimal (negative : Bool) (digits : Nat) (exponent : Int) : Binary64 :=
  let magnitude : Int := (Nat.toDigits 10 digits).length + exponent
  if digits = 0 ∨ magnitude < -330 then .finite negative 0 leastExponent
  else if 310 < magnitude then .infinite negative
  else if 0 ≤ exponent then ofRatio negative (digits * Nat.pow 10 exponent.toNat) 1
  else ofRatio negative digits (Nat.pow 10 (-exponent).toNat)

end Binary64

end TypedClient
