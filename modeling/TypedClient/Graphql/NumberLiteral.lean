import TypedClient.Graphql.Token

/-!
# Number literals

A number runs up to the next blank or punctuator. With a point or an exponent it is a float,
otherwise an integer of 64 bits.
-/

namespace TypedClient.NumberLiteral

/-- Whether a character ends a number. -/
def isEnd (c : Char) : Bool :=
  " \n\r\t,#!$:=@|&()[]\x7b\x7d".toList.contains c

/-- The parts before and after the last character that `p` accepts. -/
def splitLast (p : Char → Bool) (cs : List Char) : Option (List Char × List Char) :=
  match cs.reverse.dropWhile (!p ·) with
  | [] => none
  | _ :: before => some (before.reverse, (cs.reverse.takeWhile (!p ·)).reverse)

def digitsValue (cs : List Char) : Nat :=
  cs.foldl (fun n c => 10 * n + (c.toNat - '0'.toNat)) 0

def areDigits (cs : List Char) : Bool :=
  !cs.isEmpty && cs.all Char.isDigit

/-- Sign and digits of a whole number without superfluous zeros. -/
def whole? : List Char → Option (Bool × List Char)
  | '-' :: cs => if isCanonical cs then some (true, cs) else none
  | cs => if isCanonical cs then some (false, cs) else none
where
  isCanonical (cs : List Char) : Bool :=
    cs == ['0'] || (areDigits cs && cs.head? != some '0')

/-- An exponent has a sign, or starts with one of the digits 1 to 8. -/
def exponent? : List Char → Option Int
  | '+' :: cs => if areDigits cs then some (digitsValue cs) else none
  | '-' :: cs => if areDigits cs then some (-digitsValue cs) else none
  | c :: cs =>
    if '1' ≤ c && c ≤ '8' && cs.all Char.isDigit then some (digitsValue (c :: cs)) else none
  | [] => none

def integer? (cs : List Char) : Option Int := do
  let (negative, digits) ← whole? cs
  let n : Int := if negative then -digitsValue digits else digitsValue digits
  if -0x8000000000000000 ≤ n ∧ n < 0x8000000000000000 then some n else none

def float? (cs : List Char) : Option Binary64 := do
  let (mantissa, exponent) ←
    match splitLast (fun c => c == 'e' || c == 'E') cs with
    | some (before, after) => (exponent? after).map fun e => (before, e)
    | none => some (cs, 0)
  match splitLast (· == '.') mantissa with
  | some (before, fraction) =>
    let (negative, digits) ← whole? before
    if areDigits fraction then
      some (.ofDecimal negative (digitsValue (digits ++ fraction)) (exponent - fraction.length))
    else none
  | none =>
    let (negative, digits) ← whole? mantissa
    some (.ofDecimal negative (digitsValue digits) exponent)

def token? (cs : List Char) : Option Token :=
  if cs.any (fun c => c == '.' || c == 'e' || c == 'E') then (float? cs).map .float
  else (integer? cs).map .int

end TypedClient.NumberLiteral
