import TypedClient.Text

/-!
# Percent encoding

Characters that may not stand in a part of an address are written as the bytes of their UTF-8 form,
each a percent sign and two hexadecimal digits.
-/

namespace TypedClient.Percent

def hexByte (b : UInt8) : List Char :=
  let digit (n : Nat) : Char := (Nat.digitChar n).toUpper
  ['%', digit (b.toNat / 16), digit (b.toNat % 16)]

/-- Controls and characters beyond ASCII are always encoded. -/
def isControl (c : Char) : Bool := c.toNat < 0x20 || 0x7E < c.toNat

/-- Encodes the controls and the characters of `reserved`. -/
def encode (reserved : String) (cs : List Char) : List Char :=
  cs.flatMap fun c =>
    if isControl c || reserved.toList.contains c then (String.utf8EncodeChar c).flatMap hexByte
    else [c]

def fragmentReserved : String := " \"<>`"

def queryReserved : String := " \"#<>'"

def pathReserved : String := " \"#<>?`\x7b\x7d"

def userinfoReserved : String := " \"#<>?`\x7b\x7d/:;=@[\\]^|"

/-- The bytes of a text, where a percent sign and two digits stand for one byte. -/
def decode : List Char → List UInt8
  | [] => []
  | '%' :: a :: b :: rest =>
    match Text.hexValue? [a, b] with
    | some n => n.toUInt8 :: decode rest
    | none => '%'.toUInt8 :: decode (a :: b :: rest)
  | c :: rest => String.utf8EncodeChar c ++ decode rest

end TypedClient.Percent
