import TypedClient.Idna.CanonicalForm
import TypedClient.Idna.Direction
import TypedClient.Idna.Joining
import TypedClient.Idna.Mapping
import TypedClient.Idna.Punycode
import TypedClient.Text

/-!
# International domain names

A domain name may be written with the characters of many scripts. `Idna.toAscii` brings a name into
its usual form, checks its labels, and writes those beyond ASCII as Punycode.
-/

namespace TypedClient.Idna

/-- A label of a name as it is read and as it is sent. -/
structure Label where
  text : List Char
  ascii : List Char

namespace Label

/-- How long the Punycode of a label may be. -/
def encodedLimit : Nat := 2000

/-- How many characters a label beyond ASCII may have. -/
def textLimit : Nat := 1000

def isAscii (cs : List Char) : Bool :=
  cs.all (·.toNat < 0x80)

/-- The text of a label that comes as Punycode. It has to be in the usual form already, and it may
not be one that needs no Punycode. -/
def decode? (encoded : List Char) : Option (List Char) := do
  guard (encoded.length ≤ encodedLimit && isAscii encoded && encoded.getLast?.any (· != '-'))
  let text ← Punycode.decode encoded
  guard (text.all (Status.of · == .valid) && canonicalForm text == text)
  return text

/-- A label of a name in its usual form. -/
def read (cs : List Char) : Option Label :=
  match cs with
  | 'x' :: 'n' :: '-' :: '-' :: encoded => (decode? encoded).map fun text => ⟨text, cs⟩
  | _ => some ⟨cs, if isAscii cs then cs else ['x', 'n', '-', '-'] ++ Punycode.encode cs⟩

/-- A label does not start with a mark, its joiners have an effect, and it is not too long. -/
def isSound (l : Label) : Bool :=
  !l.text.head?.any isMark && joinersFit [] l.text &&
    (isAscii l.text || l.text.length ≤ textLimit)

end Label

/-- Once a label runs from right to left, every label has to have one direction. -/
def directionsFit (labels : List Label) : Bool :=
  !labels.any (runsRightToLeft ·.text) || labels.all (hasOneDirection ·.text)

/-- The name in ASCII, unless it holds characters that are forbidden or makes no valid name. -/
def toAscii (forbidden : Char → Bool) (name : List Char) : Option (List Char) := do
  let mapped ← map? name
  let usual := canonicalForm mapped
  guard (!usual.any forbidden)
  let labels ← (Text.split '.' usual).mapM Label.read
  guard (labels.all Label.isSound && directionsFit labels)
  return ['.'].intercalate (labels.map Label.ascii)

end TypedClient.Idna
