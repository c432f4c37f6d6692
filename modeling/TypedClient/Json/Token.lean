import TypedClient.Json.Text

/-!
# JSON tokens

The tokens of JSON texts, and passing over a value of any shape.
-/

namespace TypedClient.Json

/-- A text token is `none` when its literal stands for no text. -/
inductive Token where
  | openBrace
  | closeBrace
  | openBracket
  | closeBracket
  | colon
  | comma
  | null
  | boolean (b : Bool)
  | number
  | text (s : Option String)
deriving DecidableEq

inductive Bracket where
  | brace
  | bracket
deriving DecidableEq

def isBlank (c : Char) : Bool :=
  c == ' ' || c == '\n' || c == '\t' || c == '\r'

def isNumberChar (c : Char) : Bool :=
  c.isDigit || c == '-' || c == '+' || c == '.' || c == 'e' || c == 'E'

def dropDigits (cs : List Char) : List Char := cs.dropWhile Char.isDigit

/-- Drops one or more digits. -/
def dropSomeDigits : List Char → Option (List Char)
  | c :: cs => if c.isDigit then some (dropDigits cs) else none
  | [] => none

/-- A number has no superfluous zero, and digits after a point and in an exponent. -/
def isNumber (cs : List Char) : Bool :=
  let cs := match cs with
    | '-' :: cs => cs
    | cs => cs
  let whole := match cs with
    | '0' :: cs => some cs
    | cs => dropSomeDigits cs
  let fraction := whole.bind fun
    | '.' :: cs => dropSomeDigits cs
    | cs => some cs
  let exponent := fraction.bind fun
    | c :: cs =>
      if c == 'e' || c == 'E' then
        match cs with
        | '+' :: cs | '-' :: cs => dropSomeDigits cs
        | cs => dropSomeDigits cs
      else some (c :: cs)
    | [] => some []
  exponent == some []

namespace Token

/-- The token that starts with `c`, and what is left. -/
def scanOne (c : Char) (cs : List Char) : Option (Token × List Char) :=
  match c, cs with
  | '\x7b', _ => some (openBrace, cs)
  | '\x7d', _ => some (closeBrace, cs)
  | '[', _ => some (openBracket, cs)
  | ']', _ => some (closeBracket, cs)
  | ':', _ => some (colon, cs)
  | ',', _ => some (comma, cs)
  | 'n', 'u' :: 'l' :: 'l' :: rest => some (null, rest)
  | 't', 'r' :: 'u' :: 'e' :: rest => some (boolean true, rest)
  | 'f', 'a' :: 'l' :: 's' :: 'e' :: rest => some (boolean false, rest)
  | '"', _ => (pieces cs).map fun (ps, rest) => (text ((join ps).map String.ofList), rest)
  | _, _ =>
    if isNumber (c :: cs.takeWhile isNumberChar) then
      some (number, cs.dropWhile isNumberChar)
    else none

theorem length_of_scanOne {c : Char} {cs rest : List Char} {t : Token}
    (h : scanOne c cs = some (t, rest)) : rest.length ≤ cs.length := by
  unfold scanOne at h
  split at h
  case h_10 =>
    obtain ⟨⟨ps, r⟩, hp, he⟩ := Option.map_eq_some_iff.1 h
    have hlt := length_of_pieces hp
    obtain ⟨_, rfl⟩ := Prod.mk.inj he
    omega
  case h_11 =>
    split at h
    · obtain ⟨_, rfl⟩ := Prod.mk.inj (Option.some.inj h)
      exact (List.dropWhile_sublist _).length_le
    · cases h
  case h_7 | h_8 | h_9 =>
    obtain ⟨_, rfl⟩ := Prod.mk.inj (Option.some.inj h)
    simp only [List.length_cons]
    omega
  all_goals
    obtain ⟨_, rfl⟩ := Prod.mk.inj (Option.some.inj h)
    exact Nat.le_refl _

def scan : List Char → Option (List Token)
  | [] => some []
  | c :: cs =>
    if isBlank c then scan cs
    else
      match h : scanOne c cs with
      | some (t, rest) =>
        have := length_of_scanOne h
        (scan rest).map (t :: ·)
      | none => none
termination_by cs => cs.length
decreasing_by
  · simp
  · simp only [List.length_cons]
    omega

end Token

/-- What may come next while a value is passed over; `more` comes after a value. -/
inductive Expected where
  | value
  | valueOrClose
  | key
  | keyOrClose
  | colon
  | more
deriving DecidableEq

/-- Brackets that are open, from the inside out, and what may come next. -/
abbrev Nesting := List Bracket × Expected

/-- The nesting after the first token of a value. -/
def enter (inside : List Bracket) : Token → Option Nesting
  | .openBrace => some (.brace :: inside, .keyOrClose)
  | .openBracket => some (.bracket :: inside, .valueOrClose)
  | .null | .boolean _ | .number | .text _ => some (inside, .more)
  | _ => none

def advance (inside : List Bracket) : Expected → Token → Option Nesting
  | .valueOrClose, .closeBracket => some (inside.tail, .more)
  | .value, t | .valueOrClose, t => enter inside t
  | .keyOrClose, .closeBrace => some (inside.tail, .more)
  | .key, .text _ | .keyOrClose, .text _ => some (inside, .colon)
  | .colon, .colon => some (inside, .value)
  | .more, t =>
    match inside, t with
    | .brace :: _, .comma => some (inside, .key)
    | .bracket :: _, .comma => some (inside, .value)
    | .brace :: outer, .closeBrace => some (outer, .more)
    | .bracket :: outer, .closeBracket => some (outer, .more)
    | _, _ => none
  | _, _ => none

/-- Passes over a value that has begun; it ends when no bracket is open any more. -/
def skip : Nesting → List Token → Option (List Token)
  | _, [] => none
  | (inside, expected), t :: ts =>
    match advance inside expected t with
    | some ([], .more) => some ts
    | some nesting => skip nesting ts
    | none => none

/-- The tokens of the value that comes first, and what is left. -/
def splitValue (ts : List Token) : Option (List Token × List Token) :=
  (skip ([], .value) ts).map fun rest => (ts.take (ts.length - rest.length), rest)

/-- The member that comes first, as its name and the tokens of its value. -/
def splitMember : List Token → Option ((String × List Token) × List Token)
  | .text (some name) :: .colon :: ts =>
    (splitValue ts).map fun (value, rest) => ((name, value), rest)
  | _ => none

section Items

variable {α : Type} (close : Token) (split : List Token → Option (α × List Token))

/-- Items after the first one: each has a comma before it, and nothing follows the closing token. -/
def moreItems : List Token → Option (List α)
  | [] => none
  | t :: ts =>
    if t = close then if ts.isEmpty then some [] else none
    else if t = .comma then
      match split ts with
      | some (a, rest) =>
        if rest.length ≤ ts.length then (moreItems rest).map (a :: ·) else none
      | none => none
    else none
termination_by ts => ts.length

def items : List Token → Option (List α)
  | [] => none
  | t :: ts =>
    if t = close then if ts.isEmpty then some [] else none
    else
      match split (t :: ts) with
      | some (a, rest) => (moreItems close split rest).map (a :: ·)
      | none => none

end Items

/-- The values of an array. -/
def elements? : List Token → Option (List (List Token))
  | .openBracket :: ts => items .closeBracket splitValue ts
  | _ => none

/-- The members of an object, in order and with repetitions. -/
def members? : List Token → Option (List (String × List Token))
  | .openBrace :: ts => items .closeBrace splitMember ts
  | _ => none

/-- The value of a member that occurs once. -/
def member? (name : String) (members : List (String × List Token)) : Option (List Token) :=
  match members.filter (·.1 == name) with
  | [(_, value)] => some value
  | _ => none

/-- The values of the named members of a record: an object that has each of them once, or an array
of just these values in order. -/
def record? (names : List String) (ts : List Token) : Option (List (List Token)) :=
  match elements? ts with
  | some values => if values.length = names.length then some values else none
  | none => do
    let members ← members? ts
    names.mapM (member? · members)

def text? : List Token → Option String
  | [.text s] => s
  | _ => none

def boolean? : List Token → Option Bool
  | [.boolean b] => some b
  | _ => none

end TypedClient.Json
