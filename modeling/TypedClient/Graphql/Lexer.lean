import TypedClient.Graphql.NumberLiteral
import TypedClient.Graphql.StringLiteral

/-!
# Lexical analysis

`Token.scan` splits a GraphQL text into tokens. Blanks, commas, byte order marks and comments stand
between tokens and have no meaning.
-/

namespace TypedClient.Token

def isIgnored (c : Char) : Bool :=
  c == ' ' || c == '\t' || c == '\r' || c == '\n' || c == ',' || c == '\ufeff'

def isLineEnd (c : Char) : Bool :=
  c == '\r' || c == '\n'

def isNameStart (c : Char) : Bool :=
  c == '_' || c.isAlpha

def isNameChar (c : Char) : Bool :=
  c == '_' || c.isAlphanum

/-- Punctuators of one character. -/
def punctuator? : Char → Option Token
  | '(' => some (opening .round)
  | ')' => some (closing .round)
  | '[' => some (opening .square)
  | ']' => some (closing .square)
  | '\x7b' => some (opening .curly)
  | '\x7d' => some (closing .curly)
  | '!' => some exclamation
  | '$' => some dollar
  | ':' => some colon
  | '=' => some equals
  | '@' => some atSign
  | '|' => some bar
  | '&' => some ampersand
  | _ => none

/-- The string literal after an opening quote, and what is left. -/
def scanString : List Char → Except SyntaxError (Token × List Char)
  | '"' :: '"' :: rest =>
    match StringLiteral.splitBlock rest with
    | some (raw, rest) => .ok (string (String.ofList (StringLiteral.blockText raw)), rest)
    | none => .error .string
  | cs =>
    match StringLiteral.splitQuoted cs with
    | some (raw, rest) =>
      match StringLiteral.unescape raw with
      | some s => .ok (string (String.ofList s), rest)
      | none => .error .string
    | none => .error .string

/-- The token that starts with `c`, and what is left. -/
def scanOne (c : Char) (cs : List Char) : Except SyntaxError (Token × List Char) :=
  match punctuator? c with
  | some t => .ok (t, cs)
  | none =>
    if isNameStart c then
      .ok (name (String.ofList (c :: cs.takeWhile isNameChar)), cs.dropWhile isNameChar)
    else if c == '-' || c.isDigit then
      -- Everything up to the next delimiter has to be one numeral, so `1a` is not `1` and a name.
      let text := c :: cs.takeWhile (!NumberLiteral.isEnd ·)
      match NumberLiteral.token? text with
      | some t => .ok (t, cs.dropWhile (!NumberLiteral.isEnd ·))
      | none => .error (.number (String.ofList text))
    else if c == '"' then scanString cs
    else
      match c, cs with
      | '.', '.' :: '.' :: rest => .ok (ellipsis, rest)
      | _, _ => .error (.character c)

theorem length_dropWhile_le (p : Char → Bool) (cs : List Char) :
    (cs.dropWhile p).length ≤ cs.length :=
  (List.dropWhile_sublist p).length_le

theorem length_of_scanString {cs rest : List Char} {t : Token}
    (h : scanString cs = .ok (t, rest)) : rest.length ≤ cs.length := by
  unfold scanString at h
  split at h
  · split at h
    · rename_i hs
      have hlt := StringLiteral.length_of_splitBlock hs
      obtain ⟨_, rfl⟩ := Prod.mk.inj (Except.ok.inj h)
      simp only [List.length_cons]
      omega
    · cases h
  · split at h
    · rename_i hs
      have hlt := StringLiteral.length_of_splitQuoted hs
      split at h
      · obtain ⟨_, rfl⟩ := Prod.mk.inj (Except.ok.inj h)
        omega
      · cases h
    · cases h

theorem length_of_scanOne {c : Char} {cs rest : List Char} {t : Token}
    (h : scanOne c cs = .ok (t, rest)) : rest.length ≤ cs.length := by
  unfold scanOne at h
  split at h
  · obtain ⟨_, rfl⟩ := Prod.mk.inj (Except.ok.inj h)
    exact Nat.le_refl _
  · split at h
    · obtain ⟨_, rfl⟩ := Prod.mk.inj (Except.ok.inj h)
      exact length_dropWhile_le _ cs
    · split at h
      · simp only at h
        split at h
        · obtain ⟨_, rfl⟩ := Prod.mk.inj (Except.ok.inj h)
          exact length_dropWhile_le _ cs
        · cases h
      · split at h
        · exact length_of_scanString h
        · split at h
          · obtain ⟨_, rfl⟩ := Prod.mk.inj (Except.ok.inj h)
            simp only [List.length_cons]
            omega
          · cases h

def scan : List Char → Except SyntaxError (List Token)
  | [] => .ok []
  | c :: cs =>
    if isIgnored c then scan cs
    else if c == '#' then scan (cs.dropWhile (!isLineEnd ·))
    else
      match h : scanOne c cs with
      | .ok (t, rest) =>
        have := length_of_scanOne h
        (scan rest).map (t :: ·)
      | .error e => .error e
termination_by cs => cs.length
decreasing_by
  · simp
  · have := length_dropWhile_le (!isLineEnd ·) cs
    simp only [List.length_cons]
    omega
  · simp only [List.length_cons]
    omega

end TypedClient.Token
