import TypedClient.Json.Token

/-!
# Reading JSON back

Two halves of a round trip through JSON. What is written as a text is scanned into tokens: string
literals give the text that was quoted, whatever characters it has, and layout gives nothing. The
tokens of an array or an object are then taken apart into the tokens of its parts.

The tokens of a value are told from others by what `skip` does with them: it passes over the value
and stops right behind it, however many brackets are open around it.
-/

namespace TypedClient.Json

/-! ## String literals -/

/-- The characters that are escaped by a letter of their own, or by themselves. -/
def lettered : List Char := ['"', '\\', '\x08', '\x0c', '\n', '\r', '\t']

/-- What a quoted character is read as. -/
def pieceOf (c : Char) : Piece :=
  if c.toNat < 0x20 ∧ c ∉ lettered then .unit c.toNat else .char c

theorem hexValue?_hexPair : ∀ n < 0x20, Text.hexValue? ('0' :: '0' :: hexPair n) = some n := by
  decide

theorem scalar?_toNat (c : Char) : Text.scalar? c.toNat = some c := by
  have hvalid : c.toNat.isValidChar := c.valid
  rw [Text.scalar?, if_pos hvalid, Char.ofNat_toNat]

theorem pieces_letter {x c : Char} (hx : x ≠ 'u') (h : escaped? x = some c) (rest : List Char) :
    pieces ('\\' :: x :: rest) = (pieces rest).map fun r => (.char c :: r.1, r.2) := by
  rw [pieces]
  · rw [h]
    cases pieces rest <;> rfl
  · intro _ _ _ _ _ hu _
    exact hx hu

theorem pieces_unit {n : Nat} (h : n < 0x20) (rest : List Char) :
    pieces ('\\' :: 'u' :: '0' :: '0' :: hexPair n ++ rest) =
      (pieces rest).map fun r => (.unit n :: r.1, r.2) := by
  have hvalue := hexValue?_hexPair n h
  unfold hexPair at hvalue ⊢
  rw [List.cons_append, List.cons_append, List.cons_append, List.cons_append, List.cons_append,
    List.singleton_append, pieces, hvalue]
  cases pieces rest <;> rfl

theorem pieces_plain {c : Char} (h : 0x20 ≤ c.toNat) (hc : c ∉ lettered) (rest : List Char) :
    pieces (c :: rest) = (pieces rest).map fun r => (.char c :: r.1, r.2) := by
  obtain ⟨hquote, hslash⟩ : c ≠ '"' ∧ c ≠ '\\' := by
    simp only [lettered, List.mem_cons, not_or] at hc
    exact ⟨hc.1, hc.2.1⟩
  rw [pieces, if_neg (by omega)]
  · cases pieces rest <;> rfl
  · exact hquote
  · intro _ _ _ _ _ heq
    exact absurd heq hslash
  · intro _ _ heq
    exact absurd heq hslash

theorem pieces_quoteChar (c : Char) (rest : List Char) :
    pieces (quoteChar c ++ rest) = (pieces rest).map fun r => (pieceOf c :: r.1, r.2) := by
  by_cases hlettered : c ∈ lettered
  · have hpiece : pieceOf c = .char c := if_neg fun h => h.2 hlettered
    rw [hpiece]
    simp only [lettered, List.mem_cons, List.not_mem_nil, or_false] at hlettered
    rcases hlettered with rfl | rfl | rfl | rfl | rfl | rfl | rfl <;>
      exact pieces_letter (by decide) rfl rest
  · have hquote : quoteChar c =
        if c.toNat < 0x20 then '\\' :: 'u' :: '0' :: '0' :: hexPair c.toNat else [c] := by
      simp only [lettered, List.mem_cons, List.not_mem_nil, or_false, not_or] at hlettered
      rw [quoteChar] <;> simp [hlettered]
    rw [hquote]
    by_cases hcontrol : c.toNat < 0x20
    · have hpiece : pieceOf c = .unit c.toNat := if_pos ⟨hcontrol, hlettered⟩
      rw [if_pos hcontrol, hpiece]
      exact pieces_unit hcontrol rest
    · have hpiece : pieceOf c = .char c := if_neg fun h => hcontrol h.1
      rw [if_neg hcontrol, hpiece]
      exact pieces_plain (by omega) hlettered rest

theorem pieces_quote (s rest : List Char) :
    pieces (s.flatMap quoteChar ++ '"' :: rest) = some (s.map pieceOf, rest) := by
  induction s with
  | nil => rw [List.flatMap_nil, List.nil_append, pieces, List.map_nil]
  | cons c s ih =>
    rw [List.flatMap_cons, List.append_assoc, pieces_quoteChar, ih, Option.map_some, List.map_cons]

theorem join_unit {n : Nat} (h : isHighSurrogate n = false) (ps : List Piece) :
    join (.unit n :: ps) = (Text.scalar? n).bind fun c => (join ps).map (c :: ·) := by
  cases ps with
  | nil =>
    simp only [join]
    cases Text.scalar? n <;> rfl
  | cons p ps =>
    cases p with
    | char d =>
      simp only [join]
      cases Text.scalar? n <;> cases join ps <;> rfl
    | unit m =>
      rw [join, h]
      cases Text.scalar? n <;> cases join (.unit m :: ps) <;> rfl

/-- A control character is no surrogate, so it stands for itself whatever comes next. -/
theorem join_cons_pieceOf (c : Char) (ps : List Piece) :
    join (pieceOf c :: ps) = (join ps).map (c :: ·) := by
  unfold pieceOf
  split
  · rename_i h
    have hlow : isHighSurrogate c.toNat = false := by
      simp only [isHighSurrogate, Bool.and_eq_false_iff, decide_eq_false_iff_not]
      omega
    rw [join_unit hlow, scalar?_toNat, Option.bind_some]
  · rw [join]
    cases join ps <;> rfl

theorem join_map_pieceOf (s : List Char) : join (s.map pieceOf) = some s := by
  induction s with
  | nil => rw [List.map_nil, join]
  | cons c s ih => rw [List.map_cons, join_cons_pieceOf, ih, Option.map_some]

/-! ## Scanning -/

namespace Token

theorem scan_blank {c : Char} (h : isBlank c = true) (cs : List Char) :
    scan (c :: cs) = scan cs := by
  rw [scan, if_pos h]

theorem scan_token {c : Char} {cs rest : List Char} {t : Token} (hblank : isBlank c = false)
    (h : scanOne c cs = some (t, rest)) : scan (c :: cs) = (scan rest).map (t :: ·) := by
  rw [scan, if_neg (by simp [hblank])]
  split
  · rename_i h'
    rw [h] at h'
    cases h'
    rfl
  · rename_i h'
    rw [h] at h'
    cases h'

/-- The scanner finds the tokens in the text and goes on behind it, whatever stands there. -/
def Scans (text : String) (tokens : List Token) : Prop :=
  ∀ rest, scan (text.toList ++ rest) = (scan rest).map (tokens ++ ·)

theorem Scans.append {text text' : String} {tokens tokens' : List Token} (h : Scans text tokens)
    (h' : Scans text' tokens') : Scans (text ++ text') (tokens ++ tokens') := by
  intro rest
  rw [String.toList_append, List.append_assoc, h, h', Option.map_map]
  congr 1
  funext ts
  simp

theorem Scans.scan_eq {text : String} {tokens : List Token} (h : Scans text tokens) :
    scan text.toList = some tokens := by
  have hend := h []
  rw [List.append_nil, scan, Option.map_some, List.append_nil] at hend
  exact hend

/-- The token that a single character makes. -/
def mark? : Char → Option Token
  | '\x7b' => some openBrace
  | '\x7d' => some closeBrace
  | '[' => some openBracket
  | ']' => some closeBracket
  | ':' => some colon
  | ',' => some comma
  | _ => none

theorem scanOne_of_mark? {c : Char} {t : Token} (h : mark? c = some t) (cs : List Char) :
    isBlank c = false ∧ scanOne c cs = some (t, cs) := by
  unfold mark? at h
  split at h <;> cases h <;> exact ⟨rfl, by rw [scanOne]⟩

def isLayout (c : Char) : Bool :=
  isBlank c || (mark? c).isSome

/-- A text of blanks and single characters. -/
theorem scans_layout {cs : List Char} (h : cs.all isLayout = true) :
    Scans (String.ofList cs) (cs.filterMap mark?) := by
  intro rest
  rw [String.toList_ofList]
  induction cs with
  | nil => simp
  | cons c cs ih =>
    obtain ⟨hc, hcs⟩ := Bool.and_eq_true _ _ ▸ h
    rw [List.cons_append]
    cases hmark : mark? c with
    | none =>
      have hblank : isBlank c = true := by simpa [isLayout, hmark] using hc
      rw [scan_blank hblank, ih hcs, List.filterMap_cons_none hmark]
    | some t =>
      obtain ⟨hblank, hone⟩ := scanOne_of_mark? hmark (cs ++ rest)
      rw [scan_token hblank hone, ih hcs, List.filterMap_cons_some hmark, Option.map_map]
      rfl

/-- A quoted text is read back, whatever its characters. -/
theorem scans_quote (s : String) : Scans (String.ofList (quote s.toList)) [text (some s)] := by
  intro rest
  rw [String.toList_ofList, quote, List.append_assoc, List.singleton_append, List.cons_append]
  have hone : scanOne '"' (s.toList.flatMap quoteChar ++ '"' :: rest) =
      some (text (some s), rest) := by
    rw [scanOne, pieces_quote, Option.map_some]
    dsimp only
    rw [join_map_pieceOf, Option.map_some, String.ofList_toList]
  rw [scan_token rfl hone]
  rfl

/-- A text whose characters are known is scanned by evaluation. -/
theorem scans_literal {c : Char} {cs : List Char} {t : Token} (hblank : isBlank c = false)
    (h : ∀ rest, scanOne c (cs ++ rest) = some (t, rest)) : Scans (String.ofList (c :: cs)) [t] := by
  intro rest
  rw [String.toList_ofList, List.cons_append, scan_token hblank (h rest)]
  rfl

theorem scans_boolean (b : Bool) : Scans (if b then "true" else "false") [boolean b] := by
  cases b with
  | true => exact @scans_literal 't' ['r', 'u', 'e'] _ rfl fun _ => rfl
  | false => exact @scans_literal 'f' ['a', 'l', 's', 'e'] _ rfl fun _ => rfl

/-- The tokens of several parts, with commas between them. -/
def separated : List (List Token) → List Token
  | [] => []
  | part :: parts => part ++ parts.flatMap (comma :: ·)

/-- Texts with a separator between them that makes just a comma. -/
theorem scans_intercalate {α : Type} {separator : String} {text : α → String}
    {tokens : α → List Token} (hsep : Scans separator [comma])
    (as : List α) (h : ∀ a ∈ as, Scans (text a) (tokens a)) :
    Scans (separator.intercalate (as.map text)) (separated (as.map tokens)) := by
  intro rest
  rw [String.toList_intercalate, List.map_map]
  cases as with
  | nil => simp [separated]
  | cons a as =>
    rw [List.map_cons, List.map_cons, separated, List.flatMap_map]
    induction as generalizing a with
    | nil => simpa using h a List.mem_cons_self rest
    | cons b bs ih =>
      obtain ⟨ha, hbs⟩ := List.forall_mem_cons.1 h
      rw [List.map_cons, List.intercalate_cons_cons, List.append_assoc, List.append_assoc]
      show scan ((text a).toList ++ _) = _
      rw [ha, hsep, ih b hbs, Option.map_map, Option.map_map]
      congr 1
      funext ts
      simp

end Token

open Json.Token (separated)

/-! ## Passing over values -/

/-- What is left behind a value: if no bracket is open around it, all that follows. -/
def behind (inside : List Bracket) (ts : List Token) : Option (List Token) :=
  if inside = [] then some ts else skip (inside, .more) ts

theorem skip_step {inside inside' : List Bracket} {expected expected' : Expected} {t : Token}
    (h : advance inside expected t = some (inside', expected')) (hopen : expected' ≠ .more)
    (ts : List Token) : skip (inside, expected) (t :: ts) = skip (inside', expected') ts := by
  rw [skip, h]
  cases expected' with
  | more => exact absurd rfl hopen
  | value | valueOrClose | key | keyOrClose | colon => cases inside' <;> rfl

theorem skip_end {inside inside' : List Bracket} {expected : Expected} {t : Token}
    (h : advance inside expected t = some (inside', .more)) (ts : List Token) :
    skip (inside, expected) (t :: ts) = behind inside' ts := by
  rw [skip, h]
  cases inside' <;> rfl

/-- The tokens of one value, where an array may end and where it may not. -/
structure IsValue (ts : List Token) : Prop where
  skip_value : ∀ inside rest, skip (inside, .value) (ts ++ rest) = behind inside rest
  skip_first : ∀ inside rest, skip (inside, .valueOrClose) (ts ++ rest) = behind inside rest

theorem isValue_text (s : Option String) : IsValue [.text s] :=
  ⟨fun _ _ => skip_end rfl _, fun _ _ => skip_end rfl _⟩

theorem isValue_boolean (b : Bool) : IsValue [.boolean b] :=
  ⟨fun _ _ => skip_end rfl _, fun _ _ => skip_end rfl _⟩

namespace Bracket

def opening : Bracket → Token
  | brace => .openBrace
  | bracket => .openBracket

def closing : Bracket → Token
  | brace => .closeBrace
  | bracket => .closeBracket

/-- What is expected right behind the opening bracket. -/
def first : Bracket → Expected
  | brace => .keyOrClose
  | bracket => .valueOrClose

/-- What is expected behind a comma. -/
def next : Bracket → Expected
  | brace => .key
  | bracket => .value

end Bracket

/-- The tokens of one part of an array or an object. -/
structure IsPart (b : Bracket) (ts : List Token) : Prop where
  skip_next : ∀ inside rest,
    skip (b :: inside, b.next) (ts ++ rest) = skip (b :: inside, .more) rest
  skip_first : ∀ inside rest,
    skip (b :: inside, b.first) (ts ++ rest) = skip (b :: inside, .more) rest

/-- The tokens of an array or an object with the given parts. -/
def group (b : Bracket) (parts : List (List Token)) : List Token :=
  b.opening :: separated parts ++ [b.closing]

theorem skip_closing (b : Bracket) (inside : List Bracket) (rest : List Token) :
    skip (b :: inside, .more) (b.closing :: rest) = behind inside rest :=
  skip_end (by cases b <;> rfl) rest

theorem skip_comma (b : Bracket) (inside : List Bracket) (rest : List Token) :
    skip (b :: inside, .more) (.comma :: rest) = skip (b :: inside, b.next) rest :=
  skip_step (by cases b <;> rfl) (by cases b <;> decide) rest

theorem skip_parts {b : Bracket} {parts : List (List Token)} (h : ∀ part ∈ parts, IsPart b part)
    (inside : List Bracket) (rest : List Token) :
    skip (b :: inside, .more) (parts.flatMap (.comma :: ·) ++ b.closing :: rest) =
      behind inside rest := by
  induction parts with
  | nil => exact skip_closing b inside rest
  | cons part parts ih =>
    obtain ⟨hpart, hparts⟩ := List.forall_mem_cons.1 h
    rw [List.flatMap_cons, List.cons_append, List.cons_append, skip_comma, List.append_assoc,
      hpart.skip_next, ih hparts]

theorem skip_group {b : Bracket} {parts : List (List Token)} (h : ∀ part ∈ parts, IsPart b part)
    (inside : List Bracket) (rest : List Token) :
    skip (b :: inside, b.first) (separated parts ++ b.closing :: rest) = behind inside rest := by
  cases parts with
  | nil => exact skip_end (by cases b <;> rfl) rest
  | cons part parts =>
    obtain ⟨hpart, hparts⟩ := List.forall_mem_cons.1 h
    rw [separated, List.append_assoc, hpart.skip_first, skip_parts hparts]

theorem isValue_group {b : Bracket} {parts : List (List Token)}
    (h : ∀ part ∈ parts, IsPart b part) : IsValue (group b parts) := by
  have hopen (inside : List Bracket) (rest : List Token) (expected : Expected)
      (hadvance : advance inside expected b.opening = some (b :: inside, b.first)) :
      skip (inside, expected) (group b parts ++ rest) = behind inside rest := by
    rw [group, List.append_assoc, List.singleton_append, List.cons_append,
      skip_step hadvance (by cases b <;> decide), skip_group h]
  constructor
  · intro inside rest
    exact hopen inside rest .value (by cases b <;> rfl)
  · intro inside rest
    exact hopen inside rest .valueOrClose (by cases b <;> rfl)

theorem IsValue.isPart {ts : List Token} (h : IsValue ts) : IsPart .bracket ts :=
  ⟨fun _ _ => h.skip_value _ _, fun _ _ => h.skip_first _ _⟩

/-- The tokens of a member of an object. -/
def memberTokens (m : String × List Token) : List Token :=
  .text (some m.1) :: .colon :: m.2

theorem isPart_member {m : String × List Token} (h : IsValue m.2) :
    IsPart .brace (memberTokens m) := by
  have hvalue (inside : List Bracket) (rest : List Token) :
      skip (.brace :: inside, .colon) (.colon :: m.2 ++ rest) =
        skip (.brace :: inside, .more) rest :=
    (skip_step rfl (by decide) _).trans (h.skip_value _ _)
  constructor
  · intro inside rest
    exact (skip_step rfl (by decide) _).trans (hvalue inside rest)
  · intro inside rest
    exact (skip_step rfl (by decide) _).trans (hvalue inside rest)

def arrayTokens (values : List (List Token)) : List Token :=
  group .bracket values

def objectTokens (members : List (String × List Token)) : List Token :=
  group .brace (members.map memberTokens)

theorem isValue_array {values : List (List Token)} (h : ∀ v ∈ values, IsValue v) :
    IsValue (arrayTokens values) :=
  isValue_group fun v hv => (h v hv).isPart

theorem isValue_object {members : List (String × List Token)}
    (h : ∀ m ∈ members, IsValue m.2) : IsValue (objectTokens members) := by
  refine isValue_group fun part hpart => ?_
  obtain ⟨m, hm, rfl⟩ := List.mem_map.1 hpart
  exact isPart_member (h m hm)

/-! ## Taking values apart -/

theorem splitValue_append {ts : List Token} (h : IsValue ts) (rest : List Token) :
    splitValue (ts ++ rest) = some (ts, rest) := by
  have hskip : skip ([], .value) (ts ++ rest) = some rest := h.skip_value [] rest
  rw [splitValue, hskip]
  simp

theorem splitMember_append {m : String × List Token} (h : IsValue m.2) (rest : List Token) :
    splitMember (memberTokens m ++ rest) = some (m, rest) := by
  show (splitValue (m.2 ++ rest)).map _ = _
  rw [splitValue_append h]
  rfl

/-- No value starts with the token that would end an array. -/
theorem IsValue.head?_ne {ts : List Token} (h : IsValue ts) :
    ts.head? ≠ none ∧ ts.head? ≠ some .closeBracket := by
  cases ts with
  | nil => exact absurd (h.skip_value [] []) (by simp [skip, behind])
  | cons t ts =>
    refine ⟨by simp, fun hclose => ?_⟩
    obtain rfl : t = .closeBracket := by simpa using hclose
    exact absurd (h.skip_value [] []) (by simp [skip, advance, enter, behind])

section Items

variable {α : Type} {close : Token} {split : List Token → Option (α × List Token)}
  (part : α → List Token)

theorem moreItems_parts (hclose : close ≠ .comma)
    {as : List α} (h : ∀ a ∈ as, ∀ rest, split (part a ++ rest) = some (a, rest)) :
    moreItems close split ((as.map part).flatMap (.comma :: ·) ++ [close]) = some as := by
  induction as with
  | nil => simp [moreItems]
  | cons a as ih =>
    obtain ⟨ha, has⟩ := List.forall_mem_cons.1 h
    rw [List.map_cons, List.flatMap_cons, List.append_assoc, List.cons_append, moreItems,
      if_neg (Ne.symm hclose), if_pos rfl, ha]
    dsimp only
    rw [if_pos (by simp), ih has, Option.map_some]

theorem items_parts (hclose : close ≠ .comma) {as : List α}
    (h : ∀ a ∈ as, ∀ rest, split (part a ++ rest) = some (a, rest))
    (hhead : ∀ a ∈ as, (part a).head? ≠ none ∧ (part a).head? ≠ some close) :
    items close split (separated (as.map part) ++ [close]) = some as := by
  cases as with
  | nil => simp [items, separated]
  | cons a as =>
    obtain ⟨ha, has⟩ := List.forall_mem_cons.1 h
    obtain ⟨hne, hother⟩ := hhead a List.mem_cons_self
    cases hpart : part a with
    | nil => simp [hpart] at hne
    | cons t ts =>
      have ht : t ≠ close := by simpa [hpart] using hother
      have hsplit := ha ((as.map part).flatMap (.comma :: ·) ++ [close])
      rw [hpart] at hsplit
      rw [List.map_cons, separated, hpart, List.append_assoc, List.cons_append, items, if_neg ht]
      rw [List.cons_append] at hsplit
      rw [hsplit]
      dsimp only
      rw [moreItems_parts part hclose has, Option.map_some]

end Items

theorem elements?_array {values : List (List Token)} (h : ∀ v ∈ values, IsValue v) :
    elements? (arrayTokens values) = some values := by
  have hitems : items .closeBracket splitValue (separated (values.map id) ++ [.closeBracket]) =
      some values :=
    items_parts id (by decide) (fun v hv rest => splitValue_append (h v hv) rest)
      fun v hv => (h v hv).head?_ne
  rwa [List.map_id] at hitems

theorem members?_object {members : List (String × List Token)} (h : ∀ m ∈ members, IsValue m.2) :
    members? (objectTokens members) = some members :=
  items_parts memberTokens (by decide) (fun m hm rest => splitMember_append (h m hm) rest)
    fun m _ => by simp [memberTokens, Bracket.closing]

theorem record?_object {members : List (String × List Token)} (h : ∀ m ∈ members, IsValue m.2)
    (names : List String) :
    record? names (objectTokens members) = names.mapM (member? · members) := by
  have harray : elements? (objectTokens members) = none := rfl
  rw [record?, harray]
  dsimp only
  rw [members?_object h]
  rfl

end TypedClient.Json
