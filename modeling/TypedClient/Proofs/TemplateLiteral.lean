import TypedClient.Operation.Literal
import TypedClient.Proofs.Lines

/-!
# Reading template literals

A reader for the text after an opening backtick, by the rules of the language: a backslash escapes
the next character, an unescaped backtick ends the literal, and an unescaped dollar sign with an
opening brace starts a substitution, which the next closing brace ends. What `escape` writes is
read back as it was, before and after its lines are indented.
-/

namespace TypedClient.Text.TemplateLiteral

/-! ## Escaping one character at a time -/

/-- What is written for a character, given the character after it. -/
def escapeChar (c : Char) (next : Option Char) : List Char :=
  if c = '\\' ∨ c = '\x60' ∨ c = '$' ∧ next = some '\x7b' then ['\\', c] else [c]

/-- Whether a character is written as it is, whatever stands behind it. -/
def isPlain (c : Char) : Bool :=
  c != '\\' && c != '\x60' && c != '$'

@[simp] theorem escape_nil : escape [] = [] := by rw [escape]

theorem escape_cons (c : Char) (cs : List Char) :
    escape (c :: cs) = escapeChar c cs.head? ++ escape cs := by
  unfold escapeChar
  by_cases hslash : c = '\\'
  · subst hslash
    rw [if_pos (.inl rfl), escape]
    rfl
  by_cases htick : c = '\x60'
  · subst htick
    rw [if_pos (.inr (.inl rfl)), escape]
    rfl
  by_cases hdollar : c = '$' ∧ cs.head? = some '\x7b'
  · obtain ⟨rfl, hnext⟩ := hdollar
    obtain ⟨rest, rfl⟩ := List.head?_eq_some_iff.1 hnext
    have hbrace : escape ('\x7b' :: rest) = '\x7b' :: escape rest := by
      rw [escape] <;> simp
    rw [if_pos (.inr (.inr ⟨rfl, hnext⟩)), escape, hbrace]
    rfl
  · rw [if_neg (by simp [hslash, htick, hdollar]), escape]
    · rfl
    · exact hslash
    · exact htick
    · rintro rest rfl rfl
      exact hdollar ⟨rfl, rfl⟩

theorem escapeChar_of_plain {c : Char} {next : Option Char} (h : isPlain c = true) :
    escapeChar c next = [c] := by
  obtain ⟨⟨hslash, htick⟩, hdollar⟩ : (c ≠ '\\' ∧ c ≠ '\x60') ∧ c ≠ '$' := by
    simpa [isPlain] using h
  simp [escapeChar, hslash, htick, hdollar]

/-- Two texts can be escaped apart, unless a dollar sign meets a brace where they join. -/
theorem escape_append {cs ds : List Char}
    (h : cs.getLast? ≠ some '$' ∨ ds.head? ≠ some '\x7b') :
    escape (cs ++ ds) = escape cs ++ escape ds := by
  induction cs with
  | nil => rw [List.nil_append, escape_nil, List.nil_append]
  | cons c cs ih =>
    rw [List.cons_append, escape_cons, escape_cons]
    cases cs with
    | nil =>
      have hjoin : escapeChar c ds.head? = escapeChar c none := by
        unfold escapeChar
        rcases h with h | h
        · have hc : c ≠ '$' := by simpa using h
          simp [hc]
        · simp [h]
      rw [List.nil_append, List.head?_nil, hjoin, escape_nil, List.append_nil]
    | cons d cs =>
      rw [ih (by simpa using h), List.cons_append, List.head?_cons, List.head?_cons,
        List.append_assoc]

/-- A text without special characters is written as it is. -/
theorem escape_of_plain {cs : List Char} (h : cs.all isPlain = true) : escape cs = cs := by
  induction cs with
  | nil => exact escape_nil
  | cons c cs ih =>
    rw [List.all_cons, Bool.and_eq_true] at h
    rw [escape_cons, escapeChar_of_plain h.1, ih h.2]
    rfl

theorem escape_eq_nil_iff {cs : List Char} : escape cs = [] ↔ cs = [] := by
  cases cs with
  | nil => simp
  | cons c cs =>
    rw [escape_cons]
    unfold escapeChar
    split <;> simp

/-! ## Escaping and lines -/

theorem head?_escape_eq_feed_iff {cs : List Char} :
    (escape cs).head? = some '\n' ↔ cs.head? = some '\n' := by
  cases cs with
  | nil => simp
  | cons c cs =>
    rw [escape_cons, List.head?_cons]
    unfold escapeChar
    split
    · rename_i h
      have hc : c ≠ '\n' := by
        rintro rfl
        simp at h
      simp [hc]
    · simp

/-- The first line of a text has the brace that a dollar sign before it would meet. -/
theorem escapeChar_head?_of_lines {cs line : List Char} {rest : List (List Char)}
    (h : lines cs = line :: rest) (c : Char) :
    escapeChar c line.head? = escapeChar c cs.head? := by
  have hiff : line.head? = some '\x7b' ↔ cs.head? = some '\x7b' := by
    constructor
    · intro hline
      obtain ⟨tail, rfl⟩ := List.head?_eq_some_iff.1 hline
      exact head?_of_lines h
    · intro hcs
      obtain ⟨tail, rfl⟩ := List.head?_eq_some_iff.1 hcs
      rw [lines_cons_of_plain (by decide) (by simp)] at h
      cases hl : lines tail with
      | nil | cons =>
        rw [hl, startLine, List.cons.injEq] at h
        rw [← h.1]
        rfl
  unfold escapeChar
  simp only [hiff]

theorem lines_escapeChar_append {c : Char} {cs : List Char} {next : Option Char}
    (hfeed : c ≠ '\n') (hreturn : ¬ (c = '\r' ∧ cs.head? = some '\n')) :
    lines (escapeChar c next ++ cs) = startLine (escapeChar c next) (lines cs) := by
  have hplain := lines_cons_of_plain hfeed hreturn
  unfold escapeChar
  split
  · show lines ('\\' :: c :: cs) = _
    rw [lines_cons_of_plain (by decide) (by simp), hplain]
    cases lines cs <;> rfl
  · exact hplain

/-- Escaping changes no line end. -/
theorem lines_escape (cs : List Char) : lines (escape cs) = (lines cs).map escape := by
  induction cs with
  | nil => simp [lines]
  | cons c cs ih =>
    by_cases hfeed : c = '\n'
    · subst hfeed
      rw [escape_cons, escapeChar_of_plain (by decide),
        List.singleton_append, lines_cons, if_pos rfl, lines_cons, if_pos rfl, ih,
        List.map_cons, escape_nil]
    by_cases hreturn : c = '\r' ∧ cs.head? = some '\n'
    · obtain ⟨rfl, hnext⟩ := hreturn
      rw [escape_cons, escapeChar_of_plain (by decide),
        List.singleton_append, lines_cons, if_neg (by decide),
        if_pos ⟨rfl, head?_escape_eq_feed_iff.2 hnext⟩, lines_cons, if_neg (by decide),
        if_pos ⟨rfl, hnext⟩, ih]
    -- Any other character joins the first line.
    · rw [lines_cons_of_plain hfeed hreturn, escape_cons,
        lines_escapeChar_append hfeed (by rwa [head?_escape_eq_feed_iff]), ih]
      cases hlines : lines cs with
      | nil =>
        rw [lines_eq_nil_iff.1 hlines]
        simp [startLine, escape_cons]
      | cons line rest =>
        rw [List.map_cons, startLine, startLine, List.map_cons, List.singleton_append, escape_cons,
          escapeChar_head?_of_lines hlines]

/-- The text of one indented line. -/
theorem escape_indented_line {pad : List Char}
    (hpad : pad.all isPlain = true) (line : List Char) :
    escape (pad ++ line ++ ['\n']) = pad ++ escape line ++ ['\n'] := by
  have hfeed : escape ['\n'] = ['\n'] := escape_of_plain (by decide)
  have hlast : pad.getLast? ≠ some '$' := by
    intro h
    exact absurd (List.all_eq_true.1 hpad '$' (List.mem_of_getLast? h)) (by decide)
  rw [escape_append (.inr (by decide)), escape_append (.inl hlast), escape_of_plain hpad, hfeed]

/-- Lines can be indented before or after escaping. -/
theorem indent_escape {pad : List Char}
    (hpad : pad.all isPlain = true) (cs : List Char) :
    indent pad (escape cs) = escape (indent pad cs) := by
  unfold indent
  rw [lines_escape]
  induction lines cs with
  | nil => simp
  | cons line rest ih =>
    rw [List.map_cons, List.flatMap_cons, List.flatMap_cons, ih]
    by_cases hline : line = []
    · subst hline
      have hfeed : escape ['\n'] = ['\n'] := escape_of_plain (by decide)
      simp only [escape_nil, List.isEmpty_nil, if_true]
      rw [escape_append (.inl (by decide)), hfeed]
    · have hescape : escape line ≠ [] := mt escape_eq_nil_iff.1 hline
      rw [if_neg (by simpa using hescape), if_neg (by simpa using hline),
        escape_append (.inl (by simp)), escape_indented_line hpad]

/-! ## Reading -/

/-- A character of a literal, escaped or not, or a substitution. -/
inductive Item where
  | char (c : Char)
  | substitution (expression : List Char)
deriving DecidableEq

/-- Puts an item before what was read. -/
def startWith (item : Item) (r : List Item × List Char) : List Item × List Char :=
  (item :: r.1, r.2)

mutual

/-- Reads up to the backtick that ends the literal, and gives what stands behind it. -/
def read : List Char → Option (List Item × List Char)
  | [] => none
  | '\x60' :: cs => some ([], cs)
  | ['\\'] => none
  | '\\' :: c :: cs => (read cs).map (startWith (.char c))
  | '$' :: '\x7b' :: cs => readSubstitution [] cs
  | c :: cs => (read cs).map (startWith (.char c))

/-- Reads the rest of a substitution, and then the rest of the literal. -/
def readSubstitution (expression : List Char) : List Char → Option (List Item × List Char)
  | [] => none
  | '\x7d' :: cs => (read cs).map (startWith (.substitution expression))
  | c :: cs => readSubstitution (expression ++ [c]) cs

end

theorem read_backtick (rest : List Char) : read ('\x60' :: rest) = some ([], rest) := by
  rw [read]

theorem read_escaped (c : Char) (cs : List Char) :
    read ('\\' :: c :: cs) = (read cs).map (startWith (.char c)) := by
  rw [read]

theorem read_plain {c : Char} {cs : List Char} (hslash : c ≠ '\\') (htick : c ≠ '\x60')
    (hdollar : ¬ (c = '$' ∧ cs.head? = some '\x7b')) :
    read (c :: cs) = (read cs).map (startWith (.char c)) := by
  rw [read]
  · exact htick
  · rintro rfl
    exact absurd rfl hslash
  · rintro d ds rfl
    exact absurd rfl hslash
  · rintro ds rfl rfl
    exact hdollar ⟨rfl, rfl⟩

theorem read_escapeChar_append {c : Char} {next : Option Char} {rest : List Char}
    (h : c = '$' → rest.head? = some '\x7b' → next = some '\x7b') :
    read (escapeChar c next ++ rest) = (read rest).map (startWith (.char c)) := by
  unfold escapeChar
  split
  · exact read_escaped c rest
  · rename_i hplain
    obtain ⟨hslash, htick, hdollar⟩ : c ≠ '\\' ∧ c ≠ '\x60' ∧ ¬ (c = '$' ∧ next = some '\x7b') := by
      simpa [not_or] using hplain
    exact read_plain hslash htick fun ⟨hc, hrest⟩ => hdollar ⟨hc, h hc hrest⟩

theorem head?_escape_append {d : Char} {cs rest : List Char}
    (h : (escape (d :: cs) ++ rest).head? = some '\x7b') : d = '\x7b' := by
  rw [escape_cons] at h
  unfold escapeChar at h
  split at h
  · simp at h
  · simpa using h

/-- Whatever stands behind `text`, the reader gives `items` for it and goes on. -/
def Reads (text : List Char) (items : List Item) : Prop :=
  ∀ rest, read (text ++ rest) = (read rest).map fun r => (items ++ r.1, r.2)

theorem reads_nil : Reads [] [] := by
  intro rest
  simp

theorem Reads.append {text text' : List Char} {items items' : List Item} (h : Reads text items)
    (h' : Reads text' items') : Reads (text ++ text') (items ++ items') := by
  intro rest
  rw [List.append_assoc, h, h', Option.map_map]
  simp [Function.comp_def]

theorem reads_flatMap {α : Type} {text : α → List Char} {items : α → List Item} {as : List α}
    (h : ∀ a ∈ as, Reads (text a) (items a)) : Reads (as.flatMap text) (as.flatMap items) := by
  induction as with
  | nil => exact reads_nil
  | cons a as ih =>
    rw [List.flatMap_cons, List.flatMap_cons]
    exact (h a List.mem_cons_self).append (ih fun b hb => h b (List.mem_cons_of_mem a hb))

/-- The literal ends at a backtick that stands behind what was read. -/
theorem Reads.end_at_backtick {text : List Char} {items : List Item} (h : Reads text items)
    (rest : List Char) : read (text ++ '\x60' :: rest) = some (items, rest) := by
  rw [h, read_backtick, Option.map_some, List.append_nil]

/-- Escaped text is read back, unless a dollar sign at its end meets a brace behind it. -/
theorem read_escape_append {cs rest : List Char}
    (h : cs.getLast? ≠ some '$' ∨ rest.head? ≠ some '\x7b') :
    read (escape cs ++ rest) = (read rest).map fun r => (cs.map .char ++ r.1, r.2) := by
  induction cs with
  | nil => simp
  | cons c cs ih =>
    rw [escape_cons, List.append_assoc]
    cases cs with
    | nil =>
      rw [escape_nil, List.nil_append, read_escapeChar_append]
      · rfl
      · rintro rfl hbrace
        simp [hbrace] at h
    | cons d cs =>
      rw [read_escapeChar_append, ih (by simpa using h), Option.map_map]
      · rfl
      · intro _ hnext
        rw [head?_escape_append hnext, List.head?_cons]

theorem reads_escape {cs : List Char} (h : cs.getLast? ≠ some '$') :
    Reads (escape cs) (cs.map .char) :=
  fun _ => read_escape_append (.inl h)

theorem readSubstitution_append {name : List Char} (h : '\x7d' ∉ name)
    (expression rest : List Char) :
    readSubstitution expression (name ++ '\x7d' :: rest) =
      (read rest).map (startWith (.substitution (expression ++ name))) := by
  induction name generalizing expression with
  | nil => rw [List.nil_append, readSubstitution, List.append_nil]
  | cons c name ih =>
    obtain ⟨hc, hname⟩ : '\x7d' ≠ c ∧ '\x7d' ∉ name := by simpa using h
    rw [List.cons_append, readSubstitution, ih hname, List.append_assoc, List.singleton_append]
    exact fun heq => hc heq.symm

theorem reads_substitution {name : List Char} (h : '\x7d' ∉ name) :
    Reads ('$' :: '\x7b' :: name ++ ['\x7d']) [.substitution name] := by
  intro rest
  rw [List.append_assoc, List.singleton_append, List.cons_append, List.cons_append, read,
    readSubstitution_append h, List.nil_append]
  rfl

/-! ## What was read -/

/-- The expressions that a literal substitutes, in order. -/
def substitutions (items : List Item) : List (List Char) :=
  items.filterMap fun
    | .char _ => none
    | .substitution expression => some expression

/-- Follows the text since the last substitution. -/
def textAfter (text : List Char) : Item → List Char
  | .char c => text ++ [c]
  | .substitution _ => []

/-- The text after the last substitution, or the whole text if there is none. -/
def lastText (items : List Item) : List Char :=
  items.foldl textAfter []

@[simp] theorem substitutions_append (items more : List Item) :
    substitutions (items ++ more) = substitutions items ++ substitutions more :=
  List.filterMap_append

@[simp] theorem substitutions_chars (cs : List Char) : substitutions (cs.map .char) = [] := by
  simp [substitutions, List.filterMap_map]

@[simp] theorem substitutions_substitution (expression : List Char) :
    substitutions [.substitution expression] = [expression] := rfl

theorem foldl_textAfter_chars (text cs : List Char) :
    (cs.map Item.char).foldl textAfter text = text ++ cs := by
  induction cs generalizing text with
  | nil => simp
  | cons c cs ih => simp [textAfter, ih]

@[simp] theorem lastText_chars (cs : List Char) : lastText (cs.map .char) = cs :=
  foldl_textAfter_chars [] cs

/-- Substitutions, each behind the same text. -/
def spaced (text : List Char) (expressions : List (List Char)) : List Item :=
  expressions.flatMap fun e => text.map .char ++ [.substitution e]

@[simp] theorem substitutions_spaced (text : List Char) (expressions : List (List Char)) :
    substitutions (spaced text expressions) = expressions := by
  induction expressions with
  | nil => rfl
  | cons e expressions ih =>
    rw [spaced, List.flatMap_cons, ← spaced, substitutions_append, ih]
    simp

theorem lastText_spaced_append (text : List Char) (expressions : List (List Char))
    (cs : List Char) : lastText (spaced text expressions ++ cs.map .char) = cs := by
  rw [lastText, List.foldl_append, foldl_textAfter_chars]
  rcases List.eq_nil_or_concat expressions with rfl | ⟨front, e, rfl⟩
  · rfl
  · simp [spaced, textAfter]

end TypedClient.Text.TemplateLiteral
