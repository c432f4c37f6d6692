import TypedClient.Proofs.TemplateLiteral

/-!
# Escaped text

The text that `escape` writes, character by character: which characters are escaped, that none of
them could end the literal or start a substitution, and that nothing is lost. Escaping is the same
as three replacements in a row, and it can be done before or after the lines are indented.
-/

namespace TypedClient.Text.TemplateLiteral

/-! ## Characters of a literal -/

/-- A character in the text of a literal, or a backslash at its end that escapes nothing. -/
inductive Written where
  | plain (c : Char)
  | escaped (c : Char)
  | dangling
deriving DecidableEq

def written : List Char → List Written
  | [] => []
  | ['\\'] => [.dangling]
  | '\\' :: c :: cs => .escaped c :: written cs
  | c :: cs => .plain c :: written cs

def Written.char? : Written → Option Char
  | plain c | escaped c => some c
  | dangling => none

/-- The text that a literal with these characters stands for. -/
def unescape (cs : List Char) : List Char :=
  (written cs).filterMap Written.char?

/-- How a character is written in front of the next one. -/
def writtenAs (c : Char) (next : Option Char) : Written :=
  if c = '\\' ∨ c = '\x60' ∨ c = '$' ∧ next = some '\x7b' then .escaped c else .plain c

theorem written_plain {c : Char} (h : c ≠ '\\') (cs : List Char) :
    written (c :: cs) = .plain c :: written cs := by
  rw [written]
  · rintro rfl
    exact absurd rfl h
  · rintro d ds rfl
    exact absurd rfl h

theorem written_escape_cons (c : Char) (cs : List Char) :
    written (escape (c :: cs)) = writtenAs c cs.head? :: written (escape cs) := by
  rw [escape_cons]
  unfold escapeChar writtenAs
  split
  · rw [List.cons_append, List.singleton_append, written]
  · rename_i hplain
    rw [List.singleton_append, written_plain fun hslash => hplain (.inl hslash)]

theorem writtenAs_char? (c : Char) (next : Option Char) : (writtenAs c next).char? = some c := by
  unfold writtenAs
  split <;> rfl

theorem writtenAs_eq_plain {c d : Char} {next : Option Char} (h : writtenAs c next = .plain d) :
    c = d ∧ d ≠ '\x60' ∧ (d = '$' → next ≠ some '\x7b') := by
  unfold writtenAs at h
  split at h
  · cases h
  · rename_i hplain
    cases h
    exact ⟨rfl, fun htick => hplain (.inr (.inl htick)),
      fun hdollar hbrace => hplain (.inr (.inr ⟨hdollar, hbrace⟩))⟩

theorem writtenAs_ne_dangling (c : Char) (next : Option Char) : writtenAs c next ≠ .dangling := by
  unfold writtenAs
  split <;> simp

theorem unescape_escape (t : List Char) : unescape (escape t) = t := by
  unfold unescape
  induction t with
  | nil => rfl
  | cons c cs ih =>
    rw [written_escape_cons, List.filterMap_cons_some (writtenAs_char? c cs.head?), ih]

theorem backtick_not_written (t : List Char) : .plain '\x60' ∉ written (escape t) := by
  induction t with
  | nil => simp [written]
  | cons c cs ih =>
    rw [written_escape_cons, List.mem_cons]
    rintro (h | h)
    · exact (writtenAs_eq_plain h.symm).2.1 rfl
    · exact ih h

theorem dangling_not_written (t : List Char) : .dangling ∉ written (escape t) := by
  induction t with
  | nil => simp [written]
  | cons c cs ih =>
    rw [written_escape_cons, List.mem_cons]
    rintro (h | h)
    · exact writtenAs_ne_dangling c _ h.symm
    · exact ih h

/-- What is written plainly at the start of a text is its first character. -/
theorem head?_of_written_escape {t : List Char} {c : Char}
    (h : (written (escape t)).head? = some (.plain c)) : t.head? = some c := by
  cases t with
  | nil => simp [written] at h
  | cons d cs =>
    rw [written_escape_cons, List.head?_cons, Option.some.injEq] at h
    rw [List.head?_cons, (writtenAs_eq_plain h).1]

theorem substitution_not_written (t : List Char) :
    ¬ [.plain '$', .plain '\x7b'] <:+: written (escape t) := by
  induction t with
  | nil => simp [written]
  | cons c cs ih =>
    rw [written_escape_cons, List.infix_cons_iff, List.cons_prefix_cons]
    rintro (⟨hdollar, hbrace⟩ | h)
    · obtain ⟨rest, hrest⟩ := hbrace
      have hnext : cs.head? = some '\x7b' := head?_of_written_escape (by rw [← hrest]; rfl)
      exact (writtenAs_eq_plain hdollar.symm).2.2 rfl hnext
    · exact ih h

theorem escape_injective : Function.Injective escape :=
  Function.LeftInverse.injective unescape_escape

/-! ## Three replacements -/

/-- Puts `new` in the place of every occurrence of `old`, from the left. -/
def replaceAll (old new : List Char) : List Char → List Char
  | [] => []
  | c :: cs =>
    if old.isPrefixOf (c :: cs) then new ++ replaceAll old new (cs.drop (old.length - 1))
    else c :: replaceAll old new cs
termination_by cs => cs.length

theorem replaceAll_nil (old new : List Char) : replaceAll old new [] = [] := by
  rw [replaceAll]

theorem replaceAll_singleton (a : Char) (new cs : List Char) :
    replaceAll [a] new cs = cs.flatMap fun c => if c = a then new else [c] := by
  induction cs with
  | nil => rw [replaceAll_nil, List.flatMap_nil]
  | cons c cs ih =>
    rw [replaceAll, List.flatMap_cons]
    by_cases h : c = a
    · simp [h, ih]
    · simp [h, Ne.symm h, ih]

/-- Backslashes and backticks are replaced one character at a time. -/
def slash (c : Char) : List Char :=
  if c = '\\' ∨ c = '\x60' then ['\\', c] else [c]

theorem replaceAll_slashes (t : List Char) :
    replaceAll ['\x60'] ['\\', '\x60'] (replaceAll ['\\'] ['\\', '\\'] t) = t.flatMap slash := by
  rw [replaceAll_singleton, replaceAll_singleton, List.flatMap_assoc]
  congr 1
  funext c
  by_cases hslash : c = '\\'
  · simp [slash, hslash]
  · by_cases htick : c = '\x60' <;> simp [slash, hslash, htick]

theorem replaceAll_dollar_cons {c : Char} {cs : List Char} (new : List Char)
    (h : ¬ (c = '$' ∧ cs.head? = some '\x7b')) :
    replaceAll ['$', '\x7b'] new (c :: cs) = c :: replaceAll ['$', '\x7b'] new cs := by
  rw [replaceAll, if_neg]
  intro hprefix
  rw [List.isPrefixOf_iff_prefix, List.cons_prefix_cons] at hprefix
  obtain ⟨hc, rest, hrest⟩ := hprefix
  exact h ⟨hc.symm, by rw [← hrest]; rfl⟩

theorem replaceAll_dollar_brace (new cs : List Char) :
    replaceAll ['$', '\x7b'] new ('$' :: '\x7b' :: cs) =
      new ++ replaceAll ['$', '\x7b'] new cs := by
  rw [replaceAll, if_pos (by simp)]
  rfl

theorem head?_flatMap_slash (t : List Char) :
    (t.flatMap slash).head? = some '\x7b' ↔ t.head? = some '\x7b' := by
  cases t with
  | nil => simp
  | cons c cs =>
    rw [List.flatMap_cons]
    unfold slash
    split
    · rename_i h
      have hc : c ≠ '\x7b' := by rintro rfl; simp at h
      simp [hc]
    · simp

/-- Backslashes come first, so that none of those written later is doubled. -/
theorem escape_eq_replaceAll (t : List Char) :
    escape t = replaceAll ['$', '\x7b'] ['\\', '$', '\x7b']
      (replaceAll ['\x60'] ['\\', '\x60'] (replaceAll ['\\'] ['\\', '\\'] t)) := by
  rw [replaceAll_slashes]
  induction t with
  | nil => rw [escape_nil, List.flatMap_nil, replaceAll_nil]
  | cons c cs ih =>
    rw [List.flatMap_cons, escape_cons]
    by_cases hslash : c = '\\' ∨ c = '\x60'
    · have hdollar : c ≠ '$' := by rintro rfl; simp at hslash
      rw [slash, if_pos hslash, List.cons_append, List.singleton_append,
        replaceAll_dollar_cons _ (by simp), replaceAll_dollar_cons _ (by simp [hdollar]), ← ih,
        escapeChar, if_pos (by simpa [hdollar] using hslash)]
      rfl
    · rw [slash, if_neg hslash, List.singleton_append]
      by_cases hopen : c = '$' ∧ cs.head? = some '\x7b'
      · obtain ⟨rfl, hnext⟩ := hopen
        obtain ⟨rest, rfl⟩ := List.head?_eq_some_iff.1 hnext
        have hbrace : ('\x7b' :: rest).flatMap slash = '\x7b' :: rest.flatMap slash := rfl
        rw [hbrace, replaceAll_dollar_cons _ (by simp)] at ih
        rw [hbrace, ih, replaceAll_dollar_brace]
        rfl
      · have hplain : ¬ (c = '$' ∧ (cs.flatMap slash).head? = some '\x7b') := by
          rwa [head?_flatMap_slash]
        rw [replaceAll_dollar_cons _ hplain, ← ih, escapeChar, if_neg]
        · rfl
        · rintro (h | h | h)
          · exact hslash (.inl h)
          · exact hslash (.inr h)
          · exact hopen h

/-! ## The laws -/

/-- Escaped, the text can stand in a literal, and it stands for itself there. -/
structure EscapesSafely (t : List Char) : Prop where
  no_backtick : .plain '\x60' ∉ written (escape t)
  no_substitution : ¬ [.plain '$', .plain '\x7b'] <:+: written (escape t)
  no_dangling : .dangling ∉ written (escape t)
  undone : unescape (escape t) = t
  /-- A backtick behind the text ends the literal, and the text is all there is in it. -/
  read_back : ∀ rest, read (escape t ++ '\x60' :: rest) = some (t.map .char, rest)
  replaced : escape t = replaceAll ['$', '\x7b'] ['\\', '$', '\x7b']
    (replaceAll ['\x60'] ['\\', '\x60'] (replaceAll ['\\'] ['\\', '\\'] t))

/-- Lines that are indented keep their number and all end with a line feed, and only those that are
not empty have the pad before them. Escaping can come before or after that. -/
structure IndentsLines (pad t : List Char) : Prop where
  escaped : indent pad (escape t) = escape (indent pad t)
  count : (lines (indent pad t)).length = (lines t).length
  lines_between_feeds : (indent pad t).splitOn '\n' = (lines t).map (padLine pad) ++ [[]]

theorem escaped_text_laws :
    (∀ t, EscapesSafely t) ∧ Function.Injective escape ∧
      ∀ pad, '\\' ∉ pad → '\x60' ∉ pad → '$' ∉ pad → '\n' ∉ pad → ∀ t, IndentsLines pad t := by
  refine ⟨fun t => ?_, escape_injective, fun pad hslash htick hdollar hfeed t => ?_⟩
  · refine ⟨backtick_not_written t, substitution_not_written t, dangling_not_written t,
      unescape_escape t, fun rest => ?_, escape_eq_replaceAll t⟩
    rw [read_escape_append (.inr (by simp)), read_backtick, Option.map_some, List.append_nil]
  · have hplain : pad.all isPlain = true := by
      rw [List.all_eq_true]
      rintro c hc
      have hne : c ≠ '\\' ∧ c ≠ '\x60' ∧ c ≠ '$' :=
        ⟨ne_of_mem_of_not_mem hc hslash, ne_of_mem_of_not_mem hc htick,
          ne_of_mem_of_not_mem hc hdollar⟩
      simp [isPlain, hne]
    exact ⟨indent_escape hplain t, length_lines_indent hfeed t, splitOn_indent hfeed t⟩

/-- A text with a substitution behind a dollar sign, a backslash and a backtick, an empty line, and
carriage returns at the line ends. -/
theorem escaped_text_laws_of_mixedLines :
    '\\' ∉ [' ', ' '] ∧ '\x60' ∉ [' ', ' '] ∧ '$' ∉ [' ', ' '] ∧ '\n' ∉ [' ', ' '] ∧
      IndentsLines [' ', ' ']
        ['$', '$', '\x7b', '\\', '\x60', '\r', '\r', '\n', '\n', '$', '\n', '\x7b'] :=
  ⟨by decide, by decide, by decide, by decide,
    escaped_text_laws.2.2 _ (by decide) (by decide) (by decide) (by decide) _⟩

end TypedClient.Text.TemplateLiteral
