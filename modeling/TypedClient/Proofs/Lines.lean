import TypedClient.Text

/-!
# Lines and indents

`Text.lines` one character at a time, and what it does to a text that is put together from
lines.
-/

namespace TypedClient.Text

/-- Puts characters before the first line. -/
def startLine (start : List Char) : List (List Char) → List (List Char)
  | [] => [start]
  | line :: rest => (start ++ line) :: rest

/-- A carriage return counts for nothing right before a line feed; any other character but the
line feed is part of its line. -/
theorem lines_cons (c : Char) (cs : List Char) :
    lines (c :: cs) =
      if c = '\n' then [] :: lines cs
      else if c = '\r' ∧ cs.head? = some '\n' then lines cs
      else startLine [c] (lines cs) := by
  by_cases hfeed : c = '\n'
  · subst hfeed
    rw [if_pos rfl, lines]
  · rw [if_neg hfeed]
    by_cases hreturn : c = '\r' ∧ cs.head? = some '\n'
    · obtain ⟨rfl, hhead⟩ := hreturn
      obtain ⟨rest, rfl⟩ := List.head?_eq_some_iff.1 hhead
      rw [if_pos ⟨rfl, rfl⟩, lines, lines]
    · rw [if_neg hreturn, lines]
      · cases lines cs <;> rfl
      · exact hfeed
      · rintro rest rfl rfl
        exact hreturn ⟨rfl, rfl⟩

theorem lines_cons_of_plain {c : Char} {cs : List Char} (hfeed : c ≠ '\n')
    (hreturn : ¬ (c = '\r' ∧ cs.head? = some '\n')) :
    lines (c :: cs) = startLine [c] (lines cs) := by
  rw [lines_cons, if_neg hfeed, if_neg hreturn]

theorem lines_eq_nil_iff {cs : List Char} : lines cs = [] ↔ cs = [] := by
  induction cs with
  | nil => simp [lines]
  | cons c cs ih =>
    rw [lines_cons]
    split
    · simp
    · split
      · rename_i hreturn
        obtain ⟨tail, rfl⟩ := List.head?_eq_some_iff.1 hreturn.2
        simp [lines_cons]
      · cases lines cs <;> simp [startLine]

/-- The first line starts as the text does, unless it is empty. -/
theorem head?_of_lines {cs line : List Char} {rest : List (List Char)} {c : Char}
    (h : lines cs = (c :: line) :: rest) : cs.head? = some c := by
  cases cs with
  | nil => simp [lines] at h
  | cons d cs =>
    rw [lines_cons] at h
    split at h
    · simp at h
    · split at h
      · rename_i hreturn
        obtain ⟨tail, rfl⟩ := List.head?_eq_some_iff.1 hreturn.2
        simp [lines_cons] at h
      · cases hcs : lines cs with
        | nil | cons => simp_all [startLine]

/-- A line that ends with a line feed stands on its own. -/
theorem lines_append_feed {line : List Char} (hfeed : '\n' ∉ line)
    (hreturn : line.getLast? ≠ some '\r') (rest : List Char) :
    lines (line ++ '\n' :: rest) = line :: lines rest := by
  induction line with
  | nil => rw [List.nil_append, lines_cons, if_pos rfl]
  | cons c line ih =>
    obtain ⟨hc, hline⟩ : '\n' ≠ c ∧ '\n' ∉ line := by simpa using hfeed
    have hlast : line.getLast? ≠ some '\r' := by
      cases line with
      | nil => simp
      | cons d line => simpa using hreturn
    have hplain : ¬ (c = '\r' ∧ (line ++ '\n' :: rest).head? = some '\n') := by
      rintro ⟨rfl, hhead⟩
      cases line with
      | nil => simp at hreturn
      | cons d line =>
        rw [List.cons_append, List.head?_cons, Option.some.injEq] at hhead
        exact hline (by simp [hhead])
    rw [List.cons_append, lines_cons_of_plain (Ne.symm hc) hplain, ih hline hlast, startLine,
      List.singleton_append]

/-- A carriage return before the line feed belongs to the line end. -/
theorem lines_append_return_feed {line : List Char} (hfeed : '\n' ∉ line) (rest : List Char) :
    lines (line ++ '\r' :: '\n' :: rest) = line :: lines rest := by
  induction line with
  | nil => rw [List.nil_append, lines_cons, if_neg (by decide), if_pos ⟨rfl, rfl⟩, lines_cons,
      if_pos rfl]
  | cons c line ih =>
    obtain ⟨hc, hline⟩ : '\n' ≠ c ∧ '\n' ∉ line := by simpa using hfeed
    have hplain : ¬ (c = '\r' ∧ (line ++ '\r' :: '\n' :: rest).head? = some '\n') := by
      rintro ⟨-, hhead⟩
      cases line with
      | nil => simp at hhead
      | cons d line =>
        rw [List.cons_append, List.head?_cons, Option.some.injEq] at hhead
        exact hline (by simp [hhead])
    rw [List.cons_append, lines_cons_of_plain (Ne.symm hc) hplain, ih hline, startLine,
      List.singleton_append]

theorem length_lines_append_feed {line : List Char} (hfeed : '\n' ∉ line) (rest : List Char) :
    (lines (line ++ '\n' :: rest)).length = (lines rest).length + 1 := by
  by_cases hreturn : line.getLast? = some '\r'
  · obtain ⟨front, rfl⟩ := List.getLast?_eq_some_iff.1 hreturn
    have hfront : '\n' ∉ front := fun h => hfeed (List.mem_append_left _ h)
    rw [List.append_assoc, List.singleton_append, lines_append_return_feed hfront,
      List.length_cons]
  · rw [lines_append_feed hfeed hreturn, List.length_cons]

theorem feed_not_mem_of_lines {cs line : List Char} (h : line ∈ lines cs) : '\n' ∉ line := by
  induction cs generalizing line with
  | nil => simp [lines] at h
  | cons c cs ih =>
    rw [lines_cons] at h
    split at h
    · rcases List.mem_cons.1 h with rfl | h
      · simp
      · exact ih h
    · rename_i hfeed
      split at h
      · exact ih h
      · cases hcs : lines cs with
        | nil =>
          obtain rfl : line = [c] := by simpa [hcs, startLine] using h
          simpa using Ne.symm hfeed
        | cons first rest =>
          rw [hcs, startLine, List.mem_cons] at h
          rcases h with rfl | h
          · have hfirst : '\n' ∉ first := ih (by simp [hcs])
            simpa [hfirst] using Ne.symm hfeed
          · exact ih (by simp [hcs, h])

/-- A line feed after the last line adds no line. -/
theorem lines_append_final_feed {cs : List Char} {c : Char} (hlast : cs.getLast? = some c)
    (hfeed : c ≠ '\n') (hreturn : c ≠ '\r') : lines (cs ++ ['\n']) = lines cs := by
  induction cs with
  | nil => simp at hlast
  | cons d cs ih =>
    rw [List.cons_append, lines_cons, lines_cons]
    cases cs with
    | nil =>
      obtain rfl : d = c := by simpa using hlast
      rw [if_neg hfeed, if_neg hfeed, if_neg (by simp [hreturn]), if_neg (by simp)]
      rfl
    | cons e cs =>
      rw [ih (by simpa using hlast), List.cons_append, List.head?_cons, List.head?_cons]

/-! ## Indents -/

/-- A line behind the pad; an empty line stays empty. -/
def padLine (pad line : List Char) : List Char :=
  if line = [] then [] else pad ++ line

theorem indent_eq_flatMap (pad cs : List Char) :
    indent pad cs = ((lines cs).map (padLine pad)).flatMap (· ++ ['\n']) := by
  rw [indent, List.flatMap_map]
  congr 1
  funext line
  cases line <;> simp [padLine]

theorem feed_not_mem_padded {pad cs line : List Char} (hpad : '\n' ∉ pad)
    (h : line ∈ (lines cs).map (padLine pad)) : '\n' ∉ line := by
  obtain ⟨l, hl, rfl⟩ := List.mem_map.1 h
  unfold padLine
  split
  · simp
  · simp [hpad, feed_not_mem_of_lines hl]

/-- Lines that each end with a line feed are counted as written. -/
theorem length_lines_flatMap {ls : List (List Char)} (h : ∀ l ∈ ls, '\n' ∉ l) :
    (lines (ls.flatMap (· ++ ['\n']))).length = ls.length := by
  induction ls with
  | nil => simp [lines]
  | cons l ls ih =>
    obtain ⟨hl, hls⟩ := List.forall_mem_cons.1 h
    rw [List.flatMap_cons, List.append_assoc, List.singleton_append, length_lines_append_feed hl,
      ih hls, List.length_cons]

theorem flatMap_feed_eq_intercalate (ls : List (List Char)) :
    ls.flatMap (· ++ ['\n']) = ['\n'].intercalate (ls ++ [[]]) := by
  induction ls with
  | nil => simp
  | cons l ls ih =>
    rw [List.flatMap_cons, ih]
    cases ls with
    | nil => simp
    | cons m ls => exact List.intercalate_cons_cons.symm

/-- Cut at its line feeds, indented text gives its lines, and nothing behind the last one. -/
theorem splitOn_indent {pad : List Char} (hpad : '\n' ∉ pad) (cs : List Char) :
    (indent pad cs).splitOn '\n' = (lines cs).map (padLine pad) ++ [[]] := by
  rw [indent_eq_flatMap, flatMap_feed_eq_intercalate, List.splitOn_intercalate]
  · intro line hline
    rcases List.mem_append.1 hline with h | h
    · exact feed_not_mem_padded hpad h
    · simp [List.mem_singleton.1 h]
  · simp

theorem length_lines_indent {pad : List Char} (hpad : '\n' ∉ pad) (cs : List Char) :
    (lines (indent pad cs)).length = (lines cs).length := by
  rw [indent_eq_flatMap, length_lines_flatMap fun _ h => feed_not_mem_padded hpad h,
    List.length_map]

theorem indent_append_feed {line : List Char} (hne : line ≠ []) (hfeed : '\n' ∉ line)
    (hreturn : line.getLast? ≠ some '\r') (pad rest : List Char) :
    indent pad (line ++ '\n' :: rest) = pad ++ line ++ '\n' :: indent pad rest := by
  rw [indent, lines_append_feed hfeed hreturn, List.flatMap_cons, ← indent]
  cases line with
  | nil => exact absurd rfl hne
  | cons c line => simp

theorem indent_append_final_feed {cs : List Char} {c : Char} (hlast : cs.getLast? = some c)
    (hfeed : c ≠ '\n') (hreturn : c ≠ '\r') (pad : List Char) :
    indent pad (cs ++ ['\n']) = indent pad cs := by
  rw [indent, lines_append_final_feed hlast hfeed hreturn, ← indent]

/-- A character that ends no line. -/
def isInline (c : Char) : Bool :=
  c != '\n' && c != '\r'

theorem isInline_iff {c : Char} : isInline c = true ↔ c ≠ '\n' ∧ c ≠ '\r' := by
  simp [isInline]

theorem not_mem_of_inline {line : List Char} (h : line.all isInline = true) :
    '\n' ∉ line ∧ '\r' ∉ line := by
  rw [List.all_eq_true] at h
  exact ⟨fun hfeed => (isInline_iff.1 (h _ hfeed)).1 rfl,
    fun hreturn => (isInline_iff.1 (h _ hreturn)).2 rfl⟩

/-- Lines that are written down one after the other are indented one by one. -/
theorem indent_lines {ls : List (List Char)} (hne : ∀ l ∈ ls, l ≠ [])
    (hinline : ∀ l ∈ ls, l.all isInline = true) (pad : List Char) :
    indent pad (ls.flatMap (· ++ ['\n'])) = ls.flatMap (pad ++ · ++ ['\n']) := by
  induction ls with
  | nil => rfl
  | cons l ls ih =>
    obtain ⟨hl, hne⟩ := List.forall_mem_cons.1 hne
    obtain ⟨hline, hinline⟩ := List.forall_mem_cons.1 hinline
    obtain ⟨hfeed, hreturn⟩ := not_mem_of_inline hline
    have hlast : l.getLast? ≠ some '\r' := fun h => hreturn (List.mem_of_getLast? h)
    rw [List.flatMap_cons, List.flatMap_cons, List.append_assoc, List.singleton_append,
      indent_append_feed hl hfeed hlast, ih hne hinline]
    simp

/-- Indented text ends with a line feed. -/
theorem getLast?_indent {pad cs : List Char} {c : Char} (h : (indent pad cs).getLast? = some c) :
    c = '\n' := by
  unfold indent at h
  generalize lines cs = all at h
  induction all with
  | nil => simp at h
  | cons line rest ih =>
    rw [List.flatMap_cons, List.getLast?_append, Option.or_eq_some_iff] at h
    rcases h with h | ⟨-, h⟩
    · exact ih h
    · split at h
      · simpa using h.symm
      · simpa using h.symm

end TypedClient.Text
