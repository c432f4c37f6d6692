import TypedClient.Proofs.Names
import TypedClient.Proofs.TemplateLiteral

/-!
# Words of generated code

A reader for the words of a statement: keywords and identifiers, but neither the names of members,
which stand behind a dot, nor what stands in quotes. In a template literal only the substitutions
count.

The reader goes over the text once, so what it does on a text put together from parts follows from
what it does on the parts. `Scans` states that for a part, whatever stands behind it.
-/

namespace TypedClient.Text.Words

open Token (isNameChar)

/-- Where the reader is. -/
inductive Mode where
  | code
  /-- Right behind a dot. -/
  | dot
  /-- In the name of a member. -/
  | member
  /-- In a word that starts with `chars`. -/
  | word (chars : List Char)
  | quoted

/-- Where a character leads that is not part of a word. -/
def Mode.behind (c : Char) : Mode :=
  if c = '"' then quoted else if c = '.' then dot else code

def Mode.next : Mode → Char → Mode
  | code, c => if isNameChar c then word [c] else behind c
  | dot, c | member, c => if isNameChar c then member else behind c
  | word chars, c => if isNameChar c then word (chars ++ [c]) else behind c
  | quoted, c => if c = '"' then code else quoted

/-- The word that ends before the character, if one does. -/
def Mode.ended : Mode → Char → List (List Char)
  | word chars, c => if isNameChar c then [] else [chars]
  | code, _ | dot, _ | member, _ | quoted, _ => []

/-- The words that a reader in the given mode still finds. -/
def scan : Mode → List Char → List (List Char)
  | .word chars, [] => [chars]
  | .code, [] | .dot, [] | .member, [] | .quoted, [] => []
  | m, c :: cs => m.ended c ++ scan (m.next c) cs

/-- Over `text`, which starts no template literal, the reader gets from `m` to `m'` and finds
`found`, whatever stands behind `text`. -/
structure Scans (text : String) (m m' : Mode) (found : List (List Char)) : Prop where
  plain : '\x60' ∉ text.toList
  scan_append : ∀ rest, scan m (text.toList ++ rest) = found ++ scan m' rest

/-- A text whose characters are known is read by evaluation, and so are string literals. -/
theorem scans_literal {cs : List Char} {m m' : Mode} {found : List (List Char)}
    (plain : '\x60' ∉ cs) (h : ∀ rest, scan m (cs ++ rest) = found ++ scan m' rest) :
    Scans (String.ofList cs) m m' found := by
  refine ⟨?_, fun rest => ?_⟩
  · rwa [String.toList_ofList]
  · rw [String.toList_ofList, h]

theorem scans_empty (m : Mode) : Scans "" m m [] :=
  scans_literal (by decide) fun _ => rfl

theorem scans_pad : Scans "  " .code .code [] :=
  scans_literal (by decide) fun _ => rfl

theorem scans_feed : Scans "\n" .code .code [] :=
  scans_literal (by decide) fun _ => rfl

theorem Scans.append {text text' : String} {m m' m'' : Mode} {found found' : List (List Char)}
    (h : Scans text m m' found) (h' : Scans text' m' m'' found') :
    Scans (text ++ text') m m'' (found ++ found') := by
  refine ⟨?_, fun rest => ?_⟩
  · rw [String.toList_append, List.mem_append]
    exact not_or.2 ⟨h.plain, h'.plain⟩
  · rw [String.toList_append, List.append_assoc, h.scan_append, h'.scan_append, List.append_assoc]

/-- At the end of the text the word at hand, if there is one, ends as well. -/
theorem Scans.scan_eq {text : String} {m m' : Mode} {found : List (List Char)}
    (h : Scans text m m' found) : scan m text.toList = found ++ scan m' [] := by
  have hend := h.scan_append []
  rwa [List.append_nil] at hend

/-! ## Parts of a text -/

theorem scan_cons (m : Mode) (c : Char) (cs : List Char) :
    scan m (c :: cs) = m.ended c ++ scan (m.next c) cs := by
  cases m <;> rw [scan]

theorem scan_word_append {chars more : List Char} (h : ∀ c ∈ more, isNameChar c = true)
    (rest : List Char) : scan (.word chars) (more ++ rest) = scan (.word (chars ++ more)) rest := by
  induction more generalizing chars with
  | nil => simp
  | cons c more ih =>
    obtain ⟨hc, hmore⟩ := List.forall_mem_cons.1 h
    rw [List.cons_append, scan_cons, Mode.ended, Mode.next, if_pos hc, if_pos hc, ih hmore,
      List.append_assoc]
    rfl

theorem scan_member_append {cs : List Char} (h : ∀ c ∈ cs, isNameChar c = true)
    (rest : List Char) : scan .member (cs ++ rest) = scan .member rest := by
  induction cs with
  | nil => rfl
  | cons c cs ih =>
    obtain ⟨hc, hcs⟩ := List.forall_mem_cons.1 h
    rw [List.cons_append, scan_cons, Mode.ended, Mode.next, if_pos hc, ih hcs]
    rfl

theorem exists_cons_of_isName {n : String} (h : isName n = true) :
    ∃ c cs, n.toList = c :: cs ∧ isNameChar c = true ∧ ∀ d ∈ cs, isNameChar d = true := by
  have hchars : ∀ c ∈ n.toList, isNameChar c = true := fun c hc => isNameChar_of_mem h hc
  cases hn : n.toList with
  | nil =>
    rw [isName, hn] at h
    cases h
  | cons c cs =>
    rw [hn] at hchars
    exact ⟨c, cs, rfl, List.forall_mem_cons.1 hchars⟩

/-- A name where a word can start. -/
theorem scans_name {n : String} (h : isName n = true) :
    Scans n .code (.word n.toList) [] := by
  refine ⟨not_mem_of_isName h (by decide), fun rest => ?_⟩
  obtain ⟨c, cs, hn, hc, hcs⟩ := exists_cons_of_isName h
  rw [hn, List.cons_append, scan_cons, Mode.ended, Mode.next, if_pos hc, scan_word_append hcs,
    List.singleton_append]

/-- A name that stands as a word between two texts. -/
theorem scans_around {n : String} (h : isName n = true) {left right : String} {m m' : Mode}
    {found found' : List (List Char)} (hleft : Scans left m .code found)
    (hright : Scans right (.word n.toList) m' found') :
    Scans (left ++ n ++ right) m m' (found ++ found') := by
  have hword := (hleft.append (scans_name h)).append hright
  rwa [List.append_nil] at hword

/-- A name behind a dot. -/
theorem scans_member_name {n : String} (h : isName n = true) :
    Scans n .dot .member [] := by
  refine ⟨not_mem_of_isName h (by decide), fun rest => ?_⟩
  obtain ⟨c, cs, hn, hc, hcs⟩ := exists_cons_of_isName h
  rw [hn, List.cons_append, scan_cons, Mode.ended, Mode.next, if_pos hc, scan_member_append hcs]

/-- A name in quotes. -/
theorem scans_quoted_name {n : String} (h : isName n = true) :
    Scans n .quoted .quoted [] := by
  refine ⟨not_mem_of_isName h (by decide), fun rest => ?_⟩
  have hquote : '"' ∉ n.toList := not_mem_of_isName h (by decide)
  generalize n.toList = cs at hquote
  induction cs with
  | nil => rfl
  | cons c cs ih =>
    obtain ⟨hc, hcs⟩ : '"' ≠ c ∧ '"' ∉ cs := by simpa using hquote
    rw [List.cons_append, scan_cons, Mode.ended, Mode.next, if_neg (Ne.symm hc), ih hcs]
    rfl

/-! ## Code with a template literal -/

/-- The words of code that holds one template literal: those before it, its substitutions, and
those behind it. -/
def bodyWords (text : String) : List (List Char) :=
  let before := scan .code (text.toList.takeWhile (· != '\x60'))
  match TemplateLiteral.read (text.toList.dropWhile (· != '\x60')).tail with
  | some (items, behind) => before ++ TemplateLiteral.substitutions items ++ scan .code behind
  | none => before

theorem bodyWords_eq {before literal behind : String} {items : List TemplateLiteral.Item}
    {m m' : Mode} {found found' : List (List Char)} (hbefore : Scans before .code m found)
    (hliteral : TemplateLiteral.Reads literal.toList items)
    (hbehind : Scans behind .code m' found') :
    bodyWords (before ++ "`" ++ literal ++ "`" ++ behind) =
      found ++ scan m [] ++ TemplateLiteral.substitutions items ++ (found' ++ scan m' []) := by
  have htext : (before ++ "`" ++ literal ++ "`" ++ behind).toList =
      before.toList ++ '\x60' :: (literal.toList ++ '\x60' :: behind.toList) := by
    simp
  have hall : ∀ c ∈ before.toList, (c != '\x60') = true := by
    intro c hc
    rw [bne_iff_ne]
    rintro rfl
    exact hbefore.plain hc
  unfold bodyWords
  rw [htext, List.takeWhile_append_of_pos hall, List.dropWhile_append_of_pos hall,
    List.takeWhile_cons_of_neg (by simp), List.dropWhile_cons_of_neg (by simp), List.tail_cons,
    hliteral.end_at_backtick, List.append_nil, hbefore.scan_eq, ← hbehind.scan_eq]

end TypedClient.Text.Words
