import TypedClient.Proofs.Names

/-!
# Pascal case

What `pascalCase` makes of any text. The results are its fixed points: nothing in them is dropped,
and every word starts with a character that is its own upper-case form.

For the second part the tables of `Text.upper` are searched for a character that is the initial of
an upper-case form and has another upper-case form itself. Sets of code points are compared as bit
masks, so that the search is linear in the size of the tables.
-/

namespace TypedClient

/-- Whether a word starts behind the character. -/
def isSeparator (c : Char) : Bool :=
  c == '_' || c == '-' || Text.isBlank c

namespace Text

/-! ## Sets of code points -/

/-- The number that has the bits in the list. -/
def mask : List Nat → Nat
  | [] => 0
  | n :: ns => 1 <<< n ||| mask ns

theorem testBit_mask (ns : List Nat) (n : Nat) : (mask ns).testBit n = decide (n ∈ ns) := by
  induction ns with
  | nil => simp [mask]
  | cons m ns ih =>
    rw [mask, Nat.testBit_or, Nat.one_shiftLeft, Nat.testBit_two_pow, ih]
    simp [eq_comm]

theorem not_mem_of_mask {ms ns : List Nat} (h : mask ms &&& mask ns = 0) {n : Nat} (hn : n ∈ ns) :
    n ∉ ms := by
  intro hm
  have hbit : (mask ms &&& mask ns).testBit n = true := by
    simp [Nat.testBit_and, testBit_mask, hm, hn]
  simp [h] at hbit

namespace CharRun

/-- How many characters of the run come after the first one. -/
def steps (r : CharRun) : Nat := (r.last - r.first) / r.step

def sources (r : CharRun) : List Nat := List.range' r.first (r.steps + 1) r.step

def images (r : CharRun) : List Nat := List.range' r.image (r.steps + 1) r.step

variable {r : CharRun} {n : Nat}

theorem step_of_contains (h : r.contains n = true) :
    ∃ i, i < r.steps + 1 ∧ n = r.first + r.step * i := by
  simp only [contains, Bool.and_eq_true, decide_eq_true_eq, beq_iff_eq] at h
  obtain ⟨⟨hfirst, hlast⟩, hstep⟩ := h
  refine ⟨(n - r.first) / r.step, ?_, ?_⟩
  · have hle : n - r.first ≤ r.last - r.first := by omega
    exact Nat.lt_succ_of_le (Nat.div_le_div_right hle)
  · have hsplit := Nat.div_add_mod (n - r.first) r.step
    omega

theorem mem_sources (h : r.contains n = true) : n ∈ r.sources :=
  List.mem_range'.2 (step_of_contains h)

theorem mem_images (h : r.contains n = true) : n - r.first + r.image ∈ r.images := by
  obtain ⟨i, hi, hn⟩ := step_of_contains h
  exact List.mem_range'.2 ⟨i, hi, by omega⟩

end CharRun

/-! ## The tables -/

namespace Uppercase

/-- The characters with an upper-case form other than themselves. -/
def changed : List Nat :=
  runs.flatMap CharRun.sources ++ expansions.map Prod.fst

/-- The characters that upper-case forms of others start with. -/
def initials : List Nat :=
  runs.flatMap CharRun.images ++ expansions.flatMap fun e => e.2.take 1

/-- The characters that upper-case forms of others are made of. -/
def letters : List Nat :=
  runs.flatMap CharRun.images ++ expansions.flatMap Prod.snd

def separators : List Nat :=
  [0x5F, 0x2D, 0x20, 0x85, 0xA0, 0x1680, 0x2028, 0x2029, 0x202F, 0x205F, 0x3000] ++
    List.range' 0x9 5 ++ List.range' 0x2000 11

theorem initials_unchanged : mask changed &&& mask initials = 0 := by decide +kernel

theorem letters_separate_nothing : mask separators &&& mask letters = 0 := by decide +kernel

theorem isValidChar_of_letter : ∀ n ∈ letters, n.isValidChar := by decide +kernel

theorem expansions_ne_nil : ∀ e ∈ expansions, e.2 ≠ [] := by decide +kernel

theorem mem_letters_of_initial {n : Nat} (h : n ∈ initials) : n ∈ letters := by
  rw [initials, List.mem_append, List.mem_flatMap] at h
  rw [letters, List.mem_append, List.mem_flatMap]
  rcases h with h | h
  · exact .inl h
  · obtain ⟨e, he, hn⟩ := List.mem_flatMap.1 h
    exact .inr (List.mem_flatMap.2 ⟨e, he, List.mem_of_mem_take hn⟩)

theorem mem_separators {c : Char} (h : isSeparator c = true) : c.toNat ∈ separators := by
  have hunderscore : c = '_' ↔ c.toNat = 0x5F := by
    rw [← Char.toNat_inj]
    rfl
  have hhyphen : c = '-' ↔ c.toNat = 0x2D := by
    rw [← Char.toNat_inj]
    rfl
  simp only [isSeparator, isBlank, Bool.or_eq_true, Bool.and_eq_true, beq_iff_eq,
    decide_eq_true_eq, hunderscore, hhyphen] at h
  simp only [separators, List.mem_append, List.mem_cons, List.not_mem_nil, List.mem_range'_1]
  omega

theorem toNat_ofNat_of_letter {n : Nat} (h : n ∈ letters) : (Char.ofNat n).toNat = n := by
  rw [Char.ofNat, dif_pos (isValidChar_of_letter n h)]
  rfl

theorem isSeparator_of_letter {n : Nat} (h : n ∈ letters) : isSeparator (Char.ofNat n) = false := by
  rw [Bool.eq_false_iff]
  intro hsep
  have hmem := mem_separators hsep
  rw [toNat_ofNat_of_letter h] at hmem
  exact not_mem_of_mask letters_separate_nothing h hmem

end Uppercase

open Uppercase

theorem upper_of_not_changed {c : Char} (h : c.toNat ∉ changed) : upper c = [c] := by
  obtain ⟨hruns, hexpansions⟩ := not_or.1 (mt List.mem_append.2 h)
  have himage : runs.find? (·.contains c.toNat) = none := by
    rw [List.find?_eq_none]
    intro r hr hcontains
    exact hruns (List.mem_flatMap.2 ⟨r, hr, CharRun.mem_sources hcontains⟩)
  have hlookup : expansions.lookup c.toNat = none := by
    rw [List.lookup_eq_none_iff]
    intro e he
    have hne : c.toNat ≠ e.1 := fun heq => hexpansions (heq ▸ List.mem_map_of_mem he)
    simpa using hne
  rw [upper, CharRun.image?, himage, hlookup]
  rfl

/-- A character stands for itself, or its upper-case form is made of letters, the first of them an
initial. -/
theorem upper_cases (c : Char) :
    upper c = [c] ∨ ∃ n ns, upper c = Char.ofNat n :: ns.map Char.ofNat ∧ n ∈ initials ∧
      ∀ m ∈ n :: ns, m ∈ letters := by
  unfold upper CharRun.image?
  cases hrun : runs.find? (·.contains c.toNat) with
  | some r =>
    have hr := List.mem_of_find?_eq_some hrun
    have hcontains : r.contains c.toNat = true := by simpa using List.find?_some hrun
    have himage : c.toNat - r.first + r.image ∈ runs.flatMap CharRun.images :=
      List.mem_flatMap.2 ⟨r, hr, CharRun.mem_images hcontains⟩
    refine .inr ⟨_, [], rfl, List.mem_append_left _ himage, fun m hm => ?_⟩
    rw [List.mem_singleton.1 hm]
    exact List.mem_append_left _ himage
  | none =>
    cases hlookup : expansions.lookup c.toNat with
    | none => exact .inl rfl
    | some ns =>
      obtain ⟨before, after, htable, -⟩ := List.lookup_eq_some_iff.1 hlookup
      have he : (c.toNat, ns) ∈ expansions := by simp [htable]
      cases ns with
      | nil => exact absurd rfl (expansions_ne_nil _ he)
      | cons n ns =>
        refine .inr ⟨n, ns, rfl, List.mem_append_right _ ?_, fun m hm => List.mem_append_right _ ?_⟩
        · exact List.mem_flatMap.2 ⟨_, he, by simp⟩
        · exact List.mem_flatMap.2 ⟨_, he, hm⟩

/-- No separator comes into being when a character is upper-cased, and what the form starts with is
its own upper-case form. -/
theorem upper_eq_cons {c : Char} (h : isSeparator c = false) :
    ∃ u us, upper c = u :: us ∧ upper u = [u] ∧ ∀ x ∈ u :: us, isSeparator x = false := by
  rcases upper_cases c with hself | ⟨n, ns, hform, hinitial, hletters⟩
  · exact ⟨c, [], hself, hself, by simpa using h⟩
  · refine ⟨Char.ofNat n, ns.map Char.ofNat, hform, ?_, ?_⟩
    · apply upper_of_not_changed
      rw [toNat_ofNat_of_letter (mem_letters_of_initial hinitial)]
      exact not_mem_of_mask initials_unchanged hinitial
    · intro x hx
      rw [← List.map_cons, List.mem_map] at hx
      obtain ⟨m, hm, rfl⟩ := hx
      exact isSeparator_of_letter (hletters m hm)

end Text

/-! ## Fixed points -/

/-- Underscores are the only separators, and the words start with characters that are their own
upper-case forms. `start` says whether a word can start with the first character. -/
def IsPascal : Bool → List Char → Prop
  | _, [] => True
  | start, c :: cs =>
    (isSeparator c = true → c = '_') ∧ (start = true → Text.upper c = [c]) ∧ IsPascal (c == '_') cs

theorem upper_underscore : Text.upper '_' = ['_'] := Text.upper_of_ascii (by decide)

theorem ne_underscore_of_not_separator {c : Char} (h : isSeparator c = false) : c ≠ '_' := by
  rintro rfl
  cases h

theorem isPascal_append {us cs : List Char} (hus : ∀ u ∈ us, isSeparator u = false)
    (hcs : IsPascal false cs) : IsPascal false (us ++ cs) := by
  induction us with
  | nil => exact hcs
  | cons u us ih =>
    obtain ⟨hu, hus⟩ := List.forall_mem_cons.1 hus
    refine ⟨by simp [hu], nofun, ?_⟩
    have hinside : (u == '_') = false := by simpa using ne_underscore_of_not_separator hu
    rw [hinside]
    exact ih hus

/-- One character of `pascalChars`: an underscore, another separator, or a character of a word. -/
theorem pascalChars_cases (start : Bool) (c : Char) (cs : List Char) :
    (c = '_' ∧ pascalChars start (c :: cs) = '_' :: pascalChars true cs) ∨
      (isSeparator c = true ∧ c ≠ '_' ∧ pascalChars start (c :: cs) = pascalChars true cs) ∨
      (isSeparator c = false ∧ pascalChars start (c :: cs) =
        (if start then Text.upper c else [c]) ++ pascalChars false cs) := by
  rw [pascalChars]
  by_cases hunderscore : c = '_'
  · exact .inl ⟨hunderscore, by simp [hunderscore]⟩
  · by_cases hdropped : (c = '-' || Text.isBlank c) = true
    · refine .inr (.inl ⟨?_, hunderscore, by rw [if_neg hunderscore, if_pos hdropped]⟩)
      simpa [isSeparator, hunderscore] using hdropped
    · refine .inr (.inr ⟨?_, ?_⟩)
      · simpa [isSeparator, hunderscore] using hdropped
      · rw [if_neg hunderscore, if_neg hdropped]
        cases start <;> rfl

/-- Where no word starts, nothing is asked of the first character. -/
theorem IsPascal.inside {cs : List Char} (h : IsPascal true cs) (start : Bool) :
    IsPascal start cs := by
  cases cs with
  | nil => trivial
  | cons c cs => exact ⟨h.1, fun _ => h.2.1 rfl, h.2.2⟩

theorem isPascal_pascalChars (start : Bool) (cs : List Char) :
    IsPascal start (pascalChars start cs) := by
  induction cs generalizing start with
  | nil => trivial
  | cons c cs ih =>
    rcases pascalChars_cases start c cs with ⟨-, heq⟩ | ⟨-, -, heq⟩ | ⟨hword, heq⟩
    · rw [heq]
      exact ⟨fun _ => rfl, fun _ => upper_underscore, ih true⟩
    · -- The separator is gone, so the next word may now stand inside the one before it.
      rw [heq]
      exact (ih true).inside start
    · rw [heq]
      cases start with
      | true =>
        obtain ⟨u, us, hform, hself, hletters⟩ := Text.upper_eq_cons hword
        obtain ⟨hu, hus⟩ := List.forall_mem_cons.1 hletters
        have hinside : (u == '_') = false := by simpa using ne_underscore_of_not_separator hu
        rw [if_pos rfl, hform, List.cons_append]
        refine ⟨by simp [hu], fun _ => hself, ?_⟩
        rw [hinside]
        exact isPascal_append hus (ih false)
      | false => exact isPascal_append (by simpa using hword) (ih false)

theorem pascalChars_of_isPascal {start : Bool} {cs : List Char} (h : IsPascal start cs) :
    pascalChars start cs = cs := by
  induction cs generalizing start with
  | nil => rfl
  | cons c cs ih =>
    obtain ⟨hsep, hstart, hrest⟩ := h
    have htail := ih hrest
    rcases pascalChars_cases start c cs with ⟨rfl, heq⟩ | ⟨hc, hne, -⟩ | ⟨hword, heq⟩
    · rw [heq]
      exact congrArg ('_' :: ·) htail
    · exact absurd (hsep hc) hne
    · have hinside : (c == '_') = false := by simpa using ne_underscore_of_not_separator hword
      rw [hinside] at htail
      cases start with
      | true => rw [heq, if_pos rfl, hstart rfl, htail, List.singleton_append]
      | false =>
        rw [heq, htail]
        rfl

theorem IsPascal.eq_underscore {start : Bool} {cs : List Char} (h : IsPascal start cs) {c : Char}
    (hc : c ∈ cs) (hsep : isSeparator c = true) : c = '_' := by
  induction cs generalizing start with
  | nil => cases hc
  | cons d cs ih =>
    rcases List.mem_cons.1 hc with rfl | hc
    · exact h.1 hsep
    · exact ih h.2.2 hc

theorem IsPascal.upper_eq {p : Char} {cs : List Char} (h : IsPascal (p == '_') cs) {i : Nat}
    {c : Char} (hstart : (p :: cs)[i]? = some '_') (hc : cs[i]? = some c) : Text.upper c = [c] := by
  induction cs generalizing p i with
  | nil => simp at hc
  | cons d cs ih =>
    cases i with
    | zero =>
      obtain rfl : p = '_' := by simpa using hstart
      obtain rfl : d = c := by simpa using hc
      exact h.2.1 rfl
    | succ i => exact ih h.2.2 (by simpa using hstart) (by simpa using hc)

theorem isPascal_pascalCase (s : String) : IsPascal true (pascalCase s).toList := by
  rw [pascalCase, String.toList_ofList]
  exact isPascal_pascalChars true s.toList

theorem pascalCase_pascalCase (s : String) : pascalCase (pascalCase s) = pascalCase s := by
  rw [pascalCase, pascalChars_of_isPascal (isPascal_pascalCase s), String.ofList_toList]

/-! ## Underscores -/

theorem count_underscore_of_no_separator {us : List Char}
    (h : ∀ u ∈ us, isSeparator u = false) : us.count '_' = 0 := by
  rw [List.count_eq_zero]
  intro hmem
  cases h '_' hmem

theorem count_underscore_pascalChars (start : Bool) (cs : List Char) :
    (pascalChars start cs).count '_' = cs.count '_' := by
  induction cs generalizing start with
  | nil => rfl
  | cons c cs ih =>
    rcases pascalChars_cases start c cs with ⟨rfl, heq⟩ | ⟨-, hne, heq⟩ | ⟨hword, heq⟩
    · rw [heq, List.count_cons_self, List.count_cons_self, ih]
    · rw [heq, ih, List.count_cons_of_ne hne]
    · have hletters : ∀ u ∈ (if start then Text.upper c else [c]), isSeparator u = false := by
        cases start with
        | true =>
          obtain ⟨u, us, hform, -, hletters⟩ := Text.upper_eq_cons hword
          simpa [hform] using hletters
        | false => simpa using hword
      rw [heq, List.count_append, count_underscore_of_no_separator hletters, Nat.zero_add, ih,
        List.count_cons_of_ne (ne_underscore_of_not_separator hword)]

/-! ## The laws -/

/-- Of any text nothing stays that separates words but its underscores, all words start with
characters that are their own upper-case forms, and doing it again changes nothing. A name stays a
name, and only the case of its letters changes. -/
theorem pascalCase_laws :
    (∀ s : String,
      '-' ∉ (pascalCase s).toList ∧
      (∀ c ∈ (pascalCase s).toList, Text.isBlank c = false) ∧
      (pascalCase s).toList.count '_' = s.toList.count '_' ∧
      (∀ i c, StartsWord (pascalCase s).toList i → (pascalCase s).toList[i]? = some c →
        Text.upper c = [c]) ∧
      pascalCase (pascalCase s) = pascalCase s) ∧
    ∀ n : String, isName n = true →
      isName (pascalCase n) = true ∧
      (pascalCase n).length = n.length ∧
      (pascalCase n).toList.map Char.toLower = n.toList.map Char.toLower := by
  refine ⟨fun s => ?_, fun n hn => ?_⟩
  · have hpascal := isPascal_pascalCase s
    refine ⟨fun hhyphen => ?_, fun c hc => ?_, ?_, fun i c hstart hc => ?_, pascalCase_pascalCase s⟩
    · cases hpascal.eq_underscore hhyphen rfl
    · rw [Bool.eq_false_iff]
      intro hblank
      obtain rfl := hpascal.eq_underscore hc (by simp [isSeparator, hblank])
      cases hblank
    · rw [pascalCase, String.toList_ofList]
      exact count_underscore_pascalChars true s.toList
    · exact IsPascal.upper_eq (p := '_') hpascal (startsWord_iff.1 hstart) hc
  · have hlower : (pascalCase n).toList.map Char.toLower = n.toList.map Char.toLower := by
      rw [pascalCase, String.toList_ofList]
      exact map_toLower_pascalChars (fun c hc => isNameChar_of_mem hn hc) true
    refine ⟨isName_pascalCase hn, ?_, hlower⟩
    have hlength := congrArg List.length hlower
    rwa [List.length_map, List.length_map, String.length_toList, String.length_toList] at hlength

/-- A text with blanks and a letter whose upper-case form has two characters, and a name. -/
theorem pascalCase_laws_of_strasse :
    isName "get_userName" = true ∧ isName (pascalCase "get_userName") = true ∧
      pascalCase (pascalCase "ßtraße-2 _b") = pascalCase "ßtraße-2 _b" :=
  have hname : isName "get_userName" = true := by decide
  ⟨hname, (pascalCase_laws.2 _ hname).1, (pascalCase_laws.1 "ßtraße-2 _b").2.2.2.2⟩

end TypedClient
