import TypedClient.Graphql.Lexer
import TypedClient.Naming

/-!
# Names

GraphQL names, and the names of the module that are made from them.
-/

namespace TypedClient

open Token (isNameStart isNameChar)

/-- Letters, digits and underscores, the first of them not a digit. -/
def isName (s : String) : Bool :=
  match s.toList with
  | [] => false
  | c :: cs => isNameStart c && cs.all isNameChar

theorem isNameStart_iff {c : Char} :
    isNameStart c = true ↔ c.toNat = 0x5F ∨ (0x41 ≤ c.toNat ∧ c.toNat ≤ 0x5A) ∨
      (0x61 ≤ c.toNat ∧ c.toNat ≤ 0x7A) := by
  have hunderscore : c = '_' ↔ c.toNat = 0x5F := by
    rw [← Char.toNat_inj]
    rfl
  delta isNameStart Char.isAlpha Char.isUpper Char.isLower
  simp only [Bool.or_eq_true, Bool.and_eq_true, beq_iff_eq, decide_eq_true_eq, ge_iff_le,
    UInt32.le_iff_toNat_le, hunderscore]
  rfl

theorem isNameChar_iff {c : Char} :
    isNameChar c = true ↔ c.toNat = 0x5F ∨ (0x41 ≤ c.toNat ∧ c.toNat ≤ 0x5A) ∨
      (0x61 ≤ c.toNat ∧ c.toNat ≤ 0x7A) ∨ (0x30 ≤ c.toNat ∧ c.toNat ≤ 0x39) := by
  have hunderscore : c = '_' ↔ c.toNat = 0x5F := by
    rw [← Char.toNat_inj]
    rfl
  delta isNameChar Char.isAlphanum Char.isAlpha Char.isUpper Char.isLower Char.isDigit
  simp only [Bool.or_eq_true, Bool.and_eq_true, beq_iff_eq, decide_eq_true_eq, ge_iff_le,
    UInt32.le_iff_toNat_le, hunderscore, or_assoc]
  rfl

theorem isNameChar_of_isNameStart {c : Char} (h : isNameStart c = true) : isNameChar c = true := by
  unfold isNameStart at h
  unfold isNameChar Char.isAlphanum
  rcases Bool.or_eq_true _ _ ▸ h with h | h <;> simp [h]

theorem isNameChar_of_mem {s : String} (h : isName s = true) {c : Char} (hc : c ∈ s.toList) :
    isNameChar c = true := by
  unfold isName at h
  split at h
  · cases h
  · rename_i d ds hs
    obtain ⟨hstart, hrest⟩ := Bool.and_eq_true _ _ ▸ h
    rw [hs] at hc
    rcases List.mem_cons.1 hc with rfl | hc
    · exact isNameChar_of_isNameStart hstart
    · exact List.all_eq_true.1 hrest c hc

theorem not_mem_of_isName {s : String} (h : isName s = true) {c : Char}
    (hc : isNameChar c = false) : c ∉ s.toList := by
  intro hmem
  rw [isNameChar_of_mem h hmem] at hc
  cases hc

theorem isName_append {s suffix : String} (h : isName s = true)
    (hsuffix : suffix.toList.all isNameChar = true) : isName (s ++ suffix) = true := by
  unfold isName at h ⊢
  cases hs : s.toList with
  | nil =>
    rw [hs] at h
    cases h
  | cons c cs =>
    rw [hs] at h
    obtain ⟨hstart, hrest⟩ := Bool.and_eq_true _ _ ▸ h
    rw [String.toList_append, hs, List.cons_append]
    simp [hstart, hrest, hsuffix]

/-! ## Upper-casing -/

namespace Text

/-- Only the first run of the table is about ASCII characters. -/
theorem find?_runs_of_ascii {n : Nat} (h : n < 0x80) :
    Uppercase.runs.find? (·.contains n) =
      if 0x61 ≤ n ∧ n ≤ 0x7A then some ⟨0x61, 0x7A, 1, 0x41⟩ else none := by
  -- The other runs start beyond ASCII, so none of them can contain `n`.
  have hfirst : ∀ r ∈ Uppercase.runs.tail, 0x80 ≤ r.first := by decide +kernel
  have htail : Uppercase.runs.tail.find? (·.contains n) = none := by
    rw [List.find?_eq_none]
    intro r hr hcontains
    have := hfirst r hr
    simp only [CharRun.contains, Bool.and_eq_true, decide_eq_true_eq] at hcontains
    omega
  have hruns : Uppercase.runs = ⟨0x61, 0x7A, 1, 0x41⟩ :: Uppercase.runs.tail := rfl
  rw [hruns, List.find?_cons, htail]
  by_cases hlower : 0x61 ≤ n ∧ n ≤ 0x7A
  · simp [CharRun.contains, hlower, Nat.mod_one]
  · have hnot : CharRun.contains ⟨0x61, 0x7A, 1, 0x41⟩ n = false := by
      simp only [CharRun.contains, Nat.mod_one]
      simpa using fun h => Nat.lt_of_not_le fun h' => hlower ⟨h, h'⟩
    rw [hnot, if_neg hlower]

theorem lookup_expansions_of_ascii {n : Nat} (h : n < 0x80) :
    Uppercase.expansions.lookup n = none := by
  have hkeys : ∀ e ∈ Uppercase.expansions, 0x80 ≤ e.1 := by decide +kernel
  rw [List.lookup_eq_none_iff]
  intro e he
  have := hkeys e he
  simp
  omega

/-- An ASCII letter has its upper-case form, and other ASCII characters stand for themselves. -/
theorem upper_of_ascii {c : Char} (h : c.toNat < 0x80) :
    upper c = [if 0x61 ≤ c.toNat ∧ c.toNat ≤ 0x7A then Char.ofNat (c.toNat - 0x20) else c] := by
  unfold upper CharRun.image?
  rw [find?_runs_of_ascii h, lookup_expansions_of_ascii h]
  by_cases hlower : 0x61 ≤ c.toNat ∧ c.toNat ≤ 0x7A
  · have hdistance : c.toNat - 0x61 + 0x41 = c.toNat - 0x20 := by omega
    simp only [if_pos hlower, Option.map_some, hdistance]
  · simp only [if_neg hlower, Option.map_none]

end Text

/-! ## Upper and lower case -/

theorem toNat_toLower (c : Char) :
    c.toLower.toNat =
      if 0x41 ≤ c.toNat ∧ c.toNat ≤ 0x5A then c.toNat + 0x20 else c.toNat := by
  have hcapital : c.val ≥ 'A'.val ∧ c.val ≤ 'Z'.val ↔ 0x41 ≤ c.toNat ∧ c.toNat ≤ 0x5A := by
    rw [ge_iff_le, UInt32.le_iff_toNat_le, UInt32.le_iff_toNat_le]
    rfl
  unfold Char.toLower
  by_cases h : 0x41 ≤ c.toNat ∧ c.toNat ≤ 0x5A
  · have hbound : c.toNat + 0x20 < 2 ^ 32 := by omega
    rw [dif_pos (hcapital.2 h), if_pos h]
    show (c.val + 0x20).toNat = _
    rw [UInt32.toNat_add]
    exact Nat.mod_eq_of_lt hbound
  · rw [dif_neg (mt hcapital.1 h), if_neg h]

theorem toNat_toUpper (c : Char) :
    c.toUpper.toNat =
      if 0x61 ≤ c.toNat ∧ c.toNat ≤ 0x7A then c.toNat - 0x20 else c.toNat := by
  have hlower : c.val ≥ 'a'.val ∧ c.val ≤ 'z'.val ↔ 0x61 ≤ c.toNat ∧ c.toNat ≤ 0x7A := by
    rw [ge_iff_le, UInt32.le_iff_toNat_le, UInt32.le_iff_toNat_le]
    rfl
  unfold Char.toUpper
  by_cases h : 0x61 ≤ c.toNat ∧ c.toNat ≤ 0x7A
  · rw [dif_pos (hlower.2 h), if_pos h]
    show (c.val + ('A'.val - 'a'.val)).toNat = _
    have hnat : c.val.toNat = c.toNat := rfl
    have hdistance : ('A'.val - 'a'.val).toNat = 2 ^ 32 - 0x20 := rfl
    rw [UInt32.toNat_add, hdistance, hnat]
    omega
  · rw [dif_neg (mt hlower.1 h), if_neg h]

/-- Letters in two cases have the same upper-case form and the same lower-case form. -/
theorem toUpper_eq_iff {c d : Char} : c.toUpper = d.toUpper ↔ c.toLower = d.toLower := by
  rw [← Char.toNat_inj, ← Char.toNat_inj, toNat_toUpper, toNat_toUpper, toNat_toLower,
    toNat_toLower]
  grind

theorem toLower_toUpper (c : Char) : c.toUpper.toLower = c.toLower := by
  rw [← Char.toNat_inj, toNat_toLower, toNat_toLower, toNat_toUpper]
  grind

theorem upper_eq_toUpper {c : Char} (h : isNameChar c = true) : Text.upper c = [c.toUpper] := by
  rw [isNameChar_iff] at h
  rw [Text.upper_of_ascii (by omega), List.singleton_inj, ← Char.toNat_inj, toNat_toUpper]
  by_cases hlower : 0x61 ≤ c.toNat ∧ c.toNat ≤ 0x7A
  · have hvalid : (c.toNat - 0x20).isValidChar := Or.inl (by omega)
    rw [if_pos hlower, if_pos hlower, Char.ofNat, dif_pos hvalid]
    rfl
  · rw [if_neg hlower, if_neg hlower]

theorem toUpper_eq_underscore_iff {c : Char} : c.toUpper = '_' ↔ c = '_' := by
  rw [← Char.toNat_inj, toNat_toUpper, ← Char.toNat_inj]
  show _ = 0x5F ↔ _ = 0x5F
  grind

theorem isBlank_of_isNameChar {c : Char} (h : isNameChar c = true) : Text.isBlank c = false := by
  rw [isNameChar_iff] at h
  rw [Bool.eq_false_iff]
  intro hblank
  simp only [Text.isBlank, Bool.or_eq_true, Bool.and_eq_true, decide_eq_true_eq, beq_iff_eq]
    at hblank
  omega

theorem ne_hyphen_of_isNameChar {c : Char} (h : isNameChar c = true) : c ≠ '-' := by
  rintro rfl
  cases h

/-- In a name every character stays, with a capital where `start` holds. An underscore has no
capital, so it needs no case of its own. -/
theorem pascalChars_cons {c : Char} (h : isNameChar c = true) (start : Bool) (cs : List Char) :
    pascalChars start (c :: cs) =
      (if start then c.toUpper else c) :: pascalChars (c == '_') cs := by
  rw [pascalChars]
  by_cases hunderscore : c = '_'
  · subst hunderscore
    rw [if_pos rfl]
    cases start <;> rfl
  · have hkept : ¬ (c = '-' || Text.isBlank c) = true := by
      simp [ne_hyphen_of_isNameChar h, isBlank_of_isNameChar h]
    have hinside : (c == '_') = false := by simpa using hunderscore
    rw [if_neg hunderscore, if_neg hkept, hinside, upper_eq_toUpper h]
    cases start <;> rfl

/-- Only the case of letters changes in a name. -/
theorem map_toLower_pascalChars {cs : List Char} (h : ∀ c ∈ cs, isNameChar c = true)
    (start : Bool) : (pascalChars start cs).map Char.toLower = cs.map Char.toLower := by
  induction cs generalizing start with
  | nil => rfl
  | cons c cs ih =>
    obtain ⟨hc, hcs⟩ := List.forall_mem_cons.1 h
    rw [pascalChars_cons hc, List.map_cons, List.map_cons, ih hcs]
    cases start with
    | true => rw [if_pos rfl, toLower_toUpper]
    | false => rfl

theorem isNameChar_toUpper {c : Char} (h : isNameChar c = true) : isNameChar c.toUpper = true := by
  rw [isNameChar_iff] at h ⊢
  rw [toNat_toUpper]
  split <;> omega

theorem isNameChar_of_mem_pascalChars {cs : List Char} (h : ∀ c ∈ cs, isNameChar c = true)
    {u : Char} (start : Bool) (hu : u ∈ pascalChars start cs) : isNameChar u = true := by
  induction cs generalizing start with
  | nil => cases hu
  | cons c cs ih =>
    obtain ⟨hc, hcs⟩ := List.forall_mem_cons.1 h
    rw [pascalChars_cons hc, List.mem_cons] at hu
    rcases hu with rfl | hu
    · split
      · exact isNameChar_toUpper hc
      · exact hc
    · exact ih hcs _ hu

theorem isNameStart_toUpper {c : Char} (h : isNameStart c = true) :
    isNameStart c.toUpper = true := by
  rw [isNameStart_iff] at h ⊢
  rw [toNat_toUpper]
  split <;> omega

/-- A name stays a name. -/
theorem isName_pascalCase {n : String} (h : isName n = true) : isName (pascalCase n) = true := by
  have hchars : ∀ c ∈ n.toList, isNameChar c = true := fun c hc => isNameChar_of_mem h hc
  unfold isName at h
  unfold isName pascalCase
  rw [String.toList_ofList]
  cases hn : n.toList with
  | nil =>
    rw [hn] at h
    cases h
  | cons c cs =>
    rw [hn] at h hchars
    obtain ⟨hc, hcs⟩ := List.forall_mem_cons.1 hchars
    obtain ⟨hstart, -⟩ := Bool.and_eq_true _ _ ▸ h
    rw [pascalChars_cons hc, if_pos rfl]
    dsimp only
    rw [isNameStart_toUpper hstart, Bool.true_and, List.all_eq_true]
    exact fun u hu => isNameChar_of_mem_pascalChars hcs _ hu

/-- The constant of a fragment has a name as well. -/
theorem isName_fragmentDocName {n : String} (h : isName n = true) :
    isName (fragmentDocName n) = true :=
  isName_append (isName_pascalCase h) (by decide)

theorem isName_functionName {n : String} (h : isName n = true) (kind : OperationKind) :
    isName (functionName n kind) = true :=
  isName_append h (by cases kind <;> decide)

/-! ## Initials -/

theorem pascalChars_eq_iff {p : Char} {cs ds : List Char} (hcs : ∀ c ∈ cs, isNameChar c = true)
    (hds : ∀ d ∈ ds, isNameChar d = true) :
    pascalChars (p == '_') cs = pascalChars (p == '_') ds ↔
      cs.length = ds.length ∧ ∀ (i : Nat) (c d : Char), cs[i]? = some c → ds[i]? = some d →
        c = d ∨ ((p :: cs)[i]? = some '_' ∧ c.toLower = d.toLower) := by
  induction cs generalizing p ds with
  | nil =>
    cases ds with
    | nil => simp
    | cons d ds =>
      rw [pascalChars_cons (hds d List.mem_cons_self)]
      simp [pascalChars]
  | cons c cs ih =>
    cases ds with
    | nil =>
      rw [pascalChars_cons (hcs c List.mem_cons_self)]
      simp [pascalChars]
    | cons d ds =>
      obtain ⟨hc, hcs⟩ := List.forall_mem_cons.1 hcs
      obtain ⟨hd, hds⟩ := List.forall_mem_cons.1 hds
      have hhead : (if p == '_' then c.toUpper else c) = (if p == '_' then d.toUpper else d) ↔
          c = d ∨ (p = '_' ∧ c.toLower = d.toLower) := by
        by_cases hp : p = '_'
        · simp only [hp, beq_self_eq_true, if_true, true_and, toUpper_eq_iff]
          exact ⟨.inr, fun h => h.elim (fun h => h ▸ rfl) id⟩
        · simp [hp]
      have hunderscore (h : c = d ∨ (p = '_' ∧ c.toLower = d.toLower)) :
          (c == '_') = (d == '_') := by
        rcases h with rfl | ⟨-, h⟩
        · rfl
        · rw [← toUpper_eq_iff] at h
          rw [Bool.eq_iff_iff, beq_iff_eq, beq_iff_eq, ← toUpper_eq_underscore_iff, h,
            toUpper_eq_underscore_iff]
      rw [pascalChars_cons hc, pascalChars_cons hd, List.cons.injEq, hhead]
      constructor
      · rintro ⟨h, hrest⟩
        rw [← hunderscore h] at hrest
        obtain ⟨hlength, hall⟩ := (ih hcs hds).1 hrest
        refine ⟨congrArg (· + 1) hlength, fun i x y hx hy => ?_⟩
        cases i with
        | zero =>
          obtain rfl := Option.some.inj hx
          obtain rfl := Option.some.inj hy
          simpa using h
        | succ i => exact hall i x y hx hy
      · rintro ⟨hlength, hall⟩
        have h : c = d ∨ (p = '_' ∧ c.toLower = d.toLower) := by simpa using hall 0 c d rfl rfl
        refine ⟨h, ?_⟩
        rw [← hunderscore h]
        refine (ih hcs hds).2 ⟨Nat.succ.inj hlength, fun i x y hx hy => ?_⟩
        exact hall (i + 1) x y hx hy

/-- A word starts at the first position and right behind an underscore. -/
def StartsWord (cs : List Char) : Nat → Prop
  | 0 => True
  | i + 1 => cs[i]? = some '_'

/-- Names of one length that agree at every position, but for the case of letters that start
words. -/
structure SameButInitials (a b : String) : Prop where
  length : a.length = b.length
  chars : ∀ (i : Nat) (c d : Char), a.toList[i]? = some c → b.toList[i]? = some d →
    c = d ∨ (StartsWord a.toList i ∧ c.toLower = d.toLower)

theorem startsWord_iff {cs : List Char} {i : Nat} :
    StartsWord cs i ↔ ('_' :: cs)[i]? = some '_' := by
  cases i with
  | zero => simp [StartsWord]
  | succ i => rfl

/-- Capitals at the starts of words are all that the names made from two names do not tell. -/
theorem pascalCase_eq_iff {a b : String} (ha : isName a = true) (hb : isName b = true) :
    pascalCase a = pascalCase b ↔ SameButInitials a b := by
  have hchars := pascalChars_eq_iff (p := '_') (fun c hc => isNameChar_of_mem ha hc)
    fun d hd => isNameChar_of_mem hb hd
  unfold pascalCase
  rw [String.ofList_inj, show true = ('_' == '_') from rfl, hchars, String.length_toList,
    String.length_toList]
  simp only [← startsWord_iff]
  exact ⟨fun ⟨hlength, hall⟩ => ⟨hlength, hall⟩, fun ⟨hlength, hall⟩ => ⟨hlength, hall⟩⟩

end TypedClient
