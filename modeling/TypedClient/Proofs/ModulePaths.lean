import TypedClient.Proofs.ImportedTypes
import TypedClient.Text

/-!
# Paths in import statements

A path is written into an import statement as it is, between double quotes. Here the literal is read
by the rules of the language: the value of a literal is a list of UTF-16 code units, a backslash
starts an escape, and no line may end in a literal, unless a backslash stands before the line end.

An escape always has more code units than what it stands for. So a literal is read as the text
between its quotes exactly if that text has no quote, no backslash and no line end, and valid
settings only rule out the quote.
-/

namespace TypedClient.Text.Quoted

/-! ## Code units -/

/-- The UTF-16 code units of a code point. -/
def units (n : Nat) : List Nat :=
  if n < 0x10000 then [n]
  else [0xD800 + (n - 0x10000) / 0x400, 0xDC00 + (n - 0x10000) % 0x400]

def utf16 (cs : List Char) : List Nat :=
  cs.flatMap fun c => units c.toNat

theorem length_units_pos (n : Nat) : 0 < (units n).length := by
  unfold units
  split <;> simp

theorem length_units_le (n : Nat) : (units n).length ≤ 2 := by
  unfold units
  split <;> simp

@[simp] theorem utf16_nil : utf16 [] = [] :=
  rfl

@[simp] theorem utf16_cons (c : Char) (cs : List Char) :
    utf16 (c :: cs) = units c.toNat ++ utf16 cs :=
  rfl

@[simp] theorem utf16_append (cs ds : List Char) : utf16 (cs ++ ds) = utf16 cs ++ utf16 ds :=
  List.flatMap_append

theorem length_le_length_utf16 (cs : List Char) : cs.length ≤ (utf16 cs).length := by
  induction cs with
  | nil => simp
  | cons c cs ih =>
    have := length_units_pos c.toNat
    simp only [utf16_cons, List.length_append, List.length_cons]
    omega

/-! ## Escapes -/

def endsLine (c : Char) : Bool :=
  c == '\n' || c == '\r' || c == '\u2028' || c == '\u2029'

/-- The code unit of a letter that stands for a control character. -/
def control? : Char → Option Nat
  | 'b' => some 0x8
  | 't' => some 0x9
  | 'n' => some 0xA
  | 'v' => some 0xB
  | 'f' => some 0xC
  | 'r' => some 0xD
  | _ => none

/-- The code units of a character behind a backslash. -/
def escapedUnits (c : Char) : List Nat :=
  match control? c with
  | some n => [n]
  | none => units c.toNat

/-- A code unit in a fixed number of hexadecimal digits. -/
def hexEscape? (count : Nat) (cs : List Char) : Option (List Nat × List Char) :=
  if cs.length < count then none
  else (hexValue? (cs.take count)).map fun n => ([n], cs.drop count)

/-- A code point in hexadecimal digits, with a closing brace behind them. -/
def bracedEscape? (cs : List Char) : Option (List Nat × List Char) :=
  match cs.takeWhile (· != '\x7d'), cs.dropWhile (· != '\x7d') with
  | d :: digits, _ :: rest => do
    let n ← hexValue? (d :: digits)
    if n ≤ 0x10FFFF then some (units n, rest) else none
  | _, _ => none

/-- What the text behind a backslash starts with stands for, and what comes behind that. A line end
stands for nothing, and of the digits there is only zero, with no digit behind it. -/
def escape? : List Char → Option (List Nat × List Char)
  | [] => none
  | 'x' :: cs => hexEscape? 2 cs
  | 'u' :: '\x7b' :: cs => bracedEscape? cs
  | 'u' :: cs => hexEscape? 4 cs
  | '\r' :: '\n' :: cs => some ([], cs)
  | c :: cs =>
    if endsLine c then some ([], cs)
    else if c.isDigit then
      if c = '0' ∧ ¬ cs.head?.any Char.isDigit then some ([0], cs) else none
    else some (escapedUnits c, cs)

theorem length_escapedUnits_le (c : Char) : (escapedUnits c).length ≤ (units c.toNat).length := by
  unfold escapedUnits
  cases control? c with
  | some n => exact length_units_pos c.toNat
  | none => exact Nat.le_refl _

variable {cs rest : List Char} {us : List Nat}

theorem of_hexEscape? {count : Nat} (h : hexEscape? count cs = some (us, rest)) :
    ∃ digits, cs = digits ++ rest ∧ us.length = 1 := by
  unfold hexEscape? at h
  split at h
  · cases h
  · obtain ⟨n, -, hn⟩ := Option.map_eq_some_iff.1 h
    obtain ⟨rfl, rfl⟩ := Prod.mk.inj hn
    exact ⟨cs.take count, (List.take_append_drop count cs).symm, rfl⟩

theorem of_bracedEscape? (h : bracedEscape? cs = some (us, rest)) :
    ∃ digits, cs = digits ++ rest ∧ us.length ≤ 2 := by
  unfold bracedEscape? at h
  split at h
  · rename_i d digits brace behind hdigits hbehind
    obtain ⟨n, -, hn⟩ := Option.bind_eq_some_iff.1 h
    split at hn
    · obtain ⟨rfl, rfl⟩ := Prod.mk.inj (Option.some.inj hn)
      refine ⟨d :: digits ++ [brace], ?_, length_units_le n⟩
      rw [← hdigits, List.append_assoc, List.singleton_append, ← hbehind,
        List.takeWhile_append_dropWhile]
    · cases hn
  · cases h

/-- An escape is not empty, and it is at least as long as what it stands for, the backslash not
counted. -/
theorem of_escape? (h : escape? cs = some (us, rest)) :
    ∃ c text, cs = c :: text ++ rest ∧ us.length ≤ (utf16 (c :: text)).length := by
  revert h
  fun_cases escape? cs with
  | case1 => nofun
  | case2 cs | case4 cs =>
    intro h
    obtain ⟨digits, rfl, hlength⟩ := of_hexEscape? h
    refine ⟨_, digits, rfl, Nat.le_trans ?_ (length_le_length_utf16 _)⟩
    simp [hlength]
  | case3 cs =>
    intro h
    obtain ⟨digits, rfl, hlength⟩ := of_bracedEscape? h
    refine ⟨_, '\x7b' :: digits, rfl, Nat.le_trans ?_ (length_le_length_utf16 _)⟩
    simp only [List.length_cons]
    omega
  | case5 cs =>
    intro h
    cases h
    exact ⟨_, ['\n'], rfl, Nat.zero_le _⟩
  | case6 c cs =>
    intro h
    cases h
    exact ⟨c, [], rfl, Nat.zero_le _⟩
  | case7 c cs =>
    intro h
    cases h
    exact ⟨c, [], rfl, length_le_length_utf16 [c]⟩
  | case8 => nofun
  | case9 c cs =>
    intro h
    cases h
    refine ⟨c, [], rfl, ?_⟩
    simpa using length_escapedUnits_le c

theorem length_of_escape? (h : escape? cs = some (us, rest)) : rest.length < cs.length := by
  obtain ⟨c, text, rfl, -⟩ := of_escape? h
  simp only [List.length_append, List.length_cons]
  omega

/-! ## Literals -/

/-- Puts code units before what was read. -/
def startWith (us : List Nat) : List Nat × List Char → List Nat × List Char
  | (value, rest) => (us ++ value, rest)

/-- Reads a literal from behind its opening quote: its value, and what stands behind the quote that
closes it. -/
def read : List Char → Option (List Nat × List Char)
  | [] => none
  | c :: cs =>
    if c = '"' then some ([], cs)
    else if c = '\\' then
      match h : escape? cs with
      | some (us, rest) =>
        have := length_of_escape? h
        (read rest).map (startWith us)
      | none => none
    else if c = '\n' ∨ c = '\r' then none
    else (read cs).map (startWith (units c.toNat))
termination_by cs => cs.length
decreasing_by
  · exact Nat.lt_succ_of_lt this
  · exact Nat.lt_succ_self _

/-- Whether a character stands for itself in a literal. -/
def isPlain (c : Char) : Bool :=
  c != '"' && c != '\\' && c != '\n' && c != '\r'

theorem isPlain_iff {c : Char} :
    isPlain c = true ↔ c ≠ '"' ∧ c ≠ '\\' ∧ c ≠ '\n' ∧ c ≠ '\r' := by
  simp [isPlain, and_assoc]

theorem read_plain {text : List Char} (h : ∀ c ∈ text, isPlain c = true) (rest : List Char) :
    read (text ++ '"' :: rest) = some (utf16 text, rest) := by
  induction text with
  | nil =>
    rw [List.nil_append, read, if_pos rfl]
    rfl
  | cons c text ih =>
    obtain ⟨hc, htext⟩ := List.forall_mem_cons.1 h
    obtain ⟨hquote, hslash, hfeed, hreturn⟩ := isPlain_iff.1 hc
    rw [List.cons_append, read, if_neg hquote, if_neg hslash, if_neg (by simp [hfeed, hreturn]),
      ih htext]
    rfl

/-- A literal is as long as its value if it has no escapes, and longer than its value if it has
some. -/
theorem of_read {value : List Nat} (h : read cs = some (value, rest)) :
    ∃ text, cs = text ++ '"' :: rest ∧
      ((∀ c ∈ text, isPlain c = true) ∨ value.length < (utf16 text).length) ∧
      value.length ≤ (utf16 text).length := by
  fun_induction read cs generalizing value with
  | case1 => cases h
  | case2 cs =>
    cases h
    exact ⟨[], rfl, .inl (by simp), Nat.zero_le _⟩
  | case3 cs us behind hescape _ _ ih =>
    obtain ⟨⟨value, rest⟩, hread, hvalue⟩ := Option.map_eq_some_iff.1 h
    cases hvalue
    obtain ⟨text, rfl, -, hle⟩ := ih hread
    obtain ⟨c, escape, rfl, hshort⟩ := of_escape? hescape
    have hlonger : (us ++ value).length < (utf16 ('\\' :: c :: escape ++ text)).length := by
      have := length_units_pos '\\'.toNat
      simp only [List.cons_append, utf16_cons, utf16_append, List.length_append] at hshort ⊢
      omega
    exact ⟨'\\' :: c :: escape ++ text, by simp, .inr hlonger, Nat.le_of_lt hlonger⟩
  | case4 => cases h
  | case5 => cases h
  | case6 c cs hquote hslash hend ih =>
    obtain ⟨⟨value, rest⟩, hread, hvalue⟩ := Option.map_eq_some_iff.1 h
    cases hvalue
    obtain ⟨text, rfl, hcases, hle⟩ := ih hread
    have hc : isPlain c = true := by
      rw [not_or] at hend
      exact isPlain_iff.2 ⟨hquote, hslash, hend⟩
    refine ⟨c :: text, rfl, ?_, ?_⟩
    · refine hcases.imp (fun htext => List.forall_mem_cons.2 ⟨hc, htext⟩) fun hlt => ?_
      simpa using hlt
    · simpa using hle

/-- A literal is read as what stands between its quotes, and ends where it was closed, exactly if
all of that stands for itself. -/
theorem read_eq_iff {text rest : List Char} :
    read (text ++ '"' :: rest) = some (utf16 text, rest) ↔ ∀ c ∈ text, isPlain c = true := by
  constructor
  · intro h
    obtain ⟨text', htext, hcases, -⟩ := of_read h
    obtain rfl := List.append_cancel_right htext
    exact hcases.resolve_right (Nat.lt_irrefl _)
  · intro h
    exact read_plain h rest

end TypedClient.Text.Quoted

namespace TypedClient

open Text

/-! ## Specifiers -/

/-- Behind an opening quote, the path and a closing quote are read as the path, and `behind` is what
stands behind the literal. -/
def ReadsAsPath (path behind : String) : Prop :=
  Quoted.read (path ++ "\"" ++ behind).toList = some (Quoted.utf16 path.toList, behind.toList)

theorem readsAsPath_iff {path behind : String} :
    ReadsAsPath path behind ↔ ∀ c ∈ path.toList, Quoted.isPlain c = true := by
  unfold ReadsAsPath
  rw [String.toList_append, String.toList_append, List.append_assoc]
  exact Quoted.read_eq_iff

/-- Valid settings have no quotes in their paths. -/
theorem Settings.not_mem_of_validate {s : Settings} (h : s.validate = .ok ()) :
    '"' ∉ s.runtimeModule.toList ∧ '"' ∉ s.typesPath.toList := by
  unfold validate at h
  split at h
  · cases h
  split at h
  · cases h
  split at h
  · cases h
  · rename_i hquotes
    simpa [and_comm] using hquotes

/-- Without quotes, three characters are left that do not stand for themselves. -/
theorem readsAsPath_iff_of_not_mem {path behind : String} (h : '"' ∉ path.toList) :
    ReadsAsPath path behind ↔ ∀ c ∈ path.toList, c ≠ '\\' ∧ c ≠ '\n' ∧ c ≠ '\r' := by
  rw [readsAsPath_iff]
  refine forall₂_congr fun c hc => ?_
  rw [Quoted.isPlain_iff, and_iff_right (ne_of_mem_of_not_mem hc h)]

namespace ClientModule

theorem closingQuote_eq : "\"\n" = "\"" ++ "\n" :=
  rfl

/-- The first path of the imports, and what stands behind its closing quote. -/
theorem importsBlock_eq_runtime (m : ClientModule) :
    ∃ types, ImportStatement m.typesPath m.typeImports types ∧
      m.importsBlock = "/* eslint-disable */\n" ++
        "import \x7b Api, ApiOptions, GraphQLResponse, gql, trimInput \x7d from \"" ++
        m.runtimeModule ++ "\"" ++ ("\n" ++ types) := by
  obtain ⟨types, hstatement, hblock⟩ := m.importsBlock_eq
  refine ⟨types, hstatement, ?_⟩
  rw [hblock]
  unfold runtimeImport
  rw [closingQuote_eq]
  simp only [String.append_assoc]

/-- The second path of the imports; only a line end stands behind its closing quote. -/
theorem importsBlock_eq_types {m : ClientModule} (h : m.typeImports ≠ []) :
    ∃ before, m.importsBlock = before ++ "\x7d from \"" ++ m.typesPath ++ "\"" ++ "\n" := by
  obtain ⟨types, hstatement, hblock⟩ := m.importsBlock_eq
  rw [hblock]
  generalize m.typeImports = names at h hstatement
  cases hstatement with
  | none => exact absurd rfl h
  | @names _ lines _ =>
    refine ⟨m.runtimeImport ++ ("import \x7b\n" ++ lines), ?_⟩
    rw [closingQuote_eq]
    simp only [String.append_assoc]

end ClientModule

/-- How the paths in a block of imports are read: each of them stands in quotes, and is read as it
is and up to the quote behind it exactly if it has no backslash and no line end. -/
structure SpecifierLaws (s : Settings) (names : List String) (block : String) : Prop where
  runtime : ∃ types, ImportStatement s.typesPath names types ∧
    block = "/* eslint-disable */\n" ++
      "import \x7b Api, ApiOptions, GraphQLResponse, gql, trimInput \x7d from \"" ++
      s.runtimeModule ++ "\"" ++ ("\n" ++ types) ∧
    (ReadsAsPath s.runtimeModule ("\n" ++ types) ↔
      ∀ c ∈ s.runtimeModule.toList, c ≠ '\\' ∧ c ≠ '\n' ∧ c ≠ '\r')
  types : names ≠ [] → ∃ before, block = before ++ "\x7d from \"" ++ s.typesPath ++ "\"" ++ "\n" ∧
    (ReadsAsPath s.typesPath "\n" ↔
      ∀ c ∈ s.typesPath.toList, c ≠ '\\' ∧ c ≠ '\n' ∧ c ≠ '\r')

theorem specifiers_read_as_paths_iff (s : Settings) (h : s.validate = .ok ()) (names : List String)
    (inputShapes : InputShapeMap) (entries : List ModuleEntry) :
    SpecifierLaws s names (ClientModule.importsBlock
      ⟨s.runtimeModule, s.typesPath, names, inputShapes, entries⟩) := by
  obtain ⟨hruntime, htypes⟩ := Settings.not_mem_of_validate h
  refine ⟨?_, fun hnames => ?_⟩
  · obtain ⟨types, hstatement, hblock⟩ := ClientModule.importsBlock_eq_runtime
      ⟨s.runtimeModule, s.typesPath, names, inputShapes, entries⟩
    exact ⟨types, hstatement, hblock, readsAsPath_iff_of_not_mem hruntime⟩
  · obtain ⟨before, hblock⟩ := @ClientModule.importsBlock_eq_types
      ⟨s.runtimeModule, s.typesPath, names, inputShapes, entries⟩ hnames
    exact ⟨before, hblock, readsAsPath_iff_of_not_mem htypes⟩

/-- Paths of packages and folders are read as they are. -/
theorem specifiers_read_as_paths_iff_of_defaults :
    (∃ behind, ClientModule.importsBlock ⟨"graphqlex", "./graphql-types", ["User"], .ofList [], []⟩ =
        "/* eslint-disable */\n" ++
          "import \x7b Api, ApiOptions, GraphQLResponse, gql, trimInput \x7d from \"" ++
          "graphqlex" ++ "\"" ++ behind ∧ ReadsAsPath "graphqlex" behind) ∧
      ReadsAsPath "./graphql-types" "\n" := by
  have laws := specifiers_read_as_paths_iff {} rfl ["User"] (.ofList []) []
  obtain ⟨types, -, hblock, hruntime⟩ := laws.runtime
  obtain ⟨-, -, htypes⟩ := laws.types (by simp)
  exact ⟨⟨_, hblock, hruntime.2 (by simp)⟩, htypes.2 (by simp)⟩

/-- Valid settings whose path is read as another one, and others whose path is no literal. -/
theorem valid_path_misread :
    Settings.validate { typesPath := ".\\types" } = .ok () ∧
      ClientModule.importsBlock ⟨"graphqlex", ".\\types", ["User"], .ofList [], []⟩ =
        "/* eslint-disable */\n" ++
          "import \x7b Api, ApiOptions, GraphQLResponse, gql, trimInput \x7d from \"graphqlex\"\n" ++
          "import \x7b\n  User\n\x7d from \".\\types\"\n" ∧
      Quoted.read ".\\types\"\n".toList = some (Quoted.utf16 ".\types".toList, "\n".toList) ∧
      ¬ ReadsAsPath ".\\types" "\n" ∧
      Settings.validate { typesPath := "types\\" } = .ok () ∧
      Quoted.read "types\\\"\n".toList = none ∧
      Settings.validate { typesPath := "types\n" } = .ok () ∧
      Quoted.read "types\n\"\n".toList = none := by
  refine ⟨rfl, rfl, ?_, ?_, rfl, ?_, rfl, ?_⟩
  · cbv
  · rw [readsAsPath_iff]
    simp [Quoted.isPlain]
  · cbv
  · cbv

end TypedClient
