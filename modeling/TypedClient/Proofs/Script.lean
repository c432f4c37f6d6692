import TypedClient.Proofs.Names

/-!
# Scripts

A small part of the language that modules are written in: assignments under conditions, such as the
functions of operations start with, and the expressions in them. A text is read into lexemes, and
the lexemes into statements, which run on data.

What is not part of it has no meaning here: a text that cannot be read gives no statements, and a
statement that would throw gives no result.
-/

namespace TypedClient.Script

open Token (isNameChar)

/-! ## Lexemes -/

inductive Lexeme where
  | name (n : String)
  | keyword (word : String)
  | text (s : String)
  | dot
  | comma
  | openRound
  | closeRound
  | openCurly
  | closeCurly
  | assign
  | notEqual
  | arrow
  | unknown (cs : List Char)

/-- The words that no parameter of a function can be called by. -/
def reservedWords : List String :=
  ["arguments", "await", "break", "case", "catch", "class", "const", "continue", "debugger",
    "default", "delete", "do", "else", "enum", "eval", "export", "extends", "false", "finally",
    "for", "function", "if", "implements", "import", "in", "instanceof", "interface", "let", "new",
    "null", "package", "private", "protected", "public", "return", "static", "super", "switch",
    "this", "throw", "true", "try", "typeof", "var", "void", "while", "with", "yield"]

def Lexeme.ofWord (cs : List Char) : Lexeme :=
  if String.ofList cs ∈ reservedWords then keyword (String.ofList cs) else name (String.ofList cs)

theorem Lexeme.ofWord_toList (x : String) :
    ofWord x.toList = if x ∈ reservedWords then keyword x else name x := by
  rw [ofWord, String.ofList_toList]

def Lexeme.ofSymbol : List Char → Lexeme
  | ['.'] => dot
  | [','] => comma
  | ['('] => openRound
  | [')'] => closeRound
  | ['\x7b'] => openCurly
  | ['\x7d'] => closeCurly
  | ['='] => assign
  | ['!', '='] => notEqual
  | ['=', '>'] => arrow
  | cs => unknown cs

/-- Where the reader of lexemes is: between two of them, or in one that starts with `cs`. -/
inductive Mode where
  | code
  | word (cs : List Char)
  | symbol (cs : List Char)
  | quoted (cs : List Char)

/-- The characters of symbols that may have more than one. -/
def joins (c : Char) : Bool :=
  c == '=' || c == '!' || c == '>'

namespace Mode

/-- What a character that starts a lexeme leads to. -/
def start (c : Char) : List Lexeme × Mode :=
  if isNameChar c then ([], word [c])
  else if joins c then ([], symbol [c])
  else if c = '"' then ([], quoted [])
  else if c = ' ' || c = '\n' then ([], code)
  else ([.ofSymbol [c]], code)

def next : Mode → Char → List Lexeme × Mode
  | code, c => start c
  | word cs, c =>
    if isNameChar c then ([], word (cs ++ [c])) else (.ofWord cs :: (start c).1, (start c).2)
  | symbol cs, c =>
    if joins c then ([], symbol (cs ++ [c])) else (.ofSymbol cs :: (start c).1, (start c).2)
  | quoted cs, c => if c = '"' then ([.text (String.ofList cs)], code) else ([], quoted (cs ++ [c]))

/-- The lexeme that the end of the text ends. -/
def last : Mode → List Lexeme
  | code => []
  | word cs => [.ofWord cs]
  | symbol cs => [.ofSymbol cs]
  | quoted cs => [.unknown ('"' :: cs)]

end Mode

def lexemes : Mode → List Char → List Lexeme
  | m, [] => m.last
  | m, c :: cs => (m.next c).1 ++ lexemes (m.next c).2 cs

/-- Over `text` the reader gets from `m` to `m'` and finds `found`, whatever stands behind. -/
def Spells (text : String) (m m' : Mode) (found : List Lexeme) : Prop :=
  ∀ rest, lexemes m (text.toList ++ rest) = found ++ lexemes m' rest

/-- A text whose characters are known is read by evaluation, and so are string literals. -/
theorem spells_literal {cs : List Char} {m m' : Mode} {found : List Lexeme}
    (h : ∀ rest, lexemes m (cs ++ rest) = found ++ lexemes m' rest) :
    Spells (String.ofList cs) m m' found := by
  intro rest
  rw [String.toList_ofList, h]

theorem spells_empty (m : Mode) : Spells "" m m [] :=
  spells_literal fun _ => rfl

theorem Spells.append {text text' : String} {m m' m'' : Mode} {found found' : List Lexeme}
    (h : Spells text m m' found) (h' : Spells text' m' m'' found') :
    Spells (text ++ text') m m'' (found ++ found') := by
  intro rest
  rw [String.toList_append, List.append_assoc, h, h', List.append_assoc]

theorem Spells.lexemes_eq {text : String} {m m' : Mode} {found : List Lexeme}
    (h : Spells text m m' found) : lexemes m text.toList = found ++ m'.last := by
  have hend := h []
  rwa [List.append_nil] at hend

theorem lexemes_word_append {cs more : List Char} (h : ∀ c ∈ more, isNameChar c = true)
    (rest : List Char) :
    lexemes (.word cs) (more ++ rest) = lexemes (.word (cs ++ more)) rest := by
  induction more generalizing cs with
  | nil => simp
  | cons c more ih =>
    obtain ⟨hc, hmore⟩ := List.forall_mem_cons.1 h
    rw [List.cons_append, lexemes, Mode.next, if_pos hc, ih hmore, List.append_assoc]
    rfl

/-- A name where a lexeme can start. -/
theorem spells_name {n : String} (h : isName n = true) : Spells n .code (.word n.toList) [] := by
  intro rest
  have hchars : ∀ c ∈ n.toList, isNameChar c = true := fun c hc => isNameChar_of_mem h hc
  cases hn : n.toList with
  | nil =>
    rw [isName, hn] at h
    cases h
  | cons c cs =>
    rw [hn] at hchars
    obtain ⟨hc, hcs⟩ := List.forall_mem_cons.1 hchars
    rw [List.cons_append, lexemes, Mode.next, Mode.start, if_pos hc, lexemes_word_append hcs]
    rfl

/-- A name in quotes. -/
theorem spells_quoted_name {n : String} (h : isName n = true) :
    Spells n (.quoted []) (.quoted n.toList) [] := by
  have hquote : '"' ∉ n.toList := not_mem_of_isName h (by decide)
  have hquoted (cs more rest : List Char) (hmore : '"' ∉ more) :
      lexemes (.quoted cs) (more ++ rest) = lexemes (.quoted (cs ++ more)) rest := by
    induction more generalizing cs with
    | nil => simp
    | cons c more ih =>
      obtain ⟨hc, hmore⟩ : '"' ≠ c ∧ '"' ∉ more := by simpa using hmore
      rw [List.cons_append, lexemes, Mode.next, if_neg (Ne.symm hc), ih _ hmore,
        List.append_assoc]
      rfl
  intro rest
  exact hquoted [] n.toList rest hquote

/-! ## Expressions -/

inductive Expr where
  | name (x : String)
  | text (s : String)
  | member (e : Expr) (field : String)
  | call (callee : Expr) (arguments : List Expr)
  /-- A function of one parameter. -/
  | arrow (x : String) (body : Expr)
  /-- An object with one member, which has the name and the value of a variable. -/
  | shorthand (x : String)

/-- What is still open around an expression that is read, with the arguments read so far. -/
inductive Frame where
  | call (callee : Expr) (arguments : List Expr)
  | arrow (x : String)

/-- Ends the functions that the expression is the body of. -/
def close : List Frame → Expr → List Frame × Expr
  | .arrow x :: frames, e => close frames (.arrow x e)
  | frames, e => (frames, e)

mutual

/-- Reads an expression inside the frames, the innermost first. -/
def readExpr (frames : List Frame) : List Lexeme → Option (Expr × List Lexeme)
  | .name x :: .arrow :: ls => readExpr (.arrow x :: frames) ls
  | .name x :: ls => readBehind frames (.name x) ls
  | .text s :: ls => readBehind frames (.text s) ls
  | .openCurly :: .name x :: .closeCurly :: ls => readBehind frames (.shorthand x) ls
  | _ => none

/-- Reads what stands behind an expression. -/
def readBehind (frames : List Frame) (e : Expr) : List Lexeme → Option (Expr × List Lexeme)
  | .dot :: .name field :: ls => readBehind frames (.member e field) ls
  | .dot :: .keyword field :: ls => readBehind frames (.member e field) ls
  | .openRound :: ls => readExpr (.call e [] :: frames) ls
  -- A function ends with its body, so it is closed before the call that it is an argument of.
  | .comma :: ls =>
    match close frames e with
    | (.call callee arguments :: frames, e) =>
      readExpr (.call callee (arguments ++ [e]) :: frames) ls
    | _ => none
  | .closeRound :: ls =>
    match close frames e with
    | (.call callee arguments :: frames, e) =>
      readBehind frames (.call callee (arguments ++ [e])) ls
    | ([], e) => some (e, .closeRound :: ls)
    | _ => none
  | ls =>
    match close frames e with
    | ([], e) => some (e, ls)
    | _ => none

end

/-! ## Statements -/

inductive Condition where
  | holds (e : Expr)
  /-- The value is neither null nor undefined. -/
  | present (e : Expr)

/-- An assignment under a condition. -/
structure Guarded where
  condition : Condition
  place : Expr
  value : Expr

def readCondition (ls : List Lexeme) : Option (Condition × List Lexeme) :=
  match readExpr [] ls with
  | some (e, .notEqual :: .keyword "null" :: ls) => some (.present e, ls)
  | some (e, ls) => some (.holds e, ls)
  | none => none

def readAssignment (ls : List Lexeme) : Option (Expr × Expr × List Lexeme) :=
  match readExpr [] ls with
  | some (place, .assign :: ls) => (readExpr [] ls).map fun (value, ls) => (place, value, ls)
  | _ => none

def readGuarded : List Lexeme → Option (Guarded × List Lexeme)
  | .keyword "if" :: .openRound :: ls =>
    match readCondition ls with
    | some (condition, .closeRound :: .openCurly :: ls) =>
      match readAssignment ls with
      | some (place, value, .closeCurly :: ls) => some (⟨condition, place, value⟩, ls)
      | _ => none
    | _ => none
  | _ => none

/-- Reads at most `n` statements, up to the end. -/
def readStatements : Nat → List Lexeme → Option (List Guarded)
  | _, [] => some []
  | 0, _ :: _ => none
  | n + 1, l :: ls => do
    let (s, rest) ← readGuarded (l :: ls)
    return s :: (← readStatements n rest)

/-- The statements of a text. Each has at least one lexeme. -/
def statements? (text : String) : Option (List Guarded) :=
  readStatements (lexemes .code text.toList).length (lexemes .code text.toList)

section Reading

variable {α : Type} {spelled : α → List Lexeme} {meant : α → Guarded} {items : List α}

/-- A statement without lexemes cannot be read. -/
theorem spelled_eq_cons {a : α}
    (h : ∀ rest, readGuarded (spelled a ++ rest) = some (meant a, rest)) :
    ∃ l ls, spelled a = l :: ls := by
  cases hspelled : spelled a with
  | nil =>
    have hread := h []
    rw [hspelled] at hread
    cases hread
  | cons l ls => exact ⟨l, ls, rfl⟩

theorem length_le_flatMap_spelled
    (h : ∀ a ∈ items, ∀ rest, readGuarded (spelled a ++ rest) = some (meant a, rest)) :
    items.length ≤ (items.flatMap spelled).length := by
  induction items with
  | nil => exact Nat.le_refl 0
  | cons a items ih =>
    obtain ⟨ha, hitems⟩ := List.forall_mem_cons.1 h
    obtain ⟨l, ls, hspelled⟩ := spelled_eq_cons ha
    have hrest := ih hitems
    rw [List.flatMap_cons, hspelled, List.length_append, List.length_cons, List.length_cons]
    omega

theorem readStatements_flatMap
    (h : ∀ a ∈ items, ∀ rest, readGuarded (spelled a ++ rest) = some (meant a, rest)) {n : Nat}
    (hn : items.length ≤ n) :
    readStatements n (items.flatMap spelled) = some (items.map meant) := by
  induction items generalizing n with
  | nil => cases n <;> rfl
  | cons a items ih =>
    obtain ⟨ha, hitems⟩ := List.forall_mem_cons.1 h
    obtain ⟨l, ls, hspelled⟩ := spelled_eq_cons ha
    have hread := ha (items.flatMap spelled)
    cases n with
    | zero => cases hn
    | succ n =>
      have hrest := ih hitems (Nat.le_of_succ_le_succ hn)
      rw [hspelled, List.cons_append] at hread
      rw [List.flatMap_cons, hspelled, List.cons_append, readStatements, hread]
      simp [hrest]

/-- A text that spells one statement after the other has these statements. -/
theorem statements?_of_spells {text : String}
    (htext : Spells text .code .code (items.flatMap spelled))
    (h : ∀ a ∈ items, ∀ rest, readGuarded (spelled a ++ rest) = some (meant a, rest)) :
    statements? text = some (items.map meant) := by
  have hlexemes : lexemes .code text.toList = items.flatMap spelled := by
    rw [htext.lexemes_eq]
    exact List.append_nil _
  rw [statements?, hlexemes, readStatements_flatMap h (length_le_flatMap_spelled h)]

end Reading

/-- The expression that a text is. -/
def expr? (text : String) : Option Expr :=
  match readExpr [] (lexemes .code text.toList) with
  | some (e, []) => some e
  | _ => none

/-! ## Data -/

inductive Datum where
  | undefined
  | null
  | boolean (b : Bool)
  /-- A number with the given bits. -/
  | number (bits : UInt64)
  | string (s : String)
  | array (items : List Datum)
  | object (members : List (String × Datum))

/-- What expressions can stand for: data, the functions at hand, and the methods of arrays that
matter. -/
inductive Value where
  | datum (d : Datum)
  /-- The global object with the functions about arrays. -/
  | arrays
  /-- The method of an array that applies a function to its items. -/
  | mapOf (items : List Datum)
  | function (f : List Datum → Option Datum)

/-- What a script finds outside of itself. -/
structure World where
  trimInput : Datum → String → Datum → Datum
  inputTypeInfoMap : Datum

/-- The variables of a function, with their values. -/
abbrev Locals := List (String × Datum)

def Value.datum? : Value → Option Datum
  | datum d => some d
  | _ => none

@[simp] theorem Value.datum?_datum (d : Datum) : (datum d).datum? = some d :=
  rfl

def Datum.isArray : Datum → Bool
  | array _ => true
  | _ => false

def Datum.isPresent : Datum → Bool
  | undefined | null => false
  | _ => true

def Value.member (field : String) : Value → Option Value
  | arrays =>
    if field = "isArray" then
      some (.function fun arguments => some (.boolean (arguments.headD .undefined).isArray))
    else none
  | datum (.array items) => if field = "map" then some (.mapOf items) else none
  | datum (.object members) => some (.datum ((members.lookup field).getD .undefined))
  | _ => none

def Value.apply : Value → List Value → Option Value
  | function f, arguments => do return .datum (← f (← arguments.mapM datum?))
  | mapOf items, [function f] => do return .datum (.array (← items.mapM fun item => f [item]))
  | _, _ => none

namespace World

def global? (w : World) (x : String) : Option Value :=
  if x = "Array" then some .arrays
  else if x = "trimInput" then
    some (.function fun
      | [d, .string typeName, shapes] => some (w.trimInput d typeName shapes)
      | _ => none)
  else if x = "inputTypeInfoMap" then some (.datum w.inputTypeInfoMap)
  else none

/-- What a name stands for: a local, if there is one, or something global. -/
def find (w : World) (locals : Locals) (x : String) : Option Value :=
  match locals.lookup x with
  | some d => some (.datum d)
  | none => w.global? x

end World

mutual

def Expr.eval (w : World) (locals : Locals) : Expr → Option Value
  | .name x => w.find locals x
  | .text s => some (.datum (.string s))
  | .member e field => do (← e.eval w locals).member field
  | .call callee arguments => do (← callee.eval w locals).apply (← evalAll w locals arguments)
  | .arrow x body => some (.function fun arguments => do
      (← body.eval w ((x, arguments.headD .undefined) :: locals)).datum?)
  | .shorthand x => do return .datum (.object [(x, ← (← w.find locals x).datum?)])

def evalAll (w : World) (locals : Locals) : List Expr → Option (List Value)
  | [] => some []
  | e :: es => do return (← e.eval w locals) :: (← evalAll w locals es)

end

section Evaluation

variable {w : World} {locals : Locals} {e : Expr}

theorem eval_call_trimInput (htrim : locals.lookup "trimInput" = none)
    (hinfo : locals.lookup "inputTypeInfoMap" = none) {d : Datum}
    (he : e.eval w locals = some (.datum d)) (typeName : String) :
    (Expr.call (.name "trimInput") [e, .text typeName, .name "inputTypeInfoMap"]).eval w locals =
      some (.datum (w.trimInput d typeName w.inputTypeInfoMap)) := by
  simp [Expr.eval, evalAll, World.find, World.global?, htrim, hinfo, he, Value.apply]

theorem eval_call_isArray (harray : locals.lookup "Array" = none) {d : Datum}
    (he : e.eval w locals = some (.datum d)) :
    (Expr.call (.member (.name "Array") "isArray") [e]).eval w locals =
      some (.datum (.boolean d.isArray)) := by
  simp [Expr.eval, evalAll, World.find, World.global?, harray, he, Value.member, Value.apply]

/-- No datum has a function as its member `isArray`. -/
theorem eval_call_isArray_of_local {x : String} {d : Datum} (hx : locals.lookup x = some d)
    (arguments : List Expr) :
    (Expr.call (.member (.name x) "isArray") arguments).eval w locals = none := by
  cases d <;> simp [Expr.eval, World.find, hx, Value.member, Value.apply]

theorem eval_call_map {items : List Datum} (he : e.eval w locals = some (.datum (.array items)))
    {x : String} {body : Expr} {g : Datum → Datum}
    (hbody : ∀ item, body.eval w ((x, item) :: locals) = some (.datum (g item))) :
    (Expr.call (.member e "map") [.arrow x body]).eval w locals =
      some (.datum (.array (items.map g))) := by
  have hitems : items.mapM (fun item => some (g item)) = some (items.map g) := List.mapM_pure
  simp [Expr.eval, evalAll, he, Value.member, Value.apply, hbody, hitems]

end Evaluation

/-! ## Runs -/

def Condition.eval (w : World) (locals : Locals) : Condition → Option Bool
  | holds e => do
    match ← e.eval w locals with
    | .datum (.boolean b) => some b
    | _ => none
  | present e => do return (← (← e.eval w locals).datum?).isPresent

/-- Replaces the value under a key, or adds the key. -/
def put (x : String) (d : Datum) (entries : List (String × Datum)) : List (String × Datum) :=
  if (entries.lookup x).isSome then entries.map fun entry => if entry.1 = x then (x, d) else entry
  else entries ++ [(x, d)]

/-- Assigns to a local, or to a member of an object that a local holds. -/
def Expr.assign (d : Datum) (locals : Locals) : Expr → Option Locals
  | .name x => do
    let _ ← locals.lookup x
    return put x d locals
  | .member (.name x) field => do
    match ← locals.lookup x with
    | .object members => some (put x (.object (put field d members)) locals)
    | _ => none
  | _ => none

def Guarded.run (w : World) (locals : Locals) (s : Guarded) : Option Locals := do
  if ← s.condition.eval w locals then
    s.place.assign (← (← s.value.eval w locals).datum?) locals
  else return locals

def runAll (w : World) (locals : Locals) (ss : List Guarded) : Option Locals :=
  ss.foldlM (fun locals s => s.run w locals) locals

/-- Runs the statements of a text, and then gives the value that another text stands for. -/
def valueAfter (w : World) (locals : Locals) (block expr : String) : Option Datum := do
  let ss ← statements? block
  let e ← expr? expr
  let locals ← runAll w locals ss
  (← e.eval w locals).datum?

end TypedClient.Script
