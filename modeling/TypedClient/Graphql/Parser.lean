import TypedClient.Graphql.Document
import TypedClient.Graphql.Lexer

/-!
# Parsers

Predictive parsers over tokens: the next token decides what is read, and nothing is read twice.
Brackets nest at most fifty deep. A parser for nested constructs takes the number of brackets that
may still open, and that number is also what its recursion descends on.
-/

namespace TypedClient

abbrev Parser (α : Type) := StateT (List Token) (Except SyntaxError) α

namespace Parser

variable {α : Type}

/-- How deep brackets may nest. -/
def nesting : Nat := 50

/-- Fails at the next token. -/
def fail : Parser α := do
  match ← get with
  | t :: _ => throw (.token t)
  | [] => throw .ending

def peek? : Parser (Option Token) := do
  return (← get).head?

/-- Reads the given token if it is next. -/
def accept (t : Token) : Parser Bool := do
  match ← get with
  | u :: rest => if u = t then set rest; return true else return false
  | [] => return false

def expect (t : Token) : Parser Unit := do
  unless ← accept t do fail

def name : Parser String := do
  match ← get with
  | .name s :: rest => set rest; return s
  | _ => fail

/-- Reads items as long as `more` accepts the next token. Every item reads at least that token. -/
def manyWhile (more : Token → Bool) (item : Parser α) :
    List Token → Except SyntaxError (List α × List Token)
  | [] => .ok ([], [])
  | t :: ts =>
    if more t then
      match item (t :: ts) with
      | .error e => .error e
      | .ok (a, rest) =>
        if rest.length ≤ ts.length then
          match manyWhile more item rest with
          | .ok (as, rest) => .ok (a :: as, rest)
          | .error e => .error e
        else
          -- Only an item that reads nothing gets here, and it would be read forever.
          .error (.token t)
    else .ok ([], t :: ts)
termination_by ts => ts.length

/-- Items between brackets. -/
def enclosed (b : Bracket) (item : Parser α) : Parser (List α) := do
  expect (.opening b)
  let items ← manyWhile (· != .closing b) item
  expect (.closing b)
  return items

/-- One or more items between brackets. -/
def enclosedSome (b : Bracket) (item : Parser α) : Parser (List α) := do
  expect (.opening b)
  let first ← item
  let rest ← manyWhile (· != .closing b) item
  expect (.closing b)
  return first :: rest

/-- Reads with `p` if a bracket opens next. -/
def ifOpening (b : Bracket) (p : Parser (List α)) : Parser (List α) := do
  if (← peek?) = some (.opening b) then p else return []

/-- One or more items up to the end of the text. -/
def toEnd (item : Parser α) : Parser (List α) := do
  let first ← item
  let rest ← manyWhile (fun _ => true) item
  return first :: rest

/-- A type with at most one exclamation mark. -/
def typeRef : Nat → Parser TypeRef
  | 0 => do marked (.named (← name))
  | depth + 1 => do
    if ← accept (.opening .square) then
      let item ← typeRef depth
      expect (.closing .square)
      marked (.list item)
    else marked (.named (← name))
where
  marked (t : TypeRef) : Parser TypeRef := do
    if ← accept .exclamation then return .nonNull t else return t

/-- A value without brackets. A constant holds no variables. -/
def simpleValue (constant : Bool) : Parser Value := do
  match ← get with
  | .int n :: rest => set rest; return .int n
  | .float x :: rest => set rest; return .float x
  | .string s :: rest => set rest; return .string s
  | .name s :: rest =>
    set rest
    if s = "true" then return .boolean true
    else if s = "false" then return .boolean false
    else if s = "null" then return .null
    else return .enum s
  | .dollar :: rest =>
    if constant then fail
    else
      set rest
      return .variable (← name)
  | _ => fail

def named (p : Parser α) : Parser (String × α) := do
  let n ← name
  expect .colon
  return (n, ← p)

def value (constant : Bool) : Nat → Parser Value
  | 0 => simpleValue constant
  | depth + 1 => do
    match ← peek? with
    | some (.opening .square) => return .list (← enclosed .square (value constant depth))
    | some (.opening .curly) =>
      return .ofMembers (← enclosed .curly (named (value constant depth)))
    | _ => simpleValue constant

/-- Reads what stands inside one more bracket. -/
def deeper (depth : Nat) (p : Nat → Parser α) : Parser α :=
  match depth with
  | 0 => fail
  | depth + 1 => p depth

/-- A default value, if one follows. -/
def default? (depth : Nat) : Parser (Option Value) := do
  if ← accept .equals then return some (← value true depth) else return none

def arguments (depth : Nat) : Parser (List (String × Value)) :=
  ifOpening .round (deeper depth fun d => enclosedSome .round (named (value false d)))

def directives (depth : Nat) : Parser (List Directive) :=
  manyWhile (· == .atSign) do
    expect .atSign
    return { name := ← name, arguments := ← arguments depth }

/-- Reads a whole text. -/
def run (p : Parser α) (text : String) : Except SyntaxError α := do
  let tokens ← Token.scan text.toList
  StateT.run' p tokens

end Parser

end TypedClient
