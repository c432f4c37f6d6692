import TypedClient.InputShape.Json
import TypedClient.Proofs.JsonReading
import TypedClient.Proofs.Keyed

/-!
# Shapes read back

The map of input shapes, written as JSON and read again, is the same map. Between the two stand the
tokens of the map: layout and escapes are gone in them, and what is read no longer depends on how it
was written.
-/

namespace TypedClient

open Json Json.Token

/-- The name of a member, behind whatever stands before it. -/
theorem scans_memberName {text before : String} {found : List Json.Token}
    (hbefore : Scans before found) (name : String) (h : text = before ++ jsonString name ++ ": ") :
    Scans text (found ++ [.text (some name), .colon]) := by
  have hcolon : Scans ": " [.colon] := scans_layout rfl
  have hname := (hbefore.append (scans_quote name)).append hcolon
  rw [List.append_assoc, List.singleton_append] at hname
  rw [h]
  exact hname

/-- Parts that are read back one by one are read back together. -/
theorem mapM_map_eq_some {α β : Type} {write : α → β} {read : β → Option α}
    (h : ∀ a, read (write a) = some a) (as : List α) : (as.map write).mapM read = some as := by
  induction as with
  | nil => rfl
  | cons a as ih =>
    rw [List.map_cons, List.mapM_cons, h, ih]
    rfl

/-! ## Fields -/

namespace InputFieldShape

def members (f : InputFieldShape) : List (String × List Json.Token) :=
  [("name", [.text (some f.name)]), ("typeName", [.text (some f.typeName)]),
    ("isList", [.boolean f.isList]), ("isNonNull", [.boolean f.isNonNull])]

def tokens (f : InputFieldShape) : List Json.Token :=
  objectTokens f.members

theorem scans_render (f : InputFieldShape) : Scans f.render f.tokens := by
  have hopen : Scans "      \x7b\n        " [.openBrace] := scans_layout rfl
  have hcomma : Scans ",\n        " [.comma] := scans_layout rfl
  have hclose : Scans "\n      \x7d" [.closeBrace] := scans_layout rfl
  have hname : Scans "      \x7b\n        \"name\": " _ := scans_memberName hopen "name" rfl
  have htype : Scans ",\n        \"typeName\": " _ := scans_memberName hcomma "typeName" rfl
  have hlist : Scans ",\n        \"isList\": " _ := scans_memberName hcomma "isList" rfl
  have hnull : Scans ",\n        \"isNonNull\": " _ := scans_memberName hcomma "isNonNull" rfl
  exact ((((((((hname.append (scans_quote f.name)).append htype).append
    (scans_quote f.typeName)).append hlist).append (scans_boolean f.isList)).append hnull).append
    (scans_boolean f.isNonNull)).append hclose)

theorem isValue_members (f : InputFieldShape) : ∀ m ∈ f.members, IsValue m.2 := by
  simp [members, isValue_text, isValue_boolean]

theorem isValue_tokens (f : InputFieldShape) : IsValue f.tokens :=
  isValue_object f.isValue_members

theorem ofJson?_tokens (f : InputFieldShape) : ofJson? f.tokens = some f := by
  rw [ofJson?, tokens, record?_object f.isValue_members]
  rfl

end InputFieldShape

/-! ## Shapes -/

namespace InputShape

def members (s : InputShape) : List (String × List Json.Token) :=
  [("name", [.text (some s.name)]),
    ("fields", arrayTokens (s.fields.map InputFieldShape.tokens))]

def tokens (s : InputShape) : List Json.Token :=
  objectTokens s.members

theorem scans_renderFields (fields : List InputFieldShape) :
    Scans (renderFields fields) (arrayTokens (fields.map InputFieldShape.tokens)) := by
  have hopen : Scans "[\n" [.openBracket] := scans_layout rfl
  have hcomma : Scans ",\n" [.comma] := scans_layout rfl
  have hclose : Scans "\n    ]" [.closeBracket] := scans_layout rfl
  unfold renderFields
  split
  · rename_i hempty
    obtain rfl : fields = [] := by simpa using hempty
    exact scans_layout rfl
  · have hfields := scans_intercalate hcomma fields fun f _ => InputFieldShape.scans_render f
    exact (hopen.append hfields).append hclose

theorem scans_render (s : InputShape) : Scans s.render s.tokens := by
  have hopen : Scans "\x7b\n    " [.openBrace] := scans_layout rfl
  have hcomma : Scans ",\n    " [.comma] := scans_layout rfl
  have hclose : Scans "\n  \x7d" [.closeBrace] := scans_layout rfl
  have hname : Scans "\x7b\n    \"name\": " _ := scans_memberName hopen "name" rfl
  have hfields : Scans ",\n    \"fields\": " _ := scans_memberName hcomma "fields" rfl
  have htext : Scans s.render _ := (((hname.append (scans_quote s.name)).append hfields).append
    (scans_renderFields s.fields)).append hclose
  simpa [tokens, members, objectTokens, group, separated, memberTokens, Bracket.opening,
    Bracket.closing] using htext

theorem isValue_fields (s : InputShape) :
    ∀ v ∈ s.fields.map InputFieldShape.tokens, IsValue v := by
  intro v hv
  obtain ⟨f, -, rfl⟩ := List.mem_map.1 hv
  exact f.isValue_tokens

theorem isValue_members (s : InputShape) : ∀ m ∈ s.members, IsValue m.2 := by
  simp [members, isValue_text, isValue_array s.isValue_fields]

theorem isValue_tokens (s : InputShape) : IsValue s.tokens :=
  isValue_object s.isValue_members

theorem ofJson?_tokens (s : InputShape) : ofJson? s.tokens = some s := by
  have hfields := mapM_map_eq_some InputFieldShape.ofJson?_tokens s.fields
  have hrecord : record? ["name", "fields"] s.tokens = some [[.text (some s.name)],
      arrayTokens (s.fields.map InputFieldShape.tokens)] := by
    rw [tokens, record?_object s.isValue_members]
    rfl
  rw [ofJson?, hrecord]
  simp [text?, elements?_array s.isValue_fields, hfields]

end InputShape

/-! ## The map -/

namespace InputShapeMap

def members (m : InputShapeMap) : List (String × List Json.Token) :=
  m.items.map fun e => (e.1, e.2.tokens)

def tokens (m : InputShapeMap) : List Json.Token :=
  objectTokens m.members

theorem scans_entry (e : String × InputShape) :
    Scans ("  " ++ jsonString e.1 ++ ": " ++ e.2.render) (memberTokens (e.1, e.2.tokens)) := by
  have hpad : Scans "  " [] := scans_layout rfl
  exact (scans_memberName hpad e.1 rfl).append e.2.scans_render

theorem scans_render (m : InputShapeMap) : Scans m.render m.tokens := by
  have hopen : Scans "\x7b\n" [.openBrace] := scans_layout rfl
  have hcomma : Scans ",\n" [.comma] := scans_layout rfl
  have hclose : Scans "\n\x7d" [.closeBrace] := scans_layout rfl
  unfold render tokens objectTokens members
  rw [List.map_map]
  split
  · rename_i hempty
    have hitems : m.items = [] := by simpa using hempty
    rw [hitems]
    exact scans_layout rfl
  · have hentries := scans_intercalate hcomma m.items fun e _ => scans_entry e
    exact (hopen.append hentries).append hclose

theorem isValue_members (m : InputShapeMap) : ∀ e ∈ m.members, IsValue e.2 := by
  intro e he
  obtain ⟨⟨key, s⟩, -, rfl⟩ := List.mem_map.1 he
  exact s.isValue_tokens

/-- Whatever the names and keys are, the map that is read from the rendered map is that map, with
its keys and the fields of each shape in their order. -/
theorem ofJson_render (m : InputShapeMap) : ofJson m.render = .ok m := by
  have hscan := m.scans_render.scan_eq
  have hmembers : members? m.tokens = some m.members := members?_object m.isValue_members
  have hread : ofJson? m.render = some m := by
    rw [ofJson?, hscan, Option.bind_eq_bind, Option.bind_some, hmembers, Option.bind_eq_bind,
      Option.bind_some, members, mapM_map_eq_some]
    · -- No key is there twice, so none is replaced on the way in.
      exact congrArg some m.ofList_items
    · rintro ⟨key, s⟩
      simp [s.ofJson?_tokens]
  rw [ofJson, hread]

end InputShapeMap

end TypedClient
