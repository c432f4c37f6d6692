import Mathlib
import TypedClient.Proofs.FragmentClosure.Reachability
import TypedClient.Proofs.Generation
import TypedClient.Proofs.ParsedNames
import TypedClient.Proofs.TemplateLiteral

/-!
# Document literals

The document of an operation or a fragment is the text of a template literal. Read by the rules of
the language, the literal of an operation substitutes the constants of the fragments that the
operation needs and then holds the printed operation; the literal of a fragment holds the printed
fragment. Nothing that stands in the definitions, such as a backtick in a string, ends a literal.
-/

namespace TypedClient

open Text Text.TemplateLiteral

/-! ## The end of a printed definition -/

theorem trimEnd_append_brace (front : List Char) :
    trimEnd (front ++ ['\x7d', '\n']) = front ++ ['\x7d'] := by
  have hfeed : isBlank '\n' = true := by decide
  have hbrace : isBlank '\x7d' = false := by decide
  simp [trimEnd, hfeed, hbrace]

/-- A printed definition ends with the brace of its selection set, and trimming takes just the line
feed away. -/
theorem getLast?_trimEnd_selectionSet (start : String) (selections : List Selection) :
    (trimEnd (start ++ printSelectionSet selections).toList).getLast? = some '\x7d' := by
  have hset : (start ++ printSelectionSet selections).toList =
      (start ++ ("\x7b\n" ++ Selection.printAll 2 selections)).toList ++ ['\x7d', '\n'] := by
    simp [printSelectionSet]
  rw [hset, trimEnd_append_brace]
  exact List.getLast?_concat

theorem Operation.getLast?_trimEnd_print (op : Operation) :
    (trimEnd op.print.toList).getLast? = some '\x7d' := by
  cases op with
  | bare selections => simpa [Operation.print] using getLast?_trimEnd_selectionSet "" selections
  | headed kind name vars directives selections => exact getLast?_trimEnd_selectionSet _ selections

/-! ## The block of an operation -/

theorem toList_indented (pad block : String) :
    (indented pad block).toList = indent pad.toList block.toList :=
  String.toList_ofList

theorem toList_templateText (printed : String) :
    (templateText printed).toList = escape (trimEnd printed.toList) :=
  String.toList_ofList

/-- The substitution of a fragment's constant. -/
def placeholder (fragment : String) : List Char :=
  '$' :: '\x7b' :: (fragmentDocName fragment).toList ++ ['\x7d']

theorem toList_fragmentLine (fragment : String) :
    (fragmentLine fragment).toList = placeholder fragment ++ ['\n'] := by
  simp [fragmentLine, placeholder]

theorem not_mem_fragmentDocName {n : String} (h : isName n = true) {c : Char}
    (hc : Token.isNameChar c = false) : c ∉ (fragmentDocName n).toList :=
  not_mem_of_isName (isName_fragmentDocName h) hc

theorem toList_gqlBlock (fragments : List String) (op : Operation) :
    (gqlBlock fragments op).toList =
      fragments.flatMap (fun n => placeholder n ++ ['\n']) ++
        (escape (trimEnd op.print.toList) ++ ['\n']) := by
  have hjoin : (String.join (fragments.map fragmentLine)).toList =
      fragments.flatMap fun n => placeholder n ++ ['\n'] := by
    rw [String.toList_join, List.flatMap_map]
    simp only [toList_fragmentLine]
  simp [gqlBlock, toList_templateText, hjoin]

theorem indent_placeholders {fragments : List String} (h : ∀ n ∈ fragments, isName n = true)
    (pad rest : List Char) :
    indent pad (fragments.flatMap (fun n => placeholder n ++ ['\n']) ++ rest) =
      fragments.flatMap (fun n => pad ++ placeholder n ++ ['\n']) ++ indent pad rest := by
  induction fragments with
  | nil => rfl
  | cons n fragments ih =>
    have hfeed : '\n' ∉ placeholder n := by
      have hname := not_mem_fragmentDocName (h n List.mem_cons_self) (c := '\n') (by decide)
      simp [placeholder, hname]
    have hreturn : (placeholder n).getLast? ≠ some '\r' := by
      rw [placeholder, List.getLast?_concat]
      decide
    rw [List.flatMap_cons, List.flatMap_cons, List.append_assoc, List.append_assoc,
      List.singleton_append, indent_append_feed (by simp [placeholder]) hfeed hreturn,
      ih fun n' hn' => h n' (List.mem_cons_of_mem n hn')]
    simp

/-- The lines of a block are indented as if nothing had been escaped. -/
theorem indent_gqlBlock {fragments : List String} (h : ∀ n ∈ fragments, isName n = true)
    {pad : List Char} (hpad : pad.all isPlain = true) (op : Operation) :
    indent pad (gqlBlock fragments op).toList =
      fragments.flatMap (fun n => pad ++ placeholder n ++ ['\n']) ++
        escape (indent pad (trimEnd op.print.toList)) := by
  -- The brace at the end is no line end, so the last line feed of the block adds no line.
  have hlast := op.getLast?_trimEnd_print
  have hescape : (escape (trimEnd op.print.toList)).getLast? = some '\x7d' := by
    obtain ⟨front, hfront⟩ := List.getLast?_eq_some_iff.1 hlast
    have hbrace : escape ['\x7d'] = ['\x7d'] := escape_of_plain (by decide)
    rw [hfront, escape_append (.inr (by decide)), hbrace]
    exact List.getLast?_concat
  rw [toList_gqlBlock, indent_placeholders h,
    indent_append_final_feed hescape (by decide) (by decide), indent_escape hpad]

/-! ## The literals -/

/-- What stands between the backticks of a function's document. -/
def OperationFunction.literal (f : OperationFunction) : String :=
  "\n" ++ indented "    " f.gqlBlock ++ "  "

/-- What stands between the backticks of a fragment's document. -/
def Fragment.literal (f : Fragment) : String :=
  "\n" ++ indented "  " (templateText f.print)

/-- A line feed, and then the lines of a printed definition, with `pad` before each line that is not
empty and a line feed after each. -/
def printedLines (pad printed : String) : List Char :=
  '\n' :: (lines (trimEnd printed.toList)).flatMap fun line =>
    (if line = [] then [] else pad.toList) ++ line ++ ['\n']

theorem printedLines_eq (pad printed : String) :
    printedLines pad printed = '\n' :: indent pad.toList (trimEnd printed.toList) := by
  unfold printedLines indent
  congr 2
  funext line
  cases line <;> rfl

theorem feed_flatMap {α : Type} (f : α → List Char) (as : List α) :
    '\n' :: as.flatMap (fun a => f a ++ ['\n']) = as.flatMap (fun a => '\n' :: f a) ++ ['\n'] := by
  induction as with
  | nil => rfl
  | cons a as ih => simp [← ih]

/-- A printed definition with plain text behind it, as it is written. -/
theorem escape_printedLines (pad printed : String) {closing : List Char}
    (hplain : closing.all isPlain = true) (hhead : closing.head? ≠ some '\x7b') :
    escape (printedLines pad printed ++ closing) =
      '\n' :: escape (indent pad.toList (trimEnd printed.toList)) ++ closing := by
  rw [printedLines_eq, escape_append (.inr hhead), escape_of_plain hplain, escape_cons,
    escapeChar_of_plain (by decide)]
  rfl

theorem getLast?_printedLines (pad printed : String) :
    (printedLines pad printed).getLast? = some '\n' := by
  rw [printedLines_eq, List.getLast?_cons]
  cases hlast : (indent pad.toList (trimEnd printed.toList)).getLast? with
  | none => rfl
  | some c => rw [getLast?_indent hlast, Option.getD_some]

theorem toList_operation_literal {f : OperationFunction} {fragments : List String} {op : Operation}
    (hblock : f.gqlBlock = gqlBlock fragments op) (h : ∀ n ∈ fragments, isName n = true) :
    f.literal.toList =
      fragments.flatMap (fun n => "\n    ".toList ++ placeholder n) ++
        escape (printedLines "    " op.print ++ "  ".toList) := by
  have hliteral : f.literal.toList =
      '\n' :: indent "    ".toList f.gqlBlock.toList ++ "  ".toList := by
    rw [OperationFunction.literal, String.toList_append, String.toList_append, toList_indented]
    simp
  -- The line feeds move from behind the placeholders to the front of them, so that what is left
  -- in the end is a text of its own.
  rw [hliteral, hblock, indent_gqlBlock h (by decide),
    escape_printedLines _ _ (by decide) (by decide), ← List.cons_append, feed_flatMap]
  simp

/-- The literal of an operation is read as the substitutions of its fragments, each on a line, and
the printed operation. -/
theorem reads_operation_literal {f : OperationFunction} {fragments : List String} {op : Operation}
    (hblock : f.gqlBlock = gqlBlock fragments op) (h : ∀ n ∈ fragments, isName n = true) :
    Reads f.literal.toList
      (spaced "\n    ".toList ((fragments.map fragmentDocName).map String.toList) ++
        (printedLines "    " op.print ++ "  ".toList).map .char) := by
  have hpad : Reads "\n    ".toList ("\n    ".toList.map .char) := by
    have hread : Reads (escape "\n    ".toList) ("\n    ".toList.map .char) :=
      reads_escape (by decide)
    rwa [escape_of_plain (by decide)] at hread
  rw [toList_operation_literal hblock h, spaced, List.map_map, List.flatMap_map]
  refine (reads_flatMap fun n hn => ?_).append (reads_escape ?_)
  · exact hpad.append (reads_substitution (not_mem_fragmentDocName (h n hn) (by decide)))
  · simp

/-- The literal of a fragment is read as the printed fragment. -/
theorem reads_fragment_literal (f : Fragment) :
    Reads f.literal.toList ((printedLines "  " f.print).map .char) := by
  have hwritten : f.literal.toList = escape (printedLines "  " f.print) := by
    have hescape := escape_printedLines "  " f.print List.all_nil (by simp)
    rw [List.append_nil, List.append_nil] at hescape
    rw [hescape, Fragment.literal, String.toList_append, toList_indented, toList_templateText,
      indent_escape (by decide)]
    simp
  rw [hwritten]
  refine reads_escape ?_
  rw [getLast?_printedLines]
  decide

/-! ## The entries of a module -/

theorem exists_fragment_of_mem_closure {d : DocumentSet} {selections : List Selection} {n : String}
    (h : n ∈ fragmentClosure d selections) : ∃ g ∈ d.fragments, g.name = n := by
  obtain ⟨g, hg⟩ := Option.isSome_iff_exists.1 (FragmentClosure.mem_fragmentClosure.1 h).1
  exact ⟨g, List.mem_of_find?_eq_some hg, by simpa using List.find?_some hg⟩

theorem isName_of_mem_fragmentClosure {d : DocumentSet} (hnames : d.WellNamed)
    {selections : List Selection} {n : String} (h : n ∈ fragmentClosure d selections) :
    isName n = true := by
  obtain ⟨g, hg, rfl⟩ := exists_fragment_of_mem_closure h
  exact hnames g hg

/-- `text` holds `body` between backticks, behind `opening`. A reader of template literals stops at
the backtick behind `body`, and has then read the substitutions `expressions` and, after the last of
them, the text `last`. -/
def HoldsLiteral (text opening body : String) (expressions : List String) (last : List Char) :
    Prop :=
  ∃ (before after : String) (items : List Item),
    text = before ++ opening ++ "gql`" ++ body ++ "`\n" ++ after ∧
    read (body ++ "`\n" ++ after).toList = some (items, ("\n" ++ after).toList) ∧
    substitutions items = expressions.map String.toList ∧ lastText items = last

theorem holdsLiteral_of_reads {text before opening body after : String} {items : List Item}
    {expressions : List String} {last : List Char}
    (htext : text = before ++ opening ++ "gql`" ++ body ++ "`\n" ++ after)
    (h : Reads body.toList items)
    (hexpressions : substitutions items = expressions.map String.toList)
    (hlast : lastText items = last) : HoldsLiteral text opening body expressions last := by
  refine ⟨before, after, items, htext, ?_, hexpressions, hlast⟩
  have hbehind : (body ++ "`\n" ++ after).toList =
      body.toList ++ '\x60' :: ("\n" ++ after).toList := by
    simp
  rw [hbehind, h.end_at_backtick]

namespace OperationFunction

theorem documentText_eq (f : OperationFunction) :
    f.documentText = "  const " ++ f.kind.keyword ++ " = " ++ "gql`" ++ f.literal ++ "`\n" := by
  have hopening : " = gql`\n" = " = " ++ ("gql`" ++ "\n") := rfl
  have hclosing : "  `\n" = "  " ++ "`\n" := rfl
  rw [documentText, literal, hopening, hclosing]
  simp only [String.append_assoc]

/-- The text of a function holds its document. -/
theorem render_eq (f : OperationFunction) :
    ∃ before after, f.render = before ++ f.documentText ++ after := by
  have hlast (before : String) :
      ∃ before' after, before ++ f.documentText = before' ++ f.documentText ++ after :=
    ⟨before, "", String.append_empty.symm⟩
  have hmore {text : String} (h : ∃ before after, text = before ++ f.documentText ++ after)
      (more : String) : ∃ before after, text ++ more = before ++ f.documentText ++ after := by
    obtain ⟨before, after, rfl⟩ := h
    exact ⟨before, after ++ more, String.append_assoc⟩
  have hrequest : ∃ before after, f.renderRequest = before ++ f.documentText ++ after :=
    hmore (hmore (hmore (hmore (hmore (hmore (hlast _) _) _) _) _) _) _
  have hsubscription : ∃ before after, f.renderSubscription = before ++ f.documentText ++ after :=
    hmore (hmore (hmore (hmore (hlast _) _) _) _) _
  unfold render
  split
  · exact hsubscription
  · exact hrequest
  · exact hrequest

end OperationFunction

theorem holdsLiteral_of_functionOf {p : Project} (hnames : p.documents.WellNamed) {op : Operation}
    {f : OperationFunction} (h : p.functionOf op = .ok f) :
    HoldsLiteral f.render ("  const " ++ op.kind.keyword ++ " = ") f.literal
      ((fragmentClosure p.documents op.selections).map fragmentDocName)
      (printedLines "    " op.print ++ "  ".toList) := by
  obtain ⟨hkind, hblock⟩ := Project.functionOf_eq_ok h
  obtain ⟨before, after, hrender⟩ := f.render_eq
  have hreads := reads_operation_literal hblock fun n hn => isName_of_mem_fragmentClosure hnames hn
  have htext : f.render = before ++ ("  const " ++ op.kind.keyword ++ " = ") ++ "gql`" ++
      f.literal ++ "`\n" ++ after := by
    rw [hrender, f.documentText_eq, hkind]
    simp only [String.append_assoc]
  refine holdsLiteral_of_reads htext hreads ?_ (lastText_spaced_append _ _ _)
  rw [substitutions_append, substitutions_spaced, substitutions_chars, List.append_nil]

/-- The entry of a definition holds the document of that definition, and a module with the entry has
the constants that the document substitutes. -/
def ModuleEntry.HoldsDocument (p : Project) (m : ClientModule) : Definition → ModuleEntry → Prop
  | .operation op, .function f =>
    HoldsLiteral f.render ("  const " ++ op.kind.keyword ++ " = ") f.literal
      ((fragmentClosure p.documents op.selections).map fragmentDocName)
      (printedLines "    " op.print ++ "  ".toList) ∧
    ∀ n ∈ fragmentClosure p.documents op.selections, ∃ g ∈ m.constants, g.name = n
  | .fragment g, .constant g' =>
    g' = g ∧ HoldsLiteral g.renderConstant ("export const " ++ fragmentDocName g.name ++ " = ")
      g.literal [] (printedLines "  " g.print)
  | _, _ => False

theorem Fragment.holdsLiteral (f : Fragment) :
    HoldsLiteral f.renderConstant ("export const " ++ fragmentDocName f.name ++ " = ") f.literal []
      (printedLines "  " f.print) := by
  have htext : f.renderConstant = "" ++ ("export const " ++ fragmentDocName f.name ++ " = ") ++
      "gql`" ++ f.literal ++ "`\n" ++ "" := by
    have hopening : " = gql`\n" = " = " ++ ("gql`" ++ "\n") := rfl
    change "export const " ++ fragmentDocName f.name ++ " = gql`\n" ++
      indented "  " (templateText f.print) ++ "`\n" = _
    rw [Fragment.literal, hopening]
    simp only [String.append_assoc, String.empty_append, String.append_empty]
  exact holdsLiteral_of_reads htext (reads_fragment_literal f) (by simp) (by simp)

theorem Project.entries_holdDocument {p : Project} {m : ClientModule}
    (hnames : p.documents.WellNamed) (h : p.generate = .ok m) :
    List.Forall₂ (ModuleEntry.HoldsDocument p m) p.documents.definitions m.entries := by
  refine (Project.entries_of_generate h).imp fun definition entry hentry => ?_
  cases definition with
  | operation op =>
    obtain ⟨f, hf, rfl⟩ := map_eq_ok_iff.1 hentry
    refine ⟨holdsLiteral_of_functionOf hnames hf, fun n hn => ?_⟩
    rw [Project.constants_of_generate h]
    exact exists_fragment_of_mem_closure hn
  | fragment f =>
    obtain rfl := Except.ok.inj hentry
    exact ⟨rfl, f.holdsLiteral⟩

/-- The names in texts are read by the rules of the language, so a module that is made from texts
holds all of their documents. -/
theorem ClientModule.entries_holdDocument_of_ofTexts {schemaTexts documentTexts : List String}
    {settings : Settings} {m : ClientModule}
    (h : ClientModule.ofTexts schemaTexts documentTexts settings = .ok m) :
    ∃ schema documents, Schema.parse schemaTexts = .ok schema ∧
      DocumentSet.parse documentTexts = .ok documents ∧
      List.Forall₂ (ModuleEntry.HoldsDocument ⟨schema, documents, settings⟩ m)
        documents.definitions m.entries := by
  obtain ⟨schema, hschema, h⟩ := bind_eq_ok_iff.1 h
  obtain ⟨documents, hdocuments, hgenerate⟩ := bind_eq_ok_iff.1 h
  exact ⟨schema, documents, hschema, hdocuments,
    Project.entries_holdDocument (DocumentSet.wellNamed_of_parse hdocuments) hgenerate⟩

/-- In a module that was generated, every document literal ends at the backtick written for its
end, substitutes the constants of the fragments that its operation needs, all of which the module
has, and gives the printed definition back. Documents that were read have the names that this
needs. -/
theorem entries_hold_documents :
    (∀ texts documents, DocumentSet.parse texts = .ok documents → documents.WellNamed) ∧
    ∀ (p : Project) (m : ClientModule), p.documents.WellNamed → p.generate = .ok m →
      List.Forall₂ (ModuleEntry.HoldsDocument p m) p.documents.definitions m.entries :=
  ⟨fun _ _ => DocumentSet.wellNamed_of_parse, fun _ _ => Project.entries_holdDocument⟩

/-- A query whose argument holds a backtick, the start of a substitution and a backslash. -/
def quotedSearch : Project where
  schema := .ofDocuments []
  documents := { definitions := [
    .operation (.headed .query (some "find") [] []
      [.field ⟨none, "users", [("name", .string "`$\x7ba\x7d\\")], []⟩ [.spread "user_card" []],
        .field ⟨none, "total", [], []⟩ []]),
    .fragment ⟨"user_card", "User", [], [.field ⟨none, "id", [], []⟩ []]⟩] }
  settings := {}

def quotedSearchTexts : List String :=
  ["query find \x7b users(name: \"`$\x7ba\x7d\\\\\") \x7b ...user_card \x7d total \x7d",
    "fragment user_card on User \x7b id \x7d"]

theorem entries_hold_documents_of_quotedSearch :
    DocumentSet.parse quotedSearchTexts = .ok quotedSearch.documents ∧
      ∃ m, quotedSearch.generate = .ok m ∧
        List.Forall₂ (ModuleEntry.HoldsDocument quotedSearch m) quotedSearch.documents.definitions
          m.entries := by
  have hparse : DocumentSet.parse quotedSearchTexts = .ok quotedSearch.documents := by cbv
  have hnames := entries_hold_documents.1 _ _ hparse
  exact ⟨hparse, _, rfl, entries_hold_documents.2 quotedSearch _ hnames rfl⟩

end TypedClient
