import TypedClient.ClientModule
import TypedClient.Proofs.FirstFault
import TypedClient.Proofs.Names
import TypedClient.Proofs.TypeRefs

/-!
# Names that were read

The scanner makes name tokens of GraphQL names only, and the parsers take the names of definitions
from such tokens. So every fragment of a document set that was read has a GraphQL name, and so have
the variables of its operations, their types, and the fields that an operation selects.
-/

namespace TypedClient

namespace Token

/-- Every name token holds a GraphQL name. -/
def NamesValid (ts : List Token) : Prop :=
  ∀ s, Token.name s ∈ ts → isName s = true

theorem NamesValid.tail {t : Token} {ts : List Token} (h : NamesValid (t :: ts)) : NamesValid ts :=
  fun s hs => h s (List.mem_cons_of_mem t hs)

theorem isName_takeWhile {c : Char} (h : isNameStart c = true) (cs : List Char) :
    isName (String.ofList (c :: cs.takeWhile isNameChar)) = true := by
  simp only [isName, String.toList_ofList, h, Bool.true_and]
  exact List.all_takeWhile

theorem not_name_of_number {cs : List Char} {t : Token} (h : NumberLiteral.token? cs = some t)
    (s : String) : t ≠ .name s := by
  rintro rfl
  unfold NumberLiteral.token? at h
  split at h
  · obtain ⟨x, _, hx⟩ := Option.map_eq_some_iff.1 h
    cases hx
  · obtain ⟨n, _, hn⟩ := Option.map_eq_some_iff.1 h
    cases hn

theorem not_name_of_scanString {cs rest : List Char} {t : Token}
    (h : scanString cs = .ok (t, rest)) (s : String) : t ≠ .name s := by
  rintro rfl
  unfold scanString at h
  split at h
  · split at h
    · cases h
    · cases h
  · split at h
    · split at h
      · cases h
      · cases h
    · cases h

theorem not_name_of_punctuator {c : Char} {t : Token} (h : punctuator? c = some t) (s : String) :
    t ≠ .name s := by
  rintro rfl
  unfold punctuator? at h
  split at h <;> simp at h

theorem isName_of_scanOne {c : Char} {cs rest : List Char} {s : String}
    (h : scanOne c cs = .ok (.name s, rest)) : isName s = true := by
  unfold scanOne at h
  split at h
  · rename_i hpunctuator
    obtain ⟨rfl, _⟩ := Prod.mk.inj (Except.ok.inj h)
    exact absurd rfl (not_name_of_punctuator hpunctuator s)
  · split at h
    · rename_i hstart
      obtain ⟨hname, _⟩ := Prod.mk.inj (Except.ok.inj h)
      exact Token.name.inj hname ▸ isName_takeWhile hstart cs
    · split at h
      · simp only at h
        split at h
        · rename_i hnumber
          obtain ⟨rfl, _⟩ := Prod.mk.inj (Except.ok.inj h)
          exact absurd rfl (not_name_of_number hnumber s)
        · cases h
      · split at h
        · exact absurd rfl (not_name_of_scanString h s)
        · split at h
          · cases h
          · cases h

theorem namesValid_of_scan {cs : List Char} {ts : List Token} (h : scan cs = .ok ts) :
    NamesValid ts := by
  induction cs using scan.induct generalizing ts with
  | case1 =>
    rw [scan] at h
    cases h
    nofun
  | case2 c cs hignored ih =>
    rw [scan, if_pos hignored] at h
    exact ih h
  | case3 c cs hignored hcomment ih =>
    rw [scan, if_neg hignored, if_pos hcomment] at h
    exact ih h
  | case4 c cs hignored hcomment t rest hone hlength ih =>
    rw [scan, if_neg hignored, if_neg hcomment] at h
    split at h
    · rename_i t' rest' hone'
      obtain ⟨rfl, rfl⟩ := Prod.mk.inj (Except.ok.inj (hone.symm.trans hone'))
      obtain ⟨ts', hrest, rfl⟩ := map_eq_ok_iff.1 h
      intro s hs
      rcases List.mem_cons.1 hs with rfl | hs
      · exact isName_of_scanOne hone
      · exact ih hrest s hs
    · cases h
  | case5 c cs hignored hcomment e hone =>
    rw [scan, if_neg hignored, if_neg hcomment] at h
    split at h
    · rename_i hok
      rw [hone] at hok
      cases hok
    · cases h

end Token

/-! ## Well-named definitions -/

/-- A field stands in the response under a GraphQL name. -/
def Selection.WellNamed : Selection → Prop
  | .field head _ => isName head.responseName = true
  | .spread .. | .inline .. => True

structure VariableDefinition.WellNamed (v : VariableDefinition) : Prop where
  name : isName v.name = true
  type : isName v.type.innermost = true

structure Operation.WellNamed (op : Operation) : Prop where
  vars : ∀ v ∈ op.variableDefinitions, v.WellNamed
  selections : ∀ s ∈ op.selections, s.WellNamed

def Definition.WellNamed : Definition → Prop
  | .operation op => op.WellNamed
  | .fragment f => isName f.name = true

/-! ## Parsers -/

namespace Parser

variable {α β : Type} {post : α → Prop} {more : β → Prop}

/-- From tokens with valid names, `p` leaves such tokens and a result that satisfies `post`. -/
def Ensures (p : Parser α) (post : α → Prop) : Prop :=
  ∀ ts a rest, Token.NamesValid ts → p ts = .ok (a, rest) → Token.NamesValid rest ∧ post a

/-- A parser about whose result nothing is said. -/
abbrev KeepsNames (p : Parser α) : Prop :=
  Ensures p fun _ => True

theorem Ensures.pure {a : α} (h : post a) : Ensures (Pure.pure a) post := by
  intro ts a' rest hts heq
  obtain ⟨rfl, rfl⟩ := Prod.mk.inj (Except.ok.inj heq)
  exact ⟨hts, h⟩

theorem keepsNames_pure (a : α) : KeepsNames (Pure.pure a) :=
  .pure trivial

theorem Ensures.keepsNames {p : Parser α} (h : Ensures p post) : KeepsNames p :=
  fun ts a rest hts heq => ⟨(h ts a rest hts heq).1, trivial⟩

theorem Ensures.bind {p : Parser α} {f : α → Parser β} (hp : Ensures p post)
    (hf : ∀ a, post a → Ensures (f a) more) : Ensures (p >>= f) more := by
  intro ts b rest hts heq
  change (p ts >>= fun r => f r.1 r.2) = _ at heq
  obtain ⟨⟨a, middle⟩, hfirst, hsecond⟩ := bind_eq_ok_iff.1 heq
  obtain ⟨hmiddle, ha⟩ := hp ts a middle hts hfirst
  exact hf a ha middle b rest hmiddle hsecond

theorem ensures_fail : Ensures (fail : Parser α) post := by
  intro ts a rest _ heq
  cases ts with
  | nil => cases heq
  | cons t ts => cases heq

theorem keepsNames_peek? : KeepsNames peek? := by
  intro ts a rest hts heq
  obtain ⟨_, rfl⟩ := Prod.mk.inj (Except.ok.inj heq)
  exact ⟨hts, trivial⟩

theorem keepsNames_accept (t : Token) : KeepsNames (accept t) := by
  intro ts a rest hts heq
  cases ts with
  | nil =>
    obtain ⟨_, rfl⟩ := Prod.mk.inj (Except.ok.inj heq)
    exact ⟨hts, trivial⟩
  | cons u ts =>
    change (if u = t then (do set ts; return true : Parser Bool) else return false) (u :: ts) = _
      at heq
    split at heq
    · obtain ⟨_, rfl⟩ := Prod.mk.inj (Except.ok.inj heq)
      exact ⟨hts.tail, trivial⟩
    · obtain ⟨_, rfl⟩ := Prod.mk.inj (Except.ok.inj heq)
      exact ⟨hts, trivial⟩

theorem keepsNames_expect (t : Token) : KeepsNames (expect t) := by
  refine (keepsNames_accept t).bind fun accepted _ => ?_
  cases accepted with
  | true => exact keepsNames_pure _
  | false => exact ensures_fail

theorem ensures_name : Ensures name (isName · = true) := by
  intro ts a rest hts heq
  cases ts with
  | nil => cases heq
  | cons t ts =>
    cases t with
    | name s =>
      obtain ⟨rfl, rfl⟩ := Prod.mk.inj (Except.ok.inj heq)
      exact ⟨hts.tail, hts s List.mem_cons_self⟩
    | _ => cases heq

theorem ensures_manyWhile {continues : Token → Bool} {item : Parser α} (h : Ensures item post) :
    Ensures (manyWhile continues item) fun as => ∀ a ∈ as, post a := by
  intro ts as rest hts heq
  -- The tokens that are left after an item are valid again, which carries the induction.
  fun_induction manyWhile continues item ts generalizing as rest with
  | case1 =>
    obtain ⟨rfl, rfl⟩ := Prod.mk.inj (Except.ok.inj heq)
    exact ⟨hts, nofun⟩
  | case2 t ts hcontinues e hitem => cases heq
  | case3 t ts hcontinues a middle hitem hlength as' rest' hrest ih =>
    obtain ⟨rfl, rfl⟩ := Prod.mk.inj (Except.ok.inj heq)
    obtain ⟨hmiddle, ha⟩ := h _ _ _ hts hitem
    obtain ⟨hrest', has⟩ := ih _ _ hmiddle hrest
    exact ⟨hrest', List.forall_mem_cons.2 ⟨ha, has⟩⟩
  | case4 => cases heq
  | case5 => cases heq
  | case6 t ts hcontinues =>
    obtain ⟨rfl, rfl⟩ := Prod.mk.inj (Except.ok.inj heq)
    exact ⟨hts, nofun⟩

theorem KeepsNames.manyWhile {item : Parser α} (h : KeepsNames item) (continues : Token → Bool) :
    KeepsNames (manyWhile continues item) :=
  (ensures_manyWhile h).keepsNames

theorem ensures_enclosedSome {item : Parser α} (h : Ensures item post) (b : Bracket) :
    Ensures (enclosedSome b item) fun as => ∀ a ∈ as, post a := by
  refine (keepsNames_expect _).bind fun _ _ => h.bind fun first hfirst => ?_
  refine (ensures_manyWhile h).bind fun rest hrest => ?_
  exact (keepsNames_expect _).bind fun _ _ => .pure (List.forall_mem_cons.2 ⟨hfirst, hrest⟩)

theorem KeepsNames.enclosed {item : Parser α} (h : KeepsNames item) (b : Bracket) :
    KeepsNames (enclosed b item) := by
  refine (keepsNames_expect _).bind fun _ _ => (h.manyWhile _).bind fun _ _ => ?_
  exact (keepsNames_expect _).bind fun _ _ => keepsNames_pure _

theorem ensures_ifOpening {p : Parser (List α)} {all : List α → Prop} (h : Ensures p all)
    (hnil : all []) (b : Bracket) : Ensures (ifOpening b p) all := by
  refine keepsNames_peek?.bind fun t _ => ?_
  split
  · exact h
  · exact .pure hnil

theorem ensures_named {p : Parser α} (h : Ensures p post) :
    Ensures (named p) fun r => isName r.1 = true ∧ post r.2 := by
  refine ensures_name.bind fun n hn => (keepsNames_expect _).bind fun _ _ => ?_
  exact h.bind fun a ha => .pure ⟨hn, ha⟩

theorem ensures_deeper {p : Nat → Parser α} (h : ∀ d, Ensures (p d) post) (depth : Nat) :
    Ensures (deeper depth p) post := by
  cases depth with
  | zero => exact ensures_fail
  | succ d => exact h d

theorem ensures_marked {t : TypeRef} (h : isName t.innermost = true) :
    Ensures (typeRef.marked t) (isName ·.innermost = true) := by
  refine (keepsNames_accept _).bind fun accepted _ => ?_
  cases accepted with
  | true => exact .pure h
  | false => exact .pure h

theorem ensures_typeRef (depth : Nat) : Ensures (typeRef depth) (isName ·.innermost = true) := by
  have hnamed : Ensures (do typeRef.marked (.named (← name))) (isName ·.innermost = true) :=
    ensures_name.bind fun n hn => ensures_marked hn
  induction depth with
  | zero => exact hnamed
  | succ depth ih =>
    refine (keepsNames_accept _).bind fun accepted _ => ?_
    cases accepted with
    | true =>
      refine ih.bind fun item hitem => (keepsNames_expect _).bind fun _ _ => ?_
      exact ensures_marked hitem
    | false => exact hnamed

theorem keepsNames_simpleValue (constant : Bool) : KeepsNames (simpleValue constant) := by
  intro ts a rest hts heq
  cases ts with
  | nil => cases heq
  | cons t ts =>
    cases t with
    | int n => exact keepsNames_pure _ ts a rest hts.tail heq
    | float x => exact keepsNames_pure _ ts a rest hts.tail heq
    | string s => exact keepsNames_pure _ ts a rest hts.tail heq
    | name s =>
      have hword : KeepsNames (if s = "true" then pure (.boolean true)
          else if s = "false" then pure (.boolean false)
          else if s = "null" then pure .null
          else pure (.enum s) : Parser Value) := by
        split
        · exact keepsNames_pure _
        · split
          · exact keepsNames_pure _
          · split <;> exact keepsNames_pure _
      exact hword ts a rest hts.tail heq
    | dollar =>
      cases constant with
      | true => cases heq
      | false => exact (ensures_name.bind fun _ _ => keepsNames_pure _) ts a rest hts.tail heq
    | _ => cases heq

theorem keepsNames_value (constant : Bool) (depth : Nat) : KeepsNames (value constant depth) := by
  induction depth with
  | zero => exact keepsNames_simpleValue constant
  | succ depth ih =>
    refine keepsNames_peek?.bind fun t _ => ?_
    split
    · exact (ih.enclosed _).bind fun _ _ => keepsNames_pure _
    · exact ((ensures_named ih).keepsNames.enclosed _).bind fun _ _ => keepsNames_pure _
    · exact keepsNames_simpleValue constant

theorem keepsNames_default? (depth : Nat) : KeepsNames (default? depth) := by
  refine (keepsNames_accept _).bind fun accepted _ => ?_
  cases accepted with
  | true => exact (keepsNames_value true depth).bind fun _ _ => keepsNames_pure _
  | false => exact keepsNames_pure _

theorem keepsNames_arguments (depth : Nat) : KeepsNames (arguments depth) := by
  refine ensures_ifOpening (ensures_deeper (fun d => ?_) depth) trivial _
  exact (ensures_enclosedSome (ensures_named (keepsNames_value false d)) _).keepsNames

theorem keepsNames_directives (depth : Nat) : KeepsNames (directives depth) := by
  refine KeepsNames.manyWhile ?_ _
  refine (keepsNames_expect _).bind fun _ _ => ensures_name.bind fun _ _ => ?_
  exact (keepsNames_arguments depth).bind fun _ _ => keepsNames_pure _

theorem ensures_selection {nested : Parser (List Selection)} (h : KeepsNames nested)
    (depth : Nat) : Ensures (selection depth nested) Selection.WellNamed := by
  have hdirectives := keepsNames_directives depth
  have hbelow : KeepsNames (ifOpening .curly nested) := ensures_ifOpening h trivial _
  refine (keepsNames_accept _).bind fun spread _ => ?_
  cases spread with
  | true =>
    refine keepsNames_peek?.bind fun t _ => ?_
    split
    · split
      · refine ensures_name.bind fun _ _ => ensures_name.bind fun _ _ => ?_
        exact hdirectives.bind fun _ _ => h.bind fun _ _ => .pure trivial
      · exact ensures_name.bind fun _ _ => hdirectives.bind fun _ _ => .pure trivial
    · exact hdirectives.bind fun _ _ => h.bind fun _ _ => .pure trivial
  | false =>
    -- The first name is the one in the response, whether or not another one follows.
    refine ensures_name.bind fun first hfirst => (keepsNames_accept _).bind fun renamed _ => ?_
    cases renamed with
    | true =>
      refine ensures_name.bind fun _ _ => (keepsNames_arguments depth).bind fun _ _ => ?_
      exact hdirectives.bind fun _ _ => hbelow.bind fun _ _ => .pure hfirst
    | false =>
      have hname : Ensures (Pure.pure first) (isName · = true) := .pure hfirst
      refine hname.bind fun n hn => (keepsNames_arguments depth).bind fun _ _ => ?_
      exact hdirectives.bind fun _ _ => hbelow.bind fun _ _ => .pure hn

theorem ensures_selections (depth : Nat) :
    Ensures (selections depth) fun ss => ∀ s ∈ ss, s.WellNamed := by
  induction depth with
  | zero => exact ensures_fail
  | succ depth ih => exact ensures_enclosedSome (ensures_selection ih.keepsNames depth) _

theorem ensures_variableDefinition (depth : Nat) :
    Ensures (variableDefinition depth) VariableDefinition.WellNamed := by
  refine (keepsNames_expect _).bind fun _ _ => ?_
  refine (ensures_named (ensures_typeRef depth)).bind fun r hr => ?_
  exact (keepsNames_default? depth).bind fun _ _ => .pure ⟨hr.1, hr.2⟩

theorem keepsNames_operationName? : KeepsNames operationName? := by
  refine keepsNames_peek?.bind fun t _ => ?_
  split
  · exact ensures_name.bind fun _ _ => keepsNames_pure _
  · exact keepsNames_pure _

theorem ensures_headedOperation (kind : OperationKind) :
    Ensures (headedOperation kind) Operation.WellNamed := by
  have hvariables := ensures_ifOpening
    (ensures_deeper (fun d => ensures_enclosedSome (ensures_variableDefinition d) .round) nesting)
    (by simp) .round
  refine ensures_name.bind fun _ _ => keepsNames_operationName?.bind fun _ _ => ?_
  refine hvariables.bind fun vars hvars => (keepsNames_directives nesting).bind fun _ _ => ?_
  exact (ensures_selections nesting).bind fun ss hss => .pure ⟨hvars, hss⟩

theorem ensures_fragment : Ensures fragment (isName ·.name = true) := by
  refine (keepsNames_expect _).bind fun _ _ => ensures_name.bind fun name hname => ?_
  refine (keepsNames_expect _).bind fun _ _ => ensures_name.bind fun _ _ => ?_
  refine (keepsNames_directives nesting).bind fun _ _ => ?_
  exact (ensures_selections nesting).bind fun _ _ => .pure hname

theorem ensures_definition : Ensures definition Definition.WellNamed := by
  refine keepsNames_peek?.bind fun t _ => ?_
  have hheaded (kind : OperationKind) :
      Ensures (do return .operation (← headedOperation kind)) Definition.WellNamed :=
    (ensures_headedOperation kind).bind fun _ hop => .pure hop
  split
  · exact (ensures_selections nesting).bind fun ss hss => .pure ⟨nofun, hss⟩
  · split
    · exact hheaded .query
    · split
      · exact hheaded .mutation
      · split
        · exact hheaded .subscription
        · exact ensures_fragment.bind fun f hf => .pure hf
  · exact ensures_fail

theorem Ensures.toEnd {item : Parser α} (h : Ensures item post) :
    Ensures (toEnd item) fun as => ∀ a ∈ as, post a := by
  refine h.bind fun first hfirst => (ensures_manyWhile h).bind fun rest hrest => .pure ?_
  exact List.forall_mem_cons.2 ⟨hfirst, hrest⟩

theorem Ensures.run {p : Parser α} (h : Ensures p post) {text : String} {a : α}
    (heq : p.run text = .ok a) : post a := by
  obtain ⟨ts, hscan, hread⟩ := bind_eq_ok_iff.1 heq
  obtain ⟨⟨a', rest⟩, hp, ha⟩ := bind_eq_ok_iff.1 hread
  obtain rfl := Except.ok.inj ha
  exact (h ts a' rest (Token.namesValid_of_scan hscan) hp).2

end Parser

theorem Definition.wellNamed_of_parse {texts : List String} {d : DocumentSet}
    (h : DocumentSet.parse texts = .ok d) {definition : Definition}
    (hmem : definition ∈ d.definitions) : definition.WellNamed := by
  obtain ⟨docs, hdocs, hd⟩ := bind_eq_ok_iff.1 h
  obtain rfl := Except.ok.inj hd
  obtain ⟨doc, hdoc, hdefinition⟩ := List.mem_flatten.1 hmem
  -- A definition of the set was read from one of the texts.
  obtain ⟨text, -, hparse⟩ := exists_mem_of_forall₂ (mapM_eq_ok_iff.1 hdocs) hdoc
  rw [mapError_eq_ok_iff] at hparse
  exact Parser.ensures_definition.toEnd.run hparse definition hdefinition

/-- Every fragment has a GraphQL name. -/
def DocumentSet.WellNamed (d : DocumentSet) : Prop :=
  ∀ f ∈ d.fragments, isName f.name = true

theorem DocumentSet.wellNamed_of_parse {texts : List String} {d : DocumentSet}
    (h : DocumentSet.parse texts = .ok d) : d.WellNamed := by
  intro f hf
  obtain ⟨definition, hmem, hfragment⟩ := List.mem_filterMap.1 hf
  have hnamed := Definition.wellNamed_of_parse h hmem
  cases definition with
  | operation op => cases hfragment
  | fragment g =>
    cases hfragment
    exact hnamed

theorem Operation.wellNamed_of_parse {texts : List String} {d : DocumentSet}
    (h : DocumentSet.parse texts = .ok d) {op : Operation} (hop : op ∈ d.operations) :
    op.WellNamed := by
  obtain ⟨definition, hmem, hoperation⟩ := List.mem_filterMap.1 hop
  have hnamed := Definition.wellNamed_of_parse h hmem
  cases definition with
  | operation op' =>
    cases hoperation
    exact hnamed
  | fragment g => cases hoperation

end TypedClient
