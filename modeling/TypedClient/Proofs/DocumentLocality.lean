import TypedClient.Proofs.FragmentClosure.Reachability
import TypedClient.Proofs.Generation

/-!
# Which documents an operation depends on

Fragments are looked up among the definitions of all documents. An operation depends on no more of
them than the selections of the fragments that it reaches: two document sets that agree there give
the same closure, in the same order, and the same function. In particular documents that come later
change nothing for an earlier operation, unless they define a name that it reaches and that was
missing before.
-/

namespace TypedClient

/-! ## Document sets that agree -/

namespace DocumentSet

variable {d d' : DocumentSet}

/-- Every name that the selections reach in `d`, be it defined there or not, has no definition in
both sets, or first definitions with the same selections. -/
def AgreeBelow (d d' : DocumentSet) (selections : List Selection) : Prop :=
  ∀ name, Reaches d selections name →
    (d.fragment? name).map Fragment.selections = (d'.fragment? name).map Fragment.selections

theorem AgreeBelow.mono {inner outer : List Selection} (agree : d.AgreeBelow d' outer)
    (sub : ∀ n, Spreads inner n → Reaches d outer n) : d.AgreeBelow d' inner :=
  fun name h => agree name (h.mono sub)

theorem AgreeBelow.rest {selection : Selection} {rest : List Selection}
    (agree : d.AgreeBelow d' (selection :: rest)) : d.AgreeBelow d' rest :=
  agree.mono fun _ h => .direct (.rest h)

end DocumentSet

/-! ## The closure -/

namespace FragmentClosure

open DocumentSet (AgreeBelow)

/-- A walk goes the same way in a document set that agrees below its selections. The names in
`visiting` and `resolved` are the same in both, so cycles are cut at the same places. -/
theorem Walk.of_agree {d d' : DocumentSet} {visiting resolved resolved' : List String}
    {selections : List Selection} (walk : Walk d visiting selections resolved resolved')
    (agree : d.AgreeBelow d' selections) : Walk d' visiting selections resolved resolved' := by
  induction walk with
  | nil => exact .nil
  | field _ _ ihBelow ihAfter =>
    exact .field (ihBelow (agree.mono fun _ h => .direct (.field h))) (ihAfter agree.rest)
  | inline _ _ ihBelow ihAfter =>
    exact .inline (ihBelow (agree.mono fun _ h => .direct (.inline h))) (ihAfter agree.rest)
  | seen known _ ih => exact .seen known (ih agree.rest)
  | @undefined _ name _ _ _ _ missing _ ih =>
    have same := agree name (.direct .spread)
    rw [missing] at same
    exact .undefined (Option.map_eq_none_iff.1 same.symm) (ih agree.rest)
  | @expand _ name _ _ _ _ _ f fresh idle found _ _ ihBelow ihAfter =>
    have same := agree name (.direct .spread)
    rw [found] at same
    obtain ⟨g, found', hselections⟩ := Option.map_eq_some_iff.1 same.symm
    have below := ihBelow (agree.mono fun _ h => .through (.direct .spread) found h)
    rw [← hselections] at below
    exact .expand fresh idle found' below (ihAfter agree.rest)

theorem fragmentClosure_of_agree {d d' : DocumentSet} {selections : List Selection}
    (agree : d.AgreeBelow d' selections) :
    fragmentClosure d' selections = fragmentClosure d selections :=
  ((walk_fragmentClosure d selections).of_agree agree).visit_eq

end FragmentClosure

/-! ## Documents that come later -/

namespace DocumentSet

/-- The definitions of more documents behind those that are there. -/
def append (d : DocumentSet) (docs : List (List Definition)) : DocumentSet :=
  { definitions := d.definitions ++ docs.flatten }

/-- The documents define no name that the selections reach and that `d` leaves undefined. -/
def FillsNoGap (d : DocumentSet) (docs : List (List Definition)) (selections : List Selection) :
    Prop :=
  ∀ name, Reaches d selections name → d.fragment? name = none →
    ∀ f, .fragment f ∈ docs.flatten → f.name ≠ name

theorem fragment?_append (d : DocumentSet) (docs : List (List Definition)) (name : String) :
    (d.append docs).fragment? name =
      (d.fragment? name).or (DocumentSet.fragment? ⟨docs.flatten⟩ name) := by
  unfold fragment? fragments append
  rw [List.filterMap_append, List.find?_append]

theorem fragment?_eq_none_of_names {definitions : List Definition} {name : String}
    (h : ∀ f, .fragment f ∈ definitions → f.name ≠ name) :
    DocumentSet.fragment? ⟨definitions⟩ name = none := by
  refine List.find?_eq_none.2 fun f hf => ?_
  obtain ⟨definition, hmem, hdefinition⟩ := List.mem_filterMap.1 hf
  cases definition with
  | operation op => cases hdefinition
  | fragment g =>
    cases hdefinition
    simpa using h f hmem

/-- A first definition stays the first, and no missing one is supplied. -/
theorem FillsNoGap.agreeBelow {d : DocumentSet} {docs : List (List Definition)}
    {selections : List Selection} (h : d.FillsNoGap docs selections) :
    d.AgreeBelow (d.append docs) selections := by
  intro name reached
  rw [fragment?_append]
  cases found : d.fragment? name with
  | none => rw [fragment?_eq_none_of_names (h name reached found), Option.or_none]
  | some f => rw [Option.some_or]

end DocumentSet

/-! ## Functions and entries -/

namespace Project

variable {s : Schema} {c : Settings} {d d' : DocumentSet}

theorem functionOf_of_agree {op : Operation} (agree : d.AgreeBelow d' op.selections) :
    functionOf ⟨s, d', c⟩ op = functionOf ⟨s, d, c⟩ op :=
  functionOf_congr (fun _ => by cases op.convention <;> rfl) (fun _ => rfl)
    (FragmentClosure.fragmentClosure_of_agree agree)

theorem entryOf_of_agree {definition : Definition}
    (h : ∀ op, definition = .operation op → d.AgreeBelow d' op.selections) :
    entryOf ⟨s, d', c⟩ definition = entryOf ⟨s, d, c⟩ definition := by
  cases definition with
  | operation op =>
    show (functionOf _ op).map _ = (functionOf _ op).map _
    rw [functionOf_of_agree (h op rfl)]
  | fragment f => rfl

/-- The text of the entry of a definition, or why there is none. -/
def entryText (p : Project) (recorded : List String) (definition : Definition) :
    Except Error String :=
  ((p.entry definition).run.run recorded).1.map ModuleEntry.render

theorem entryText_eq (p : Project) (recorded : List String) (definition : Definition) :
    p.entryText recorded definition = (p.entryOf definition).map ModuleEntry.render := by
  rw [entryText, p.entry_gives definition recorded]

/-- The entries of the first definitions of a module, made with the definitions alone. -/
theorem entries_prefix {definitions more : List Definition} {p p' : Project}
    {entries : List ModuleEntry}
    (same : ∀ definition ∈ definitions, p'.entryOf definition = p.entryOf definition)
    (h : List.Forall₂ (fun definition entry => p'.entryOf definition = .ok entry)
      (definitions ++ more) entries) :
    ∃ first, List.Forall₂ (fun definition entry => p.entryOf definition = .ok entry)
      definitions first ∧ first <+: entries := by
  induction definitions generalizing entries with
  | nil => exact ⟨[], .nil, List.nil_prefix⟩
  | cons definition definitions ih =>
    obtain ⟨entry, rest, hentry, hrest, rfl⟩ := List.forall₂_cons_left_iff.1 h
    obtain ⟨first, hfirst, hprefix⟩ :=
      ih (fun x hx => same x (List.mem_cons_of_mem definition hx)) hrest
    rw [same definition List.mem_cons_self] at hentry
    exact ⟨entry :: first, .cons hentry hfirst, (List.prefix_cons_inj entry).2 hprefix⟩

/-- A module of more documents starts with the entries of the module without them. -/
theorem entries_prefix_of_generate {docs : List (List Definition)} {m' : ClientModule}
    (h : ∀ op ∈ d.operations, d.FillsNoGap docs op.selections)
    (hgenerate : generate ⟨s, d.append docs, c⟩ = .ok m') :
    ∃ m, generate ⟨s, d, c⟩ = .ok m ∧ m.entries <+: m'.entries := by
  have same : ∀ definition ∈ d.definitions,
      entryOf ⟨s, d.append docs, c⟩ definition = entryOf ⟨s, d, c⟩ definition := by
    intro definition hmem
    refine entryOf_of_agree fun op hop => (h op ?_).agreeBelow
    exact List.mem_filterMap.2 ⟨definition, hmem, by rw [hop]; rfl⟩
  obtain ⟨first, hfirst, hprefix⟩ := entries_prefix same (entries_of_generate hgenerate)
  obtain ⟨hvalid, inputShapes, hshapes, -⟩ := generate_eq_ok_iff.1 hgenerate
  refine ⟨_, generate_eq_ok_iff.2 ⟨hvalid, inputShapes, hshapes, first, ?_, rfl⟩, hprefix⟩
  exact mapM_eq_ok_iff.2 hfirst

end Project

/-! ## The laws -/

/-- What documents can and cannot change, for given schema and settings. -/
structure LocalityLaws (s : Schema) (c : Settings) (d : DocumentSet) : Prop where
  closure : ∀ d' selections, d.AgreeBelow d' selections →
    fragmentClosure d' selections = fragmentClosure d selections
  /-- The function, or the error, is the same, whatever was recorded before. -/
  function : ∀ d' op, d.AgreeBelow d' op.selections → ∀ recorded recorded',
    ((Project.function ⟨s, d', c⟩ op).run.run recorded').1 =
      ((Project.function ⟨s, d, c⟩ op).run.run recorded).1
  /-- Later documents leave the text of an entry as it is. -/
  later_entry : ∀ docs definition,
    (∀ op, definition = .operation op → d.FillsNoGap docs op.selections) → ∀ recorded recorded',
      Project.entryText ⟨s, d.append docs, c⟩ recorded' definition =
        Project.entryText ⟨s, d, c⟩ recorded definition
  later_module : ∀ docs m', (∀ op ∈ d.operations, d.FillsNoGap docs op.selections) →
    Project.generate ⟨s, d.append docs, c⟩ = .ok m' →
      ∃ m, Project.generate ⟨s, d, c⟩ = .ok m ∧
        m.entries.map ModuleEntry.render <+: m'.entries.map ModuleEntry.render

theorem documents_act_through_reachable_fragments (s : Schema) (c : Settings) (d : DocumentSet) :
    LocalityLaws s c d where
  closure _ _ agree := FragmentClosure.fragmentClosure_of_agree agree
  function d' op agree recorded recorded' := by
    rw [Project.function_gives ⟨s, d', c⟩ op recorded',
      Project.function_gives ⟨s, d, c⟩ op recorded]
    exact Project.functionOf_of_agree agree
  later_entry docs definition h recorded recorded' := by
    rw [Project.entryText_eq, Project.entryText_eq,
      Project.entryOf_of_agree fun op hop => (h op hop).agreeBelow]
  later_module docs m' h hgenerate := by
    obtain ⟨m, hm, hprefix⟩ := Project.entries_prefix_of_generate h hgenerate
    exact ⟨m, hm, hprefix.map _⟩

def cardsQuery : Operation :=
  .headed .query (some "cards") [] [] [.field ⟨none, "users", [], []⟩ [.spread "card" []]]

/-- A card and the list in it spread each other; the badge of a card has no definition. -/
def cardsWithoutBadge : DocumentSet where
  definitions := [
    .operation cardsQuery,
    .fragment ⟨"card", "User", [], [.field ⟨none, "team", [], []⟩ [.spread "list" []],
      .spread "badge" []]⟩,
    .fragment ⟨"list", "Team", [], [.inline none [] [.spread "card" []]]⟩]

/-- A second card, which spreads something new. -/
def laterCards : List (List Definition) :=
  [[.fragment ⟨"card", "User", [], [.spread "avatar" []]⟩],
    [.fragment ⟨"avatar", "User", [], [.field ⟨none, "id", [], []⟩ []]⟩]]

theorem documents_act_through_reachable_fragments_of_cards :
    cardsWithoutBadge.FillsNoGap laterCards cardsQuery.selections ∧
      fragmentClosure cardsWithoutBadge cardsQuery.selections = ["list", "card"] ∧
      ∀ s c recorded recorded',
        Project.entryText ⟨s, cardsWithoutBadge.append laterCards, c⟩ recorded'
            (.operation cardsQuery) =
          Project.entryText ⟨s, cardsWithoutBadge, c⟩ recorded (.operation cardsQuery) := by
  have reached : ∀ name, Reaches cardsWithoutBadge cardsQuery.selections name →
      name ∈ ["card", "list", "badge"] := by
    intro name h
    induction h with
    | @direct name h =>
      have hname : name = "card" := by simpa [cardsQuery, Operation.selections] using h
      simp [hname]
    | @through via name f _ found h ih =>
      simp only [List.mem_cons, List.not_mem_nil, or_false] at ih ⊢
      rcases ih with rfl | rfl | rfl
      · obtain rfl := Option.some.inj found
        exact .inr (by simpa using h)
      · obtain rfl := Option.some.inj found
        exact .inl (by simpa using h)
      · cases found
  have hgap : cardsWithoutBadge.FillsNoGap laterCards cardsQuery.selections := by
    intro name h missing f hf
    have hname := reached name h
    simp only [List.mem_cons, List.not_mem_nil, or_false] at hname
    rcases hname with rfl | rfl | rfl
    · cases missing
    · cases missing
    · simp only [laterCards, List.flatten_cons, List.flatten_nil, List.append_nil,
        List.cons_append, List.nil_append, List.mem_cons, List.not_mem_nil, or_false,
        Definition.fragment.injEq] at hf
      rcases hf with rfl | rfl
      · decide
      · decide
  refine ⟨hgap, by cbv, fun s c recorded recorded' => ?_⟩
  refine (documents_act_through_reachable_fragments s c cardsWithoutBadge).later_entry laterCards _
    (fun op hop => ?_) recorded recorded'
  cases hop
  exact hgap

end TypedClient
