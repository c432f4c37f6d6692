import TypedClient.Proofs.FragmentClosure.Walk

/-!
# Reachable fragments

The graph that the fragments of a document set form, cycles, repeated definitions and missing
definitions included, and which of them a selection set reaches. The closure lists exactly the
defined names that are reachable, each once, and spreads of undefined names make no difference to
it.

The invariant of the search is `ClosedUpTo`: whatever a listed fragment spreads is listed too, is
still being walked, or is not defined.
-/

namespace TypedClient

/-- A spread of the name stands in the selections, at any depth below fields and inline
fragments. -/
inductive Spreads : List Selection → String → Prop where
  | spread {name directives rest} : Spreads (.spread name directives :: rest) name
  | field {head inner rest name} (h : Spreads inner name) :
      Spreads (.field head inner :: rest) name
  | inline {condition directives inner rest name} (h : Spreads inner name) :
      Spreads (.inline condition directives inner :: rest) name
  | rest {selection rest name} (h : Spreads rest name) : Spreads (selection :: rest) name

namespace Spreads

variable {rest inner : List Selection} {name : String}

@[simp] theorem nil_iff : Spreads [] name ↔ False :=
  ⟨nofun, nofun⟩

@[simp] theorem field_iff {head : FieldHead} :
    Spreads (.field head inner :: rest) name ↔ Spreads inner name ∨ Spreads rest name := by
  constructor
  · intro h
    cases h with
    | field h => exact .inl h
    | rest h => exact .inr h
  · rintro (h | h)
    · exact .field h
    · exact .rest h

@[simp] theorem inline_iff {condition : Option String} {directives : List Directive} :
    Spreads (.inline condition directives inner :: rest) name ↔
      Spreads inner name ∨ Spreads rest name := by
  constructor
  · intro h
    cases h with
    | inline h => exact .inl h
    | rest h => exact .inr h
  · rintro (h | h)
    · exact .inline h
    · exact .rest h

@[simp] theorem spread_iff {other : String} {directives : List Directive} :
    Spreads (.spread other directives :: rest) name ↔ name = other ∨ Spreads rest name := by
  constructor
  · intro h
    cases h with
    | spread => exact .inl rfl
    | rest h => exact .inr h
  · rintro (rfl | h)
    · exact .spread
    · exact .rest h

end Spreads

/-- The names that can be reached from the selections: those that they spread, and those that the
first definition of a reachable name spreads. -/
inductive Reaches (d : DocumentSet) (selections : List Selection) : String → Prop where
  | direct {name} (h : Spreads selections name) : Reaches d selections name
  | through {via name f} (reached : Reaches d selections via) (found : d.fragment? via = some f)
      (h : Spreads f.selections name) : Reaches d selections name

/-- What is reachable from selections is reachable from wherever all their spreads are. -/
theorem Reaches.mono {d : DocumentSet} {inner outer : List Selection} {name : String}
    (h : Reaches d inner name) (sub : ∀ n, Spreads inner n → Reaches d outer n) :
    Reaches d outer name := by
  induction h with
  | direct h => exact sub _ h
  | through _ found h ih => exact .through ih found h

theorem Reaches.rest {d : DocumentSet} {selection : Selection} {rest : List Selection}
    {name : String} (h : Reaches d rest name) : Reaches d (selection :: rest) name :=
  h.mono fun _ hn => .direct (.rest hn)

namespace FragmentClosure

variable {d : DocumentSet} {visiting resolved resolved' : List String}
  {selections : List Selection}

/-! ## Only reachable fragments are listed -/

/-- What a walk adds to the list is defined and reachable from the selections it goes over. -/
theorem Walk.reaches (walk : Walk d visiting selections resolved resolved') {name : String}
    (h : name ∈ resolved') :
    name ∈ resolved ∨ (d.fragment? name).isSome ∧ Reaches d selections name := by
  induction walk with
  | nil => exact .inl h
  | field _ _ ihBelow ihAfter =>
    rcases ihAfter h with h | ⟨defined, reached⟩
    · rcases ihBelow h with h | ⟨defined, reached⟩
      · exact .inl h
      · exact .inr ⟨defined, reached.mono fun _ hn => .direct (.field hn)⟩
    · exact .inr ⟨defined, reached.rest⟩
  | inline _ _ ihBelow ihAfter =>
    rcases ihAfter h with h | ⟨defined, reached⟩
    · rcases ihBelow h with h | ⟨defined, reached⟩
      · exact .inl h
      · exact .inr ⟨defined, reached.mono fun _ hn => .direct (.inline hn)⟩
    · exact .inr ⟨defined, reached.rest⟩
  | seen _ _ ih | undefined _ _ ih =>
    exact (ih h).imp id fun ⟨defined, reached⟩ => ⟨defined, reached.rest⟩
  | expand _ _ found _ _ ihBelow ihAfter =>
    rcases ihAfter h with h | ⟨defined, reached⟩
    · rw [List.mem_append, List.mem_singleton] at h
      rcases h with h | rfl
      · rcases ihBelow h with h | ⟨defined, reached⟩
        · exact .inl h
        · refine .inr ⟨defined, reached.mono fun _ hn => ?_⟩
          exact .through (.direct .spread) found hn
      · exact .inr ⟨by rw [found]; rfl, .direct .spread⟩
    · exact .inr ⟨defined, reached.rest⟩

/-! ## No reachable fragment is lost -/

/-- Whatever a listed fragment spreads is listed, is being walked, or is not defined. -/
def ClosedUpTo (d : DocumentSet) (visiting resolved : List String) : Prop :=
  ∀ name ∈ resolved, ∀ f, d.fragment? name = some f → ∀ n, Spreads f.selections n →
    (d.fragment? n).isSome → n ∈ resolved ∨ n ∈ visiting

/-- Every defined fragment that the selections spread is listed after the walk, or its own walk is
still going on. -/
theorem Walk.covers (walk : Walk d visiting selections resolved resolved') {name : String}
    (h : Spreads selections name) (defined : (d.fragment? name).isSome) :
    name ∈ resolved' ∨ name ∈ visiting := by
  induction walk with
  | nil => cases h
  | field _ after ihBelow ihAfter =>
    cases h with
    | field h => exact (ihBelow h).imp after.mem_of_mem id
    | rest h => exact ihAfter h
  | inline _ after ihBelow ihAfter =>
    cases h with
    | inline h => exact (ihBelow h).imp after.mem_of_mem id
    | rest h => exact ihAfter h
  | seen known after ih =>
    cases h with
    | spread => exact known.imp after.mem_of_mem id
    | rest h => exact ih h
  | undefined missing _ ih =>
    cases h with
    | spread => simp [missing] at defined
    | rest h => exact ih h
  | expand _ _ _ _ after _ ihAfter =>
    cases h with
    | spread => exact .inl (after.mem_of_mem (by simp))
    | rest h => exact ihAfter h

/-- A walk keeps the invariant. When a fragment has been walked it leaves `visiting`, and it is
listed at that very moment, so what was skipped on its account is not lost. -/
theorem Walk.closedUpTo (walk : Walk d visiting selections resolved resolved')
    (h : ClosedUpTo d visiting resolved) : ClosedUpTo d visiting resolved' := by
  induction walk with
  | nil => exact h
  | field _ _ ihBelow ihAfter | inline _ _ ihBelow ihAfter => exact ihAfter (ihBelow h)
  | seen _ _ ih | undefined _ _ ih => exact ih h
  | @expand visiting name _ _ _ between _ f fresh idle found below _ ihBelow ihAfter =>
    have hbelow : ClosedUpTo d (name :: visiting) between := by
      refine ihBelow fun m hm g hg n hn defined => ?_
      exact (h m hm g hg n hn defined).imp id (List.mem_cons_of_mem _)
    have settle : ∀ n, n ∈ between ∨ n ∈ name :: visiting →
        n ∈ between ++ [name] ∨ n ∈ visiting := by
      intro n hn
      rw [List.mem_cons] at hn
      rcases hn with hn | rfl | hn
      · exact .inl (List.mem_append_left _ hn)
      · exact .inl (by simp)
      · exact .inr hn
    refine ihAfter fun m hm g hg n hn defined => ?_
    rw [List.mem_append, List.mem_singleton] at hm
    rcases hm with hm | rfl
    · exact settle n (hbelow m hm g hg n hn defined)
    · rw [found] at hg
      cases hg
      exact settle n (below.covers hn defined)

/-- Nothing is being walked at the end, so the list of the closure is closed outright. -/
theorem closedUpTo_fragmentClosure (d : DocumentSet) (selections : List Selection) :
    ClosedUpTo d [] (fragmentClosure d selections) :=
  (walk_fragmentClosure d selections).closedUpTo fun m hm => by simp at hm

theorem mem_fragmentClosure_of_reaches {name : String} (h : Reaches d selections name)
    (defined : (d.fragment? name).isSome) : name ∈ fragmentClosure d selections := by
  induction h with
  | direct h => simpa using (walk_fragmentClosure d selections).covers h defined
  | through _ found h ih =>
    have via := ih (by rw [found]; rfl)
    simpa using closedUpTo_fragmentClosure d selections _ via _ found _ h defined

theorem mem_fragmentClosure {name : String} :
    name ∈ fragmentClosure d selections ↔
      (d.fragment? name).isSome ∧ Reaches d selections name := by
  constructor
  · intro h
    simpa using (walk_fragmentClosure d selections).reaches h
  · rintro ⟨defined, reached⟩
    exact mem_fragmentClosure_of_reaches reached defined

theorem nodup_fragmentClosure (d : DocumentSet) (selections : List Selection) :
    (fragmentClosure d selections).Nodup :=
  (walk_fragmentClosure d selections).nodup List.nodup_nil

end FragmentClosure

/-! ## Spreads of undefined names -/

mutual

/-- A selection, or nothing for the spread of a name that no fragment has. -/
def Selection.keepDefined (d : DocumentSet) : Selection → List Selection
  | .field head inner => [.field head (keepDefined d inner)]
  | .inline condition directives inner => [.inline condition directives (keepDefined d inner)]
  | .spread name directives =>
    if (d.fragment? name).isSome then [.spread name directives] else []

/-- The selections without the spreads of names that no fragment has, at any depth. -/
def keepDefined (d : DocumentSet) : List Selection → List Selection
  | [] => []
  | s :: rest => s.keepDefined d ++ keepDefined d rest

end

def Fragment.keepDefined (d : DocumentSet) (f : Fragment) : Fragment :=
  { f with selections := TypedClient.keepDefined d f.selections }

def Definition.keepDefined (d : DocumentSet) : Definition → Definition
  | .operation op => .operation op
  | .fragment f => .fragment (f.keepDefined d)

/-- The documents with no spread of an undefined name left in any fragment. -/
def DocumentSet.keepDefined (d : DocumentSet) : DocumentSet :=
  { definitions := d.definitions.map (Definition.keepDefined d) }

theorem DocumentSet.fragments_keepDefined (d : DocumentSet) :
    d.keepDefined.fragments = d.fragments.map (Fragment.keepDefined d) := by
  unfold fragments DocumentSet.keepDefined
  rw [List.filterMap_map, List.map_filterMap]
  congr 1
  funext x
  cases x <;> rfl

theorem DocumentSet.fragment?_keepDefined (d : DocumentSet) (name : String) :
    d.keepDefined.fragment? name = (d.fragment? name).map (Fragment.keepDefined d) := by
  unfold fragment?
  rw [fragments_keepDefined, List.find?_map]
  rfl

namespace FragmentClosure

theorem Walk.keepDefined {d : DocumentSet} {visiting resolved resolved' : List String}
    {selections : List Selection} (walk : Walk d visiting selections resolved resolved') :
    Walk d.keepDefined visiting (keepDefined d selections) resolved resolved' := by
  induction walk with
  | nil =>
    rw [TypedClient.keepDefined]
    exact .nil
  | field _ _ ihBelow ihAfter =>
    rw [TypedClient.keepDefined, Selection.keepDefined]
    exact .field ihBelow ihAfter
  | inline _ _ ihBelow ihAfter =>
    rw [TypedClient.keepDefined, Selection.keepDefined]
    exact .inline ihBelow ihAfter
  | seen known _ ih =>
    rw [TypedClient.keepDefined, Selection.keepDefined]
    split
    · exact .seen known ih
    · exact ih
  | undefined missing _ ih =>
    rw [TypedClient.keepDefined, Selection.keepDefined, if_neg (by simp [missing])]
    exact ih
  | @expand _ name _ _ _ _ _ f fresh idle found _ _ ihBelow ihAfter =>
    have found' : d.keepDefined.fragment? name = some (f.keepDefined d) := by
      rw [DocumentSet.fragment?_keepDefined, found]
      rfl
    rw [TypedClient.keepDefined, Selection.keepDefined, if_pos (by simp [found])]
    exact .expand fresh idle found' ihBelow ihAfter

theorem fragmentClosure_keepDefined (d : DocumentSet) (selections : List Selection) :
    fragmentClosure d.keepDefined (keepDefined d selections) = fragmentClosure d selections :=
  (walk_fragmentClosure d selections).keepDefined.visit_eq

end FragmentClosure

/-! ## The closure -/

/-- The closure is the list of the defined names that are reachable, each once. Spreads of
undefined names, wherever they stand in the selections or in a fragment, can all be left out
without a change to the list, its order included. -/
theorem fragmentClosure_lists_reachable (d : DocumentSet) (selections : List Selection) :
    (fragmentClosure d selections).Nodup ∧
      (∀ name, name ∈ fragmentClosure d selections ↔
        (d.fragment? name).isSome ∧ Reaches d selections name) ∧
      fragmentClosure d.keepDefined (keepDefined d selections) = fragmentClosure d selections :=
  ⟨FragmentClosure.nodup_fragmentClosure d selections,
    fun _ => FragmentClosure.mem_fragmentClosure,
    FragmentClosure.fragmentClosure_keepDefined d selections⟩

end TypedClient
