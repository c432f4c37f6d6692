import TypedClient.FragmentClosure

/-!
# Walks over selections

One walk of `FragmentClosure.visit` as a relation with a rule for each thing that can happen at a
selection. What a walk keeps is proved by induction over these rules, and no proof opens the search
itself again.

`Walk d visiting selections resolved resolved'` says: while the fragments in `visiting` are being
walked, going over `selections` takes the list `resolved` to `resolved'`.
-/

namespace TypedClient.FragmentClosure

inductive Walk (d : DocumentSet) :
    List String → List Selection → List String → List String → Prop where
  | nil {visiting resolved} : Walk d visiting [] resolved resolved
  | field {visiting head inner rest resolved between resolved'}
      (below : Walk d visiting inner resolved between)
      (after : Walk d visiting rest between resolved') :
      Walk d visiting (.field head inner :: rest) resolved resolved'
  | inline {visiting condition directives inner rest resolved between resolved'}
      (below : Walk d visiting inner resolved between)
      (after : Walk d visiting rest between resolved') :
      Walk d visiting (.inline condition directives inner :: rest) resolved resolved'
  /-- A fragment that is listed, or that is being walked, is passed over. -/
  | seen {visiting name directives rest resolved resolved'}
      (known : name ∈ resolved ∨ name ∈ visiting)
      (after : Walk d visiting rest resolved resolved') :
      Walk d visiting (.spread name directives :: rest) resolved resolved'
  | undefined {visiting name directives rest resolved resolved'}
      (missing : d.fragment? name = none)
      (after : Walk d visiting rest resolved resolved') :
      Walk d visiting (.spread name directives :: rest) resolved resolved'
  /-- A new fragment is listed once its own selections have been walked. -/
  | expand {visiting name directives rest resolved between resolved' f}
      (fresh : name ∉ resolved) (idle : name ∉ visiting)
      (found : d.fragment? name = some f)
      (below : Walk d (name :: visiting) f.selections resolved between)
      (after : Walk d visiting rest (between ++ [name]) resolved') :
      Walk d visiting (.spread name directives :: rest) resolved resolved'

variable {d : DocumentSet} {visiting resolved resolved' : List String}
  {selections : List Selection}

/-! ## The search is the walk -/

@[simp] theorem visit_nil : visit d visiting [] resolved = resolved := by
  rw [visit]

@[simp] theorem visit_field (head : FieldHead) (inner rest : List Selection) :
    visit d visiting (.field head inner :: rest) resolved =
      visit d visiting rest (visit d visiting inner resolved) := by
  rw [visit]

@[simp] theorem visit_inline (condition : Option String) (directives : List Directive)
    (inner rest : List Selection) :
    visit d visiting (.inline condition directives inner :: rest) resolved =
      visit d visiting rest (visit d visiting inner resolved) := by
  rw [visit]

theorem visit_seen {name : String} (directives : List Directive) (rest : List Selection)
    (known : name ∈ resolved ∨ name ∈ visiting) :
    visit d visiting (.spread name directives :: rest) resolved =
      visit d visiting rest resolved := by
  rw [visit, dif_pos known]

theorem visit_undefined {name : String} (directives : List Directive) (rest : List Selection)
    (missing : d.fragment? name = none) :
    visit d visiting (.spread name directives :: rest) resolved =
      visit d visiting rest resolved := by
  rw [visit]
  split
  · rfl
  · split
    · rfl
    · rename_i found
      rw [missing] at found
      cases found

theorem visit_expand {name : String} (directives : List Directive) (rest : List Selection)
    {f : Fragment} (fresh : name ∉ resolved) (idle : name ∉ visiting)
    (found : d.fragment? name = some f) :
    visit d visiting (.spread name directives :: rest) resolved =
      visit d visiting rest (visit d (name :: visiting) f.selections resolved ++ [name]) := by
  rw [visit, dif_neg (by simp [fresh, idle])]
  split
  · rename_i missing
    rw [missing] at found
    cases found
  · rename_i g found'
    rw [found'] at found
    cases found
    rfl

/-- The search takes a walk. -/
theorem walk_visit (d : DocumentSet) (visiting : List String) (selections : List Selection)
    (resolved : List String) :
    Walk d visiting selections resolved (visit d visiting selections resolved) := by
  induction visiting, selections, resolved using visit.induct d with
  | case1 visiting resolved =>
    rw [visit_nil]
    exact .nil
  | case2 visiting head inner rest resolved below after =>
    rw [visit_field]
    exact .field below after
  | case3 visiting condition directives inner rest resolved below after =>
    rw [visit_inline]
    exact .inline below after
  | case4 visiting name directives rest resolved below after =>
    by_cases known : name ∈ resolved ∨ name ∈ visiting
    · rw [visit_seen directives rest known]
      rw [dif_pos known] at after
      exact .seen known after
    · obtain ⟨fresh, idle⟩ := not_or.1 known
      rw [dif_neg known] at after
      cases found : d.fragment? name with
      | none =>
        rw [visit_undefined directives rest found]
        refine .undefined found ?_
        split at after
        · exact after
        · rename_i found'
          rw [found] at found'
          cases found'
      | some f =>
        rw [visit_expand directives rest fresh idle found]
        refine .expand fresh idle found (below known f found) ?_
        split at after
        · rename_i missing
          rw [found] at missing
          cases missing
        · rename_i g found'
          rw [found] at found'
          cases found'
          exact after

/-- Any walk is the one that the search takes. -/
theorem Walk.visit_eq (walk : Walk d visiting selections resolved resolved') :
    visit d visiting selections resolved = resolved' := by
  induction walk with
  | nil => exact visit_nil
  | field _ _ ihBelow ihAfter => rw [visit_field, ihBelow, ihAfter]
  | inline _ _ ihBelow ihAfter => rw [visit_inline, ihBelow, ihAfter]
  | seen known _ ih => rw [visit_seen _ _ known, ih]
  | undefined missing _ ih => rw [visit_undefined _ _ missing, ih]
  | expand fresh idle found _ _ ihBelow ihAfter =>
    rw [visit_expand _ _ fresh idle found, ihBelow, ihAfter]

theorem walk_fragmentClosure (d : DocumentSet) (selections : List Selection) :
    Walk d [] selections [] (fragmentClosure d selections) :=
  walk_visit d [] selections []

/-! ## What a walk does to the list -/

/-- A walk only appends. -/
theorem Walk.append (walk : Walk d visiting selections resolved resolved') :
    ∃ added, resolved' = resolved ++ added := by
  induction walk with
  | nil => exact ⟨[], by simp⟩
  | field _ _ ihBelow ihAfter | inline _ _ ihBelow ihAfter =>
    obtain ⟨inside, rfl⟩ := ihBelow
    obtain ⟨behind, rfl⟩ := ihAfter
    exact ⟨inside ++ behind, by simp⟩
  | seen _ _ ih | undefined _ _ ih => exact ih
  | @expand _ name _ _ _ _ _ _ _ _ _ _ _ ihBelow ihAfter =>
    obtain ⟨inside, rfl⟩ := ihBelow
    obtain ⟨behind, rfl⟩ := ihAfter
    exact ⟨inside ++ [name] ++ behind, by simp⟩

theorem Walk.mem_of_mem (walk : Walk d visiting selections resolved resolved') {name : String}
    (h : name ∈ resolved) : name ∈ resolved' := by
  obtain ⟨added, rfl⟩ := walk.append
  exact List.mem_append_left added h

/-- A fragment that is being walked is never listed by the walk below it. -/
theorem Walk.not_mem_of_visiting (walk : Walk d visiting selections resolved resolved')
    {name : String} (active : name ∈ visiting) (fresh : name ∉ resolved) : name ∉ resolved' := by
  induction walk with
  | nil => exact fresh
  | field _ _ ihBelow ihAfter | inline _ _ ihBelow ihAfter =>
    exact ihAfter active (ihBelow active fresh)
  | seen _ _ ih | undefined _ _ ih => exact ih active fresh
  | expand _ idle _ _ _ ihBelow ihAfter =>
    refine ihAfter active ?_
    rw [List.mem_append, List.mem_singleton]
    rintro (inside | rfl)
    · exact ihBelow (List.mem_cons_of_mem _ active) fresh inside
    · exact idle active

theorem Walk.nodup (walk : Walk d visiting selections resolved resolved')
    (h : resolved.Nodup) : resolved'.Nodup := by
  induction walk with
  | nil => exact h
  | field _ _ ihBelow ihAfter | inline _ _ ihBelow ihAfter => exact ihAfter (ihBelow h)
  | seen _ _ ih | undefined _ _ ih => exact ih h
  | @expand _ name _ _ _ _ _ _ fresh _ _ below _ ihBelow ihAfter =>
    have hname := below.not_mem_of_visiting List.mem_cons_self fresh
    refine ihAfter (List.nodup_append.2 ⟨ihBelow h, by simp, ?_⟩)
    intro x hx y hy
    rw [List.mem_singleton] at hy
    rintro rfl
    exact hname (hy ▸ hx)

end TypedClient.FragmentClosure
