import TypedClient.Graphql.Document

/-!
# Fragment closure

The fragments a selection set needs: those it spreads, at any depth, and those that they spread in
turn. A fragment is listed after the fragments it spreads, apart from those that spread it back.
-/

namespace TypedClient

namespace DocumentSet

/-- How many fragments have a name that is not among `names`. -/
def fragmentsOutside (d : DocumentSet) (names : List String) : Nat :=
  d.fragments.countP (·.name ∉ names)

theorem mem_fragments_of_fragment? {d : DocumentSet} {name : String} {f : Fragment}
    (h : d.fragment? name = some f) : f ∈ d.fragments ∧ f.name = name := by
  refine ⟨List.mem_of_find?_eq_some h, ?_⟩
  simpa using List.find?_some h

theorem fragmentsOutside_cons_lt {d : DocumentSet} {names : List String} {name : String}
    {f : Fragment} (hf : d.fragment? name = some f) (hn : name ∉ names) :
    d.fragmentsOutside (name :: names) < d.fragmentsOutside names := by
  obtain ⟨hm, rfl⟩ := mem_fragments_of_fragment? hf
  unfold fragmentsOutside
  generalize d.fragments = fs at hm
  induction fs with
  | nil => simp at hm
  | cons g gs ih =>
    have hle : gs.countP (·.name ∉ f.name :: names) ≤ gs.countP (·.name ∉ names) :=
      List.countP_mono_left fun x _ hx => by simp_all
    simp only [List.countP_cons]
    rcases List.mem_cons.1 hm with rfl | hg
    · rw [decide_eq_false (p := f.name ∉ f.name :: names) (by simp),
        decide_eq_true (p := f.name ∉ names) hn]
      simp only [Bool.false_eq_true, if_false, if_true]
      omega
    · have hlt := ih hg
      have hone : (if decide (g.name ∉ f.name :: names) then 1 else 0) ≤
          if decide (g.name ∉ names) then 1 else 0 := by
        split
        · rename_i h
          have hout : g.name ∉ names :=
            fun hin => of_decide_eq_true h (List.mem_cons_of_mem _ hin)
          rw [decide_eq_true hout]
          exact Nat.le_refl 1
        · exact Nat.zero_le _
      omega

end DocumentSet

namespace FragmentClosure

/-- Walks the selections and appends to `resolved` every fragment that is complete: first what it
spreads, then its own name. A fragment in `visiting` is being walked, so a spread of it leads back
into a cycle and is passed over. -/
def visit (d : DocumentSet) (visiting : List String) :
    List Selection → List String → List String
  | [], resolved => resolved
  | .field _ inner :: rest, resolved => visit d visiting rest (visit d visiting inner resolved)
  | .inline _ _ inner :: rest, resolved => visit d visiting rest (visit d visiting inner resolved)
  | .spread name _ :: rest, resolved =>
    visit d visiting rest <|
      if hv : name ∈ resolved ∨ name ∈ visiting then resolved
      else
        match hf : d.fragment? name with
        | none => resolved
        | some f =>
          have := DocumentSet.fragmentsOutside_cons_lt hf fun h => hv (Or.inr h)
          visit d (name :: visiting) f.selections resolved ++ [name]
termination_by selections => (d.fragmentsOutside visiting, sizeOf selections)
decreasing_by
  · apply Prod.Lex.right
    simp only [List.cons.sizeOf_spec, Selection.field.sizeOf_spec]
    omega
  · apply Prod.Lex.right
    simp only [List.cons.sizeOf_spec]
    omega
  · apply Prod.Lex.right
    simp only [List.cons.sizeOf_spec, Selection.inline.sizeOf_spec]
    omega
  · apply Prod.Lex.right
    simp only [List.cons.sizeOf_spec]
    omega
  · exact Prod.Lex.left _ _ this
  · apply Prod.Lex.right
    simp only [List.cons.sizeOf_spec]
    omega

end FragmentClosure

/-- The names of the fragments that the selections need, each once. -/
def fragmentClosure (d : DocumentSet) (selections : List Selection) : List String :=
  FragmentClosure.visit d [] selections []

end TypedClient
