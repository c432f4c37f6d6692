import Mathlib.Data.Finset.Card
import TypedClient.Proofs.FragmentClosure.Reachability

/-!
# The search for fragments, step by step

The search with both of its sets as state: names are put into the set of fragments that are being
walked and taken out of it again, and a log says whose selections were gone over. Nothing in the
rules makes the search end or keeps its sets in order.

That it ends follows from a measure that each call makes smaller: how many defined names are not
being walked, and then the size of the selections that are left. A call inside a fragment makes the
first part smaller; what comes after it depends on the set being as it was before.
-/

namespace TypedClient

/-- The names of fragments that are not among `names`. -/
def DocumentSet.namesOutside (d : DocumentSet) (names : List String) : Finset String :=
  (d.fragments.map Fragment.name).toFinset \ names.toFinset

theorem DocumentSet.card_namesOutside_cons_lt {d : DocumentSet} {names : List String}
    {name : String} {f : Fragment} (hf : d.fragment? name = some f) (hn : name ∉ names) :
    (d.namesOutside (name :: names)).card < (d.namesOutside names).card := by
  obtain ⟨hmem, rfl⟩ := mem_fragments_of_fragment? hf
  have hout : f.name ∈ d.namesOutside names := by
    simp only [namesOutside, Finset.mem_sdiff, List.mem_toFinset]
    exact ⟨List.mem_map_of_mem hmem, hn⟩
  unfold namesOutside at hout ⊢
  rw [List.toFinset_cons, Finset.sdiff_insert]
  exact Finset.card_erase_lt_of_mem hout

namespace FragmentClosure

mutual

/-- How many selections a selection is made of, itself included. -/
def size : Selection → Nat
  | .field _ inner => totalSize inner + 1
  | .inline _ _ inner => totalSize inner + 1
  | .spread _ _ => 1

def totalSize : List Selection → Nat
  | [] => 0
  | s :: rest => size s + totalSize rest

end

theorem size_pos (s : Selection) : 0 < size s := by
  cases s <;> simp [size]

/-- The fragments that are listed, those that are being walked, and all whose selections have been
entered, in order. -/
structure Progress where
  resolved : List String
  visiting : List String
  entered : List Fragment

/-- What the search does at a selection: it goes on behind it, or it goes over `inner` first. -/
inductive Turn where
  | goOn (p : Progress)
  | descend (inner : List Selection) (p : Progress)

def Progress.turn (d : DocumentSet) (p : Progress) : Selection → Turn
  | .field _ inner => .descend inner p
  | .inline _ _ inner => .descend inner p
  | .spread name _ =>
    if name ∈ p.resolved ∨ name ∈ p.visiting then .goOn p
    else
      match d.fragment? name with
      | some f =>
        .descend f.selections
          { p with visiting := name :: p.visiting, entered := p.entered ++ [f] }
      -- An undefined name is taken out again at once.
      | none => .goOn { p with visiting := (name :: p.visiting).erase name }

/-- Lists a name behind the others, unless it is listed. -/
def listLast (names : List String) (name : String) : List String :=
  if name ∈ names then names else names ++ [name]

/-- What is noted down when the search comes back to a selection. -/
def Progress.leave (p : Progress) : Selection → Progress
  | .field _ _ => p
  | .inline _ _ _ => p
  | .spread name _ =>
    { p with resolved := listLast p.resolved name, visiting := p.visiting.erase name }

/-- From `p`, going over the selections ends with `r`. -/
inductive Search (d : DocumentSet) : List Selection → Progress → Progress → Prop where
  | done {p} : Search d [] p p
  | goOn {s rest p q r} (turn : p.turn d s = .goOn q) (after : Search d rest q r) :
      Search d (s :: rest) p r
  | descend {s rest inner p q q' r} (turn : p.turn d s = .descend inner q)
      (below : Search d inner q q') (after : Search d rest (q'.leave s) r) :
      Search d (s :: rest) p r

/-- Selections that are left, and how far the search has come. -/
abbrev Pending := List Selection × Progress

/-- What a search needs next: the selections below the first one, or those behind it. -/
inductive Calls (d : DocumentSet) : Pending → Pending → Prop where
  | goOn {s rest p q} (turn : p.turn d s = .goOn q) : Calls d (s :: rest, p) (rest, q)
  | below {s rest inner p q} (turn : p.turn d s = .descend inner q) :
      Calls d (s :: rest, p) (inner, q)
  | after {s rest inner p q q'} (turn : p.turn d s = .descend inner q)
      (below : Search d inner q q') : Calls d (s :: rest, p) (rest, q'.leave s)

/-- How many defined names are not being walked, and the size of the selections that are left. -/
def rank (d : DocumentSet) (c : Pending) : Nat × Nat :=
  ((d.namesOutside c.2.visiting).card, totalSize c.1)

variable {d : DocumentSet} {p q r : Progress} {s : Selection} {selections inner : List Selection}

/-! ## One turn -/

theorem turn_goOn (h : p.turn d s = .goOn q) :
    q = p ∧ ∃ name directives, s = .spread name directives ∧
      (name ∈ p.resolved ∨ name ∈ p.visiting ∨ d.fragment? name = none) := by
  cases s with
  | field head inner => cases h
  | inline condition directives inner => cases h
  | spread name directives =>
    rw [Progress.turn] at h
    split at h
    · rename_i known
      cases h
      exact ⟨rfl, name, directives, rfl, known.imp_right .inl⟩
    · split at h
      · cases h
      · rename_i missing
        cases h
        exact ⟨by simp, name, directives, rfl, .inr (.inr missing)⟩

/-- The rule for a selection that has others below it: they stand in it, or in the fragment that it
spreads. -/
theorem turn_descend (h : p.turn d s = .descend inner q) :
    (q = p ∧ ((∃ head, s = .field head inner) ∨
      ∃ condition directives, s = .inline condition directives inner)) ∨
    ∃ name directives f, s = .spread name directives ∧ name ∉ p.resolved ∧ name ∉ p.visiting ∧
      d.fragment? name = some f ∧ inner = f.selections ∧
      q = { p with visiting := name :: p.visiting, entered := p.entered ++ [f] } := by
  cases s with
  | field head inner =>
    cases h
    exact .inl ⟨rfl, .inl ⟨head, rfl⟩⟩
  | inline condition directives inner =>
    cases h
    exact .inl ⟨rfl, .inr ⟨condition, directives, rfl⟩⟩
  | spread name directives =>
    rw [Progress.turn] at h
    split at h
    · cases h
    · rename_i known
      obtain ⟨fresh, idle⟩ := not_or.1 known
      split at h
      · rename_i f found
        cases h
        exact .inr ⟨name, directives, f, rfl, fresh, idle, found, rfl, rfl⟩
      · cases h

/-- Coming back undoes what entering did to the set. -/
theorem visiting_leave (turn : p.turn d s = .descend inner q) {q' : Progress}
    (h : q'.visiting = q.visiting) : (q'.leave s).visiting = p.visiting := by
  rcases turn_descend turn with ⟨rfl, ⟨head, rfl⟩ | ⟨condition, directives, rfl⟩⟩ |
    ⟨name, directives, f, rfl, -, -, -, -, rfl⟩
  · exact h
  · exact h
  · show q'.visiting.erase name = p.visiting
    rw [h]
    exact List.erase_cons_head ..

/-! ## Whole searches -/

theorem Search.visiting_eq (search : Search d selections p r) : r.visiting = p.visiting := by
  induction search with
  | done => rfl
  | goOn turn _ ih => rw [ih, (turn_goOn turn).1]
  | descend turn _ _ ihBelow ihAfter => rw [ihAfter, visiting_leave turn ihBelow]

/-- Each call has a smaller rank. -/
theorem Calls.rank_lt {c c' : Pending} (call : Calls d c c') :
    Prod.Lex (· < ·) (· < ·) (rank d c') (rank d c) := by
  cases call with
  | @goOn s rest p q turn =>
    obtain ⟨rfl, -⟩ := turn_goOn turn
    apply Prod.Lex.right
    have := size_pos s
    simp only [totalSize]
    omega
  | @below s rest inner p q turn =>
    rcases turn_descend turn with ⟨rfl, ⟨head, rfl⟩ | ⟨condition, directives, rfl⟩⟩ |
      ⟨name, directives, f, rfl, -, idle, found, rfl, rfl⟩
    · apply Prod.Lex.right
      simp only [totalSize, size]
      omega
    · apply Prod.Lex.right
      simp only [totalSize, size]
      omega
    · exact Prod.Lex.left _ _ (DocumentSet.card_namesOutside_cons_lt found idle)
  | @after s rest inner p q q' turn below =>
    -- The first part is as before the call below, whatever was entered there.
    have hvisiting := visiting_leave turn below.visiting_eq
    unfold rank
    rw [hvisiting]
    apply Prod.Lex.right
    have := size_pos s
    simp only [totalSize]
    omega

theorem wellFounded_calls (d : DocumentSet) : WellFounded fun c' c => Calls d c c' :=
  Subrelation.wf Calls.rank_lt
    (InvImage.wf (rank d) (Prod.lex Nat.lt_wfRel Nat.lt_wfRel).wf)

/-- Every search ends. -/
theorem exists_search (d : DocumentSet) (selections : List Selection) (p : Progress) :
    ∃ r, Search d selections p r := by
  suffices h : ∀ c : Pending, ∃ r, Search d c.1 c.2 r from h (selections, p)
  intro c
  induction c using (wellFounded_calls d).induction with
  | _ c ih =>
    obtain ⟨selections, p⟩ := c
    cases selections with
    | nil => exact ⟨p, .done⟩
    | cons s rest =>
      cases turn : p.turn d s with
      | goOn q =>
        obtain ⟨r, after⟩ := ih _ (.goOn turn)
        exact ⟨r, .goOn turn after⟩
      | descend inner q =>
        obtain ⟨q', below⟩ := ih _ (.below turn)
        obtain ⟨r, after⟩ := ih _ (.after turn below)
        exact ⟨r, .descend turn below after⟩

theorem Search.unique (search : Search d selections p r) {r' : Progress}
    (search' : Search d selections p r') : r' = r := by
  induction search generalizing r' with
  | done => cases search' with
    | done => rfl
  | goOn turn _ ih => cases search' with
    | goOn turn' after' =>
      rw [turn] at turn'
      cases turn'
      exact ih after'
    | descend turn' =>
      rw [turn] at turn'
      cases turn'
  | descend turn _ _ ihBelow ihAfter => cases search' with
    | goOn turn' =>
      rw [turn] at turn'
      cases turn'
    | descend turn' below' after' =>
      rw [turn] at turn'
      cases turn'
      cases ihBelow below'
      exact ihAfter after'

/-- The search walks as `visit` does. -/
theorem Search.walk (search : Search d selections p r) :
    Walk d p.visiting selections p.resolved r.resolved := by
  induction search with
  | done => exact .nil
  | goOn turn _ ih =>
    obtain ⟨rfl, name, directives, rfl, known | known | missing⟩ := turn_goOn turn
    · exact .seen (.inl known) ih
    · exact .seen (.inr known) ih
    · exact .undefined missing ih
  | @descend s rest inner p q q' r turn below after ihBelow ihAfter =>
    rw [visiting_leave turn below.visiting_eq] at ihAfter
    rcases turn_descend turn with ⟨rfl, ⟨head, rfl⟩ | ⟨condition, directives, rfl⟩⟩ |
      ⟨name, directives, f, rfl, fresh, idle, found, rfl, rfl⟩
    · exact .field ihBelow ihAfter
    · exact .inline ihBelow ihAfter
    · -- A name that is being walked is not listed below, so it is listed now.
      have hnew := ihBelow.not_mem_of_visiting List.mem_cons_self fresh
      have hlast : (q'.leave (.spread name directives)).resolved = q'.resolved ++ [name] :=
        if_neg hnew
      rw [hlast] at ihAfter
      exact .expand fresh idle found ihBelow ihAfter

/-! ## What is entered -/

/-- From `p` to `r` the names were listed and the fragments were entered: the same ones, and each
the first fragment of its name. -/
structure EntersListed (d : DocumentSet) (p r : Progress) (names : List String)
    (fragments : List Fragment) : Prop where
  resolved : r.resolved = p.resolved ++ names
  entered : r.entered = p.entered ++ fragments
  perm : (fragments.map Fragment.name).Perm names
  first : ∀ f ∈ fragments, d.fragment? f.name = some f

theorem EntersListed.refl (d : DocumentSet) (p : Progress) : EntersListed d p p [] [] :=
  ⟨by simp, by simp, .refl _, by simp⟩

theorem EntersListed.trans {names names' : List String} {fragments fragments' : List Fragment}
    (h : EntersListed d p q names fragments) (h' : EntersListed d q r names' fragments') :
    EntersListed d p r (names ++ names') (fragments ++ fragments') where
  resolved := by rw [h'.resolved, h.resolved, List.append_assoc]
  entered := by rw [h'.entered, h.entered, List.append_assoc]
  perm := by
    rw [List.map_append]
    exact h.perm.append h'.perm
  first := by
    intro f hf
    rcases List.mem_append.1 hf with hf | hf
    · exact h.first f hf
    · exact h'.first f hf

/-- A fragment is entered before those below it, and listed behind them. -/
theorem EntersListed.expand {name : String} {f : Fragment} {names : List String}
    {fragments : List Fragment} (found : d.fragment? name = some f)
    (h : EntersListed d { p with visiting := name :: p.visiting, entered := p.entered ++ [f] } q
      names fragments)
    (hnew : name ∉ q.resolved) (directives : List Directive) :
    EntersListed d p (q.leave (.spread name directives)) (names ++ [name]) (f :: fragments) := by
  obtain ⟨-, rfl⟩ := DocumentSet.mem_fragments_of_fragment? found
  have hlast : (q.leave (.spread f.name directives)).resolved = q.resolved ++ [f.name] :=
    if_neg hnew
  refine ⟨?_, ?_, ?_, ?_⟩
  · rw [hlast, h.resolved, List.append_assoc]
  · show q.entered = _
    rw [h.entered, List.append_assoc, List.singleton_append]
  · rw [List.map_cons]
    exact (h.perm.cons f.name).trans (List.perm_append_singleton f.name names).symm
  · intro g hg
    rcases List.mem_cons.1 hg with rfl | hg
    · exact found
    · exact h.first g hg

theorem Search.entersListed (search : Search d selections p r) :
    ∃ names fragments, EntersListed d p r names fragments := by
  induction search with
  | @done p => exact ⟨[], [], .refl d p⟩
  | goOn turn _ ih =>
    obtain ⟨rfl, -⟩ := turn_goOn turn
    exact ih
  | @descend s rest inner p q q' r turn below after ihBelow ihAfter =>
    obtain ⟨_, _, hbelow⟩ := ihBelow
    obtain ⟨_, _, hafter⟩ := ihAfter
    rcases turn_descend turn with ⟨rfl, ⟨head, rfl⟩ | ⟨condition, directives, rfl⟩⟩ |
      ⟨name, directives, f, rfl, fresh, -, found, rfl, rfl⟩
    · exact ⟨_, _, hbelow.trans hafter⟩
    · exact ⟨_, _, hbelow.trans hafter⟩
    · have hnew := below.walk.not_mem_of_visiting List.mem_cons_self fresh
      exact ⟨_, _, (hbelow.expand found hnew directives).trans hafter⟩

/-! ## The laws -/

/-- A search from anywhere makes calls of ever smaller rank, so it ends, and in one way only. It
leaves the set of fragments that are being walked as it was, and only appends to the list, as `visit`
does. The search for the closure enters each listed fragment once, and no other. -/
theorem search_laws (d : DocumentSet) :
    (∀ c c', Calls d c c' → Prod.Lex (· < ·) (· < ·) (rank d c') (rank d c)) ∧
    (WellFounded fun c' c => Calls d c c') ∧
    (∀ selections p, ∃ r, Search d selections p r ∧ (∀ r', Search d selections p r' → r' = r) ∧
      r.visiting = p.visiting ∧ p.resolved <+: r.resolved ∧
      r.resolved = visit d p.visiting selections p.resolved) ∧
    ∀ selections, ∃ r, Search d selections ⟨[], [], []⟩ r ∧
      r.resolved = fragmentClosure d selections ∧
      (∀ f ∈ r.entered, d.fragment? f.name = some f) ∧
      ∀ name, (r.entered.map Fragment.name).count name =
        if name ∈ fragmentClosure d selections then 1 else 0 := by
  refine ⟨fun c c' call => call.rank_lt, wellFounded_calls d, fun selections p => ?_,
    fun selections => ?_⟩
  · obtain ⟨r, search⟩ := exists_search d selections p
    obtain ⟨names, fragments, h⟩ := search.entersListed
    exact ⟨r, search, fun r' search' => search.unique search', search.visiting_eq,
      ⟨names, h.resolved.symm⟩, search.walk.visit_eq.symm⟩
  · obtain ⟨r, search⟩ := exists_search d selections ⟨[], [], []⟩
    obtain ⟨names, fragments, h⟩ := search.entersListed
    have hclosure : r.resolved = fragmentClosure d selections := search.walk.visit_eq.symm
    have hnames : names = fragmentClosure d selections := by
      rw [← hclosure, h.resolved, List.nil_append]
    have hentered : r.entered = fragments := by rw [h.entered, List.nil_append]
    refine ⟨r, search, hclosure, hentered ▸ h.first, fun name => ?_⟩
    rw [hentered, h.perm.count_eq, hnames, (nodup_fragmentClosure d selections).count]

/-- Two fragments that spread each other, one of them defined twice. One more is not defined. -/
def usersInTeams : DocumentSet where
  definitions := [
    .fragment ⟨"user", "User", [], [.spread "team" [], .spread "avatar" []]⟩,
    .fragment ⟨"team", "Team", [], [.field ⟨none, "users", [], []⟩ [.spread "user" []]]⟩,
    .fragment ⟨"team", "Team", [], []⟩]

theorem search_laws_of_usersInTeams :
    (∃ c, Calls usersInTeams ([.spread "user" [], .spread "team" []], ⟨[], [], []⟩) c ∧
      c.2.visiting = ["user"] ∧
      Prod.Lex (· < ·) (· < ·) (rank usersInTeams c)
        (rank usersInTeams ([.spread "user" [], .spread "team" []], ⟨[], [], []⟩))) ∧
    ∃ r, Search usersInTeams [.spread "user" [], .spread "team" []] ⟨[], [], []⟩ r ∧
      r.resolved = ["team", "user"] ∧
      ["user", "team", "avatar"].map (r.entered.map Fragment.name).count = [1, 1, 0] := by
  obtain ⟨smaller, -, -, closure⟩ := search_laws usersInTeams
  have call : Calls usersInTeams ([.spread "user" [], .spread "team" []], ⟨[], [], []⟩) _ :=
    .below rfl
  have listed : fragmentClosure usersInTeams [.spread "user" [], .spread "team" []] =
      ["team", "user"] := by
    cbv
  refine ⟨⟨_, call, rfl, smaller _ _ call⟩, ?_⟩
  obtain ⟨r, search, resolved, -, count⟩ := closure [.spread "user" [], .spread "team" []]
  refine ⟨r, search, resolved.trans listed, ?_⟩
  simp [count, listed]

end FragmentClosure

end TypedClient
