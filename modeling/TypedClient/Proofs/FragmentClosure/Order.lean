import Mathlib.Data.List.Basic
import TypedClient.Proofs.FragmentClosure.Reachability

/-!
# The order of the closure

A fragment is listed when its own walk is over. What it spreads was listed before that, or its walk
was still going on, and a walk that is going on leads to everything below it. So a fragment stands
behind all that it spreads, apart from the fragments that lead back to it.
-/

namespace TypedClient

namespace DocumentSet

variable {d : DocumentSet} {a b c : String}

/-- The first definition of `a` spreads `b`. -/
def FragmentSpreads (d : DocumentSet) (a b : String) : Prop :=
  ∃ f, d.fragment? a = some f ∧ Spreads f.selections b

/-- `b` is reachable from the first definition of `a`. -/
def Leads (d : DocumentSet) (a b : String) : Prop :=
  ∃ f, d.fragment? a = some f ∧ Reaches d f.selections b

theorem FragmentSpreads.leads (h : d.FragmentSpreads a b) : d.Leads a b := by
  obtain ⟨f, found, h⟩ := h
  exact ⟨f, found, .direct h⟩

theorem Leads.spread (h : d.Leads a b) (spreads : d.FragmentSpreads b c) : d.Leads a c := by
  obtain ⟨f, found, reached⟩ := h
  obtain ⟨g, found', h⟩ := spreads
  exact ⟨f, found, .through reached found' h⟩

end DocumentSet

theorem Reaches.leads {d : DocumentSet} {selections : List Selection} {a b : String}
    (reached : Reaches d selections a) (h : d.Leads a b) : Reaches d selections b := by
  obtain ⟨f, found, h⟩ := h
  exact h.mono fun n hn => .through reached found hn

theorem DocumentSet.Leads.trans {d : DocumentSet} {a b c : String} (h : d.Leads a b)
    (h' : d.Leads b c) : d.Leads a c := by
  obtain ⟨f, found, reached⟩ := h
  exact ⟨f, found, reached.leads h'⟩

namespace FragmentClosure

variable {d : DocumentSet} {visiting resolved resolved' : List String}
  {selections : List Selection}

/-- Each name came to the end of the list when all that it spreads was there, apart from names that
lead back to it and from names without a definition. -/
inductive DependenciesFirst (d : DocumentSet) : List String → Prop where
  | nil : DependenciesFirst d []
  | concat {listed name} (h : DependenciesFirst d listed)
      (dependencies : ∀ n, d.FragmentSpreads name n → (d.fragment? n).isSome →
        n ∈ listed ∨ d.Leads n name) :
      DependenciesFirst d (listed ++ [name])

/-- A walk keeps the order, given that each fragment in `visiting` leads to whatever the selections
at hand spread. -/
theorem Walk.dependenciesFirst (walk : Walk d visiting selections resolved resolved')
    (trail : ∀ v ∈ visiting, ∀ n, Spreads selections n → d.Leads v n)
    (h : DependenciesFirst d resolved) : DependenciesFirst d resolved' := by
  induction walk with
  | nil => exact h
  | field _ _ ihBelow ihAfter =>
    refine ihAfter (fun v hv n hn => trail v hv n (.rest hn)) ?_
    exact ihBelow (fun v hv n hn => trail v hv n (.field hn)) h
  | inline _ _ ihBelow ihAfter =>
    refine ihAfter (fun v hv n hn => trail v hv n (.rest hn)) ?_
    exact ihBelow (fun v hv n hn => trail v hv n (.inline hn)) h
  | seen _ _ ih | undefined _ _ ih =>
    exact ih (fun v hv n hn => trail v hv n (.rest hn)) h
  | @expand visiting name _ _ _ between _ f _ _ found below _ ihBelow ihAfter =>
    have trail' : ∀ v ∈ name :: visiting, ∀ n, Spreads f.selections n → d.Leads v n := by
      intro v hv n hn
      rcases List.mem_cons.1 hv with rfl | hv
      · exact ⟨f, found, .direct hn⟩
      · exact (trail v hv name .spread).spread ⟨f, found, hn⟩
    refine ihAfter (fun v hv n hn => trail v hv n (.rest hn)) (.concat (ihBelow trail' h) ?_)
    rintro n ⟨g, found', hn⟩ defined
    rw [found] at found'
    cases found'
    -- What is not listed yet is on the way from the start to `name`, or is `name` itself.
    rcases below.covers hn defined with listed | active
    · exact .inl listed
    · refine .inr ?_
      rcases List.mem_cons.1 active with rfl | active
      · exact ⟨f, found, .direct hn⟩
      · exact trail n active name .spread

theorem dependenciesFirst_fragmentClosure (d : DocumentSet) (selections : List Selection) :
    DependenciesFirst d (fragmentClosure d selections) :=
  (walk_fragmentClosure d selections).dependenciesFirst (by simp) .nil

theorem DependenciesFirst.idxOf_lt {listed : List String} (h : DependenciesFirst d listed)
    (nodup : listed.Nodup) {a b : String} (ha : a ∈ listed) (spreads : d.FragmentSpreads a b)
    (defined : (d.fragment? b).isSome) (forward : ¬ d.Leads b a) :
    listed.idxOf b < listed.idxOf a := by
  induction h with
  | nil => cases ha
  | @concat listed name h dependencies ih =>
    obtain ⟨nodup, -, hname⟩ := List.nodup_append.1 nodup
    have fresh : name ∉ listed := fun hin => hname name hin name (by simp) rfl
    rcases List.mem_append.1 ha with ha | ha
    · have hlt := ih nodup ha
      have hb : b ∈ listed := by
        rw [← List.idxOf_lt_length_iff]
        exact Nat.lt_trans hlt (List.idxOf_lt_length_iff.2 ha)
      rw [List.idxOf_append_of_mem hb, List.idxOf_append_of_mem ha]
      exact hlt
    · obtain rfl := List.mem_singleton.1 ha
      have hb : b ∈ listed := (dependencies b spreads defined).resolve_right forward
      rw [List.idxOf_append_of_mem hb, List.idxOf_append_of_notMem fresh]
      exact Nat.lt_of_lt_of_le (List.idxOf_lt_length_iff.2 hb) (Nat.le_add_right _ _)

theorem idxOf_fragmentClosure_lt {a b : String} (ha : a ∈ fragmentClosure d selections)
    (hb : b ∈ fragmentClosure d selections) (spreads : d.FragmentSpreads a b)
    (forward : ¬ d.Leads b a) :
    (fragmentClosure d selections).idxOf b < (fragmentClosure d selections).idxOf a :=
  (dependenciesFirst_fragmentClosure d selections).idxOf_lt (nodup_fragmentClosure d selections) ha
    spreads (mem_fragmentClosure.1 hb).1 forward

/-- Without cycles, the order of the list goes along whole chains of spreads. -/
theorem idxOf_fragmentClosure_lt_of_leads
    (acyclic : ∀ n, Reaches d selections n → ¬ d.Leads n n) {a b : String}
    (ha : a ∈ fragmentClosure d selections) (defined : (d.fragment? b).isSome)
    (leads : d.Leads a b) :
    (fragmentClosure d selections).idxOf b < (fragmentClosure d selections).idxOf a := by
  have reachedA := (mem_fragmentClosure.1 ha).2
  -- One spread: the fragment that it names cannot lead back, as that would close a cycle.
  have step : ∀ {m n : String}, Reaches d selections m → d.FragmentSpreads m n →
      (d.fragment? n).isSome →
      (fragmentClosure d selections).idxOf n < (fragmentClosure d selections).idxOf m := by
    intro m n reached spreads defined
    have hm : (d.fragment? m).isSome := by
      obtain ⟨f, found, -⟩ := spreads
      rw [found]
      rfl
    refine idxOf_fragmentClosure_lt (mem_fragmentClosure.2 ⟨hm, reached⟩)
      (mem_fragmentClosure.2 ⟨defined, reached.leads spreads.leads⟩) spreads fun back => ?_
    exact acyclic m reached (spreads.leads.trans back)
  obtain ⟨f, found, reached⟩ := leads
  induction reached with
  | direct h => exact step reachedA ⟨f, found, h⟩ defined
  | @through via _ g reached found' h ih =>
    have hvia := ih (by rw [found']; rfl)
    exact Nat.lt_trans (step (reachedA.leads ⟨f, found, reached⟩) ⟨g, found', h⟩ defined) hvia

end FragmentClosure

/-- A listed fragment stands behind every listed fragment that it spreads and that does not lead
back to it. If no fragment that the selections reach leads to itself, it stands behind every
fragment that it leads to. -/
theorem fragmentClosure_dependencies_first (d : DocumentSet) (selections : List Selection) :
    (∀ a ∈ fragmentClosure d selections, ∀ b ∈ fragmentClosure d selections,
      d.FragmentSpreads a b → ¬ d.Leads b a →
        (fragmentClosure d selections).idxOf b < (fragmentClosure d selections).idxOf a) ∧
    ((∀ n, Reaches d selections n → ¬ d.Leads n n) →
      ∀ a ∈ fragmentClosure d selections, ∀ b, (d.fragment? b).isSome → d.Leads a b →
        (fragmentClosure d selections).idxOf b < (fragmentClosure d selections).idxOf a) :=
  ⟨fun _ ha _ hb => FragmentClosure.idxOf_fragmentClosure_lt ha hb,
    fun acyclic _ ha _ => FragmentClosure.idxOf_fragmentClosure_lt_of_leads acyclic ha⟩

/-- A card and the list in it spread each other, and both of them spread a badge. -/
def cardsInLists : DocumentSet where
  definitions := [
    .fragment ⟨"card", "User", [], [.field ⟨none, "team", [], []⟩ [.spread "list" []],
      .spread "badge" []]⟩,
    .fragment ⟨"list", "Team", [], [.inline none [] [.spread "card" [], .spread "badge" []]]⟩,
    .fragment ⟨"badge", "Node", [], [.field ⟨none, "id", [], []⟩ []]⟩]

theorem fragmentClosure_dependencies_first_of_cards :
    fragmentClosure cardsInLists [.spread "card" []] = ["badge", "list", "card"] ∧
      cardsInLists.Leads "card" "card" ∧ ¬ cardsInLists.Leads "badge" "card" ∧
      (fragmentClosure cardsInLists [.spread "card" []]).idxOf "badge" <
        (fragmentClosure cardsInLists [.spread "card" []]).idxOf "card" := by
  have listed : fragmentClosure cardsInLists [.spread "card" []] = ["badge", "list", "card"] := by
    cbv
  have spreadsList : cardsInLists.FragmentSpreads "card" "list" := ⟨_, rfl, .field .spread⟩
  have spreadsBadge : cardsInLists.FragmentSpreads "card" "badge" := ⟨_, rfl, .rest .spread⟩
  have spreadsCard : cardsInLists.FragmentSpreads "list" "card" := ⟨_, rfl, .inline .spread⟩
  have forward : ¬ cardsInLists.Leads "badge" "card" := by
    rintro ⟨f, found, reached⟩
    obtain rfl := Option.some.inj found
    have hcard := FragmentClosure.mem_fragmentClosure.2 ⟨rfl, reached⟩
    simp [fragmentClosure] at hcard
  refine ⟨listed, spreadsList.leads.spread spreadsCard, forward, ?_⟩
  exact (fragmentClosure_dependencies_first cardsInLists _).1 "card" (by simp [listed]) "badge"
    (by simp [listed]) spreadsBadge forward

end TypedClient
