import Mathlib.Data.List.Forall2
import Mathlib.Logic.Relation
import TypedClient.Proofs.FragmentClosure.Reachability

/-!
# Siblings and nesting

What the closure of selections is when they are put together from two parts, or put into groups.

The second part is walked with the list of the first part at hand. That list is closed: all that its
fragments spread is in it. So a walk that passes over these fragments misses nothing else, and it
appends what it would have listed from scratch, in the same order, less what is there already. This
holds with cycles too, where the order of a list depends on where the walk came in.
-/

namespace TypedClient

namespace FragmentClosure

variable {d d' : DocumentSet} {visiting resolved between resolved' : List String}
  {selections selections' : List Selection}

/-! ## Two parts -/

theorem Walk.concat (first : Walk d visiting selections resolved between)
    (second : Walk d visiting selections' between resolved') :
    Walk d visiting (selections ++ selections') resolved resolved' := by
  induction first with
  | nil => exact second
  | field below _ _ ih => exact .field below (ih second)
  | inline below _ _ ih => exact .inline below (ih second)
  | seen known _ ih => exact .seen known (ih second)
  | undefined missing _ ih => exact .undefined missing (ih second)
  | expand fresh idle found below _ _ ih => exact .expand fresh idle found below (ih second)

theorem visit_append (d : DocumentSet) (visiting : List String)
    (selections selections' : List Selection) (resolved : List String) :
    visit d visiting (selections ++ selections') resolved =
      visit d visiting selections' (visit d visiting selections resolved) :=
  ((walk_visit d visiting selections resolved).concat (walk_visit d visiting selections' _)).visit_eq

theorem ClosedUpTo.below {listed : List String} (closed : ClosedUpTo d [] listed) {name : String}
    (h : name ∈ listed) {f : Fragment} (found : d.fragment? name = some f) (n : String)
    (hn : Spreads f.selections n) (defined : (d.fragment? n).isSome) : n ∈ listed := by
  simpa using closed name h f found n hn defined

/-- Inside a closed list a walk finds nothing that is not on the list. -/
theorem Walk.inside (walk : Walk d visiting selections resolved resolved') {listed : List String}
    (closed : ClosedUpTo d [] listed)
    (inside : ∀ n, Spreads selections n → (d.fragment? n).isSome → n ∈ listed) :
    resolved'.filter (· ∉ listed) = resolved.filter (· ∉ listed) := by
  induction walk with
  | nil => rfl
  | field _ _ ihBelow ihAfter =>
    rw [ihAfter fun n hn => inside n (.rest hn), ihBelow fun n hn => inside n (.field hn)]
  | inline _ _ ihBelow ihAfter =>
    rw [ihAfter fun n hn => inside n (.rest hn), ihBelow fun n hn => inside n (.inline hn)]
  | seen _ _ ih | undefined _ _ ih => exact ih fun n hn => inside n (.rest hn)
  | @expand _ name _ _ _ _ _ f _ _ found _ _ ihBelow ihAfter =>
    have hname : name ∈ listed := inside name .spread (by rw [found]; rfl)
    rw [ihAfter fun n hn => inside n (.rest hn), List.filter_append,
      ihBelow (closed.below hname found)]
    simp [hname]

/-- Beside a closed list a walk goes on as it would without it, and only the names on the list are
left out. While a fragment that is not on the list is being walked, the list has no part in it, so
`visiting` and the list have nothing in common. -/
theorem Walk.beside (walk : Walk d visiting selections resolved resolved') {listed : List String}
    (closed : ClosedUpTo d [] listed) (apart : ∀ v ∈ visiting, v ∉ listed) :
    Walk d visiting selections (listed ++ resolved.filter (· ∉ listed))
      (listed ++ resolved'.filter (· ∉ listed)) := by
  induction walk with
  | nil => exact .nil
  | field _ _ ihBelow ihAfter => exact .field (ihBelow apart) (ihAfter apart)
  | inline _ _ ihBelow ihAfter => exact .inline (ihBelow apart) (ihAfter apart)
  | @seen _ name _ _ _ _ known _ ih =>
    refine .seen (known.imp (fun h => ?_) id) (ih apart)
    by_cases hname : name ∈ listed
    · exact List.mem_append_left _ hname
    · exact List.mem_append_right _ (by simp [h, hname])
  | undefined missing _ ih => exact .undefined missing (ih apart)
  | @expand visiting name _ _ _ between _ f fresh idle found below _ ihBelow ihAfter =>
    have hafter := ihAfter apart
    rw [List.filter_append] at hafter
    by_cases hname : name ∈ listed
    · -- The walk from scratch goes over `f` here, but all of that is on the list.
      rw [below.inside closed (closed.below hname found)] at hafter
      refine .seen (.inl (List.mem_append_left _ hname)) ?_
      simpa [hname] using hafter
    · refine .expand ?_ idle found (ihBelow ?_) ?_
      · simp [hname, fresh]
      · intro v hv
        rcases List.mem_cons.1 hv with rfl | hv
        · exact hname
        · exact apart v hv
      · simpa [hname] using hafter

theorem fragmentClosure_append (d : DocumentSet) (selections selections' : List Selection) :
    fragmentClosure d (selections ++ selections') =
      fragmentClosure d selections ++
        (fragmentClosure d selections').filter (· ∉ fragmentClosure d selections) := by
  have first := walk_fragmentClosure d selections
  have second := (walk_fragmentClosure d selections').beside
    (closedUpTo_fragmentClosure d selections) (by simp)
  rw [List.filter_nil, List.append_nil] at second
  exact (first.concat second).visit_eq

end FragmentClosure

/-! ## Groups -/

/-- In the second list a part of the first one stands inside a field or an inline fragment. The part
may be one of selections at any depth. -/
inductive Groups : List Selection → List Selection → Prop where
  | field {before part after : List Selection} {head : FieldHead} :
      Groups (before ++ part ++ after) (before ++ .field head part :: after)
  | inline {before part after : List Selection} {condition : Option String}
      {directives : List Directive} :
      Groups (before ++ part ++ after) (before ++ .inline condition directives part :: after)
  | insideField {before inner inner' after : List Selection} {head : FieldHead}
      (h : Groups inner inner') :
      Groups (before ++ .field head inner :: after) (before ++ .field head inner' :: after)
  | insideInline {before inner inner' after : List Selection} {condition : Option String}
      {directives : List Directive} (h : Groups inner inner') :
      Groups (before ++ .inline condition directives inner :: after)
        (before ++ .inline condition directives inner' :: after)

/-- Groups were made and dissolved, any number of times. -/
def Regrouped : List Selection → List Selection → Prop :=
  Relation.EqvGen Groups

/-- A fragment keeps its name, and its selections are regrouped. -/
inductive Definition.Regrouped : Definition → Definition → Prop where
  | operation {op op' : Operation} : Definition.Regrouped (.operation op) (.operation op')
  | fragment {f f' : Fragment} (name : f.name = f'.name)
      (selections : TypedClient.Regrouped f.selections f'.selections) :
      Definition.Regrouped (.fragment f) (.fragment f')

def DocumentSet.Regrouped (d d' : DocumentSet) : Prop :=
  List.Forall₂ Definition.Regrouped d.definitions d'.definitions

namespace DocumentSet.Regrouped

variable {d d' : DocumentSet} {name : String}

theorem fragment?_rel (h : d.Regrouped d') (name : String) :
    Option.Rel (fun f f' => TypedClient.Regrouped f.selections f'.selections)
      (d.fragment? name) (d'.fragment? name) := by
  unfold DocumentSet.Regrouped at h
  unfold DocumentSet.fragment? fragments
  generalize d.definitions = definitions, d'.definitions = definitions' at h
  induction h with
  | nil => exact .none
  | cons hdefinition _ ih =>
    cases hdefinition with
    | operation => exact ih
    | @fragment f f' hname hselections =>
      show Option.Rel _ (List.find? _ (f :: _)) (List.find? _ (f' :: _))
      rw [List.find?_cons, List.find?_cons, ← hname]
      cases f.name == name with
      | true => exact .some hselections
      | false => exact ih

theorem fragment?_eq_none (h : d.Regrouped d') (missing : d.fragment? name = none) :
    d'.fragment? name = none := by
  have hname := h.fragment?_rel name
  rw [missing] at hname
  generalize d'.fragment? name = found' at hname
  cases hname
  rfl

theorem fragment?_eq_some (h : d.Regrouped d') {f : Fragment} (found : d.fragment? name = some f) :
    ∃ f', d'.fragment? name = some f' ∧ TypedClient.Regrouped f.selections f'.selections := by
  have hname := h.fragment?_rel name
  rw [found] at hname
  generalize d'.fragment? name = found' at hname
  cases hname with
  | some hselections => exact ⟨_, rfl, hselections⟩

end DocumentSet.Regrouped

namespace FragmentClosure

variable {d d' : DocumentSet} {visiting resolved resolved' : List String}
  {selections selections' : List Selection}

theorem visit_groups (h : Groups selections selections') (d : DocumentSet)
    (visiting resolved : List String) :
    visit d visiting selections' resolved = visit d visiting selections resolved := by
  induction h generalizing resolved with
  | field | inline => simp [visit_append]
  | insideField _ ih | insideInline _ ih => simp [visit_append, ih]

theorem visit_regrouped (h : Regrouped selections selections') (d : DocumentSet)
    (visiting resolved : List String) :
    visit d visiting selections' resolved = visit d visiting selections resolved := by
  induction h with
  | rel _ _ h => exact visit_groups h d visiting resolved
  | refl => rfl
  | symm _ _ _ ih => exact ih.symm
  | trans _ _ _ _ _ ih ih' => exact ih'.trans ih

theorem Walk.regrouped (walk : Walk d visiting selections resolved resolved')
    (h : Regrouped selections selections') : Walk d visiting selections' resolved resolved' := by
  have same := visit_regrouped h d visiting resolved
  rw [walk.visit_eq] at same
  exact same ▸ walk_visit d visiting selections' resolved

/-- A walk takes the same way through documents with other groups in their fragments. -/
theorem Walk.regroupedDocuments (walk : Walk d visiting selections resolved resolved')
    (h : d.Regrouped d') : Walk d' visiting selections resolved resolved' := by
  induction walk with
  | nil => exact .nil
  | field _ _ ihBelow ihAfter => exact .field ihBelow ihAfter
  | inline _ _ ihBelow ihAfter => exact .inline ihBelow ihAfter
  | seen known _ ih => exact .seen known ih
  | undefined missing _ ih => exact .undefined (h.fragment?_eq_none missing) ih
  | expand fresh idle found _ _ ihBelow ihAfter =>
    obtain ⟨f', found', hselections⟩ := h.fragment?_eq_some found
    exact .expand fresh idle found' (ihBelow.regrouped hselections) ihAfter

end FragmentClosure

/-- The closure of two lists of selections, one after the other, has what is new in the second
closure behind the first closure. Groups make no difference, neither in the selections nor in the
fragments. -/
theorem fragmentClosure_siblings_and_groups (d : DocumentSet) :
    (∀ selections selections', fragmentClosure d (selections ++ selections') =
      fragmentClosure d selections ++
        (fragmentClosure d selections').filter (· ∉ fragmentClosure d selections)) ∧
    (∀ selections selections', Regrouped selections selections' →
      fragmentClosure d selections' = fragmentClosure d selections) ∧
    ∀ d' selections, d.Regrouped d' → fragmentClosure d' selections = fragmentClosure d selections :=
  ⟨FragmentClosure.fragmentClosure_append d,
    fun _ _ h => FragmentClosure.visit_regrouped h d [] [],
    fun _ selections h =>
      ((FragmentClosure.walk_fragmentClosure d selections).regroupedDocuments h).visit_eq⟩

/-- A card and the list in it spread each other, and a page spreads the list and a banner. -/
def pagesOfCards : DocumentSet where
  definitions := [
    .fragment ⟨"card", "User", [], [.field ⟨none, "team", [], []⟩ [.spread "list" []],
      .spread "badge" []]⟩,
    .fragment ⟨"list", "Team", [], [.inline none [] [.spread "card" [], .spread "badge" []]]⟩,
    .fragment ⟨"badge", "Node", [], []⟩,
    .fragment ⟨"page", "Site", [], [.spread "list" [], .spread "banner" []]⟩,
    .fragment ⟨"banner", "Site", [], []⟩]

/-- The same fragments, with the card's selections in no field and the page's in one. -/
def regroupedPages : DocumentSet where
  definitions := [
    .fragment ⟨"card", "User", [], [.spread "list" [], .spread "badge" []]⟩,
    .fragment ⟨"list", "Team", [], [.inline none [] [.spread "card" [], .spread "badge" []]]⟩,
    .fragment ⟨"badge", "Node", [], []⟩,
    .fragment ⟨"page", "Site", [], [.field ⟨none, "top", [], []⟩ [.spread "list" []],
      .spread "banner" []]⟩,
    .fragment ⟨"banner", "Site", [], []⟩]

theorem regrouped_regroupedPages : pagesOfCards.Regrouped regroupedPages := by
  unfold DocumentSet.Regrouped
  refine .cons (.fragment rfl (.symm _ _ (.rel _ _ ?_))) (.cons (.fragment rfl (.refl _)) (.cons
    (.fragment rfl (.refl _)) (.cons (.fragment rfl (.rel _ _ ?_)) (.cons
      (.fragment rfl (.refl _)) .nil))))
  · exact @Groups.field [] [.spread "list" []] [.spread "badge" []] _
  · exact @Groups.field [] [.spread "list" []] [.spread "banner" []] _

theorem fragmentClosure_siblings_and_groups_of_pages :
    fragmentClosure pagesOfCards [.spread "page" []] =
        ["badge", "card", "list", "banner", "page"] ∧
      fragmentClosure pagesOfCards [.spread "card" [], .spread "page" []] =
        ["badge", "list", "card", "banner", "page"] ∧
      fragmentClosure regroupedPages
        [.inline none [] [.spread "card" []], .spread "page" []] =
        ["badge", "list", "card", "banner", "page"] := by
  obtain ⟨siblings, groups, documents⟩ := fragmentClosure_siblings_and_groups pagesOfCards
  have hcard : fragmentClosure pagesOfCards [.spread "card" []] = ["badge", "list", "card"] := by
    cbv
  have hpage : fragmentClosure pagesOfCards [.spread "page" []] =
      ["badge", "card", "list", "banner", "page"] := by
    cbv
  have hboth : fragmentClosure pagesOfCards [.spread "card" [], .spread "page" []] =
      ["badge", "list", "card", "banner", "page"] := by
    have h := siblings [.spread "card" []] [.spread "page" []]
    rw [hcard, hpage] at h
    exact h.trans (by decide)
  have hgroups : Regrouped [.spread "card" [], .spread "page" []]
      [.inline none [] [.spread "card" []], .spread "page" []] :=
    .rel _ _ (@Groups.inline [] [.spread "card" []] [.spread "page" []] none [])
  refine ⟨hpage, hboth, ?_⟩
  rw [documents _ _ regrouped_regroupedPages, groups _ _ hgroups, hboth]

end TypedClient
