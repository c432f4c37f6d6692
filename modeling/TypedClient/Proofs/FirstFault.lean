import Mathlib.Data.List.Forall2
import TypedClient.Error

/-!
# The first fault

Items are looked at in order, and the first one with a fault decides the error. `FirstFault` says
so of a list of items, and the lemmas connect it with the traversal of a list by computations that
can fail.
-/

namespace TypedClient

variable {α β : Type}

/-- `e` is the fault of the first item that has one. -/
def FirstFault (fault : α → Error → Prop) (items : List α) (e : Error) : Prop :=
  ∃ before item after, items = before ++ item :: after ∧
    (∀ x ∈ before, ∀ e', ¬ fault x e') ∧ fault item e

namespace FirstFault

variable {fault : α → Error → Prop} {e : Error}

theorem not_nil : ¬ FirstFault fault [] e := by
  rintro ⟨before, item, after, h, -, -⟩
  simp at h

theorem cons_iff {item : α} {items : List α} :
    FirstFault fault (item :: items) e ↔
      fault item e ∨ (∀ e', ¬ fault item e') ∧ FirstFault fault items e := by
  constructor
  · rintro ⟨before, found, after, h, clean, hfault⟩
    cases before with
    | nil =>
      obtain ⟨rfl, rfl⟩ := List.cons.inj h
      exact .inl hfault
    | cons first before =>
      obtain ⟨rfl, rfl⟩ := List.cons.inj h
      refine .inr ⟨clean item List.mem_cons_self, before, found, after, rfl, ?_, hfault⟩
      exact fun x hx => clean x (List.mem_cons_of_mem _ hx)
  · rintro (hfault | ⟨hitem, before, found, after, rfl, clean, hfault⟩)
    · exact ⟨[], item, items, rfl, by simp, hfault⟩
    · refine ⟨item :: before, found, after, rfl, ?_, hfault⟩
      intro x hx
      rcases List.mem_cons.1 hx with rfl | hx
      · exact hitem
      · exact clean x hx

theorem append_iff {items more : List α} :
    FirstFault fault (items ++ more) e ↔
      FirstFault fault items e ∨
        (∀ item ∈ items, ∀ e', ¬ fault item e') ∧ FirstFault fault more e := by
  induction items with
  | nil => simp [not_nil]
  | cons item items ih =>
    rw [List.cons_append, cons_iff, cons_iff, ih]
    simp only [List.mem_cons, forall_eq_or_imp]
    constructor
    · rintro (h | ⟨hitem, h | ⟨hitems, h⟩⟩)
      · exact .inl (.inl h)
      · exact .inl (.inr ⟨hitem, h⟩)
      · exact .inr ⟨⟨hitem, hitems⟩, h⟩
    · rintro ((h | ⟨hitem, h⟩) | ⟨⟨hitem, hitems⟩, h⟩)
      · exact .inl h
      · exact .inr ⟨hitem, .inl h⟩
      · exact .inr ⟨hitem, .inr ⟨hitems, h⟩⟩

theorem map_iff {g : β → α} {items : List β} :
    FirstFault fault (items.map g) e ↔ FirstFault (fun item => fault (g item)) items e := by
  induction items with
  | nil => simp [not_nil]
  | cons item items ih => rw [List.map_cons, cons_iff, cons_iff, ih]

theorem filterMap_iff {g : β → Option α} {items : List β} :
    FirstFault fault (items.filterMap g) e ↔
      FirstFault (fun item e => ∃ a, g item = some a ∧ fault a e) items e := by
  induction items with
  | nil => simp [not_nil]
  | cons item items ih =>
    rw [cons_iff]
    cases hg : g item with
    | none =>
      rw [List.filterMap_cons_none hg, ih]
      simp
    | some a =>
      rw [List.filterMap_cons_some hg, cons_iff, ih]
      simp

/-- If some item has a fault, some item is the first one. -/
theorem exists_iff {items : List α} :
    (∃ e, FirstFault fault items e) ↔ ∃ item ∈ items, ∃ e, fault item e := by
  constructor
  · rintro ⟨e, before, item, after, rfl, -, hfault⟩
    exact ⟨item, by simp, e, hfault⟩
  · rintro ⟨item, hmem, e, hfault⟩
    induction items with
    | nil => simp at hmem
    | cons first items ih =>
      by_cases hfirst : ∃ e', fault first e'
      · obtain ⟨e', he'⟩ := hfirst
        exact ⟨e', cons_iff.2 (.inl he')⟩
      · rcases List.mem_cons.1 hmem with rfl | hmem
        · exact absurd ⟨e, hfault⟩ hfirst
        · obtain ⟨e', he'⟩ := ih hmem
          exact ⟨e', cons_iff.2 (.inr ⟨fun e'' h => hfirst ⟨e'', h⟩, he'⟩)⟩

theorem forall_not_iff {items : List α} :
    (∀ e, ¬ FirstFault fault items e) ↔ ∀ item ∈ items, ∀ e, ¬ fault item e := by
  rw [← not_exists, exists_iff]
  simp only [not_exists, not_and]

theorem flatMap_iff {g : β → List α} {items : List β} :
    FirstFault fault (items.flatMap g) e ↔
      FirstFault (fun item => FirstFault fault (g item)) items e := by
  induction items with
  | nil => simp [not_nil]
  | cons item items ih =>
    rw [List.flatMap_cons, append_iff, cons_iff, ih, forall_not_iff]

end FirstFault

/-! ## Computations that can fail -/

theorem map_eq_error_iff {x : Except Error α} {f : α → β} {e : Error} :
    x.map f = .error e ↔ x = .error e := by
  cases x <;> simp [Except.map]

theorem map_eq_ok_iff {ε : Type} {x : Except ε α} {f : α → β} {b : β} :
    x.map f = .ok b ↔ ∃ a, x = .ok a ∧ f a = b := by
  cases x <;> simp [Except.map]

theorem mapError_eq_error_iff {ε : Type} {x : Except ε α} {f : ε → Error} {e : Error} :
    x.mapError f = .error e ↔ ∃ e', x = .error e' ∧ f e' = e := by
  cases x <;> simp [Except.mapError]

theorem mapError_eq_ok_iff {ε : Type} {x : Except ε α} {f : ε → Error} {a : α} :
    x.mapError f = .ok a ↔ x = .ok a := by
  cases x <;> simp [Except.mapError]

theorem bind_eq_error_iff {x : Except Error α} {f : α → Except Error β} {e : Error} :
    (x >>= f) = .error e ↔ x = .error e ∨ ∃ a, x = .ok a ∧ f a = .error e := by
  cases x with
  | error e' =>
    show Except.error e' = .error e ↔ _
    simp
  | ok a =>
    show f a = .error e ↔ _
    simp

/-- A computation whose result is only put into another form fails as it is. -/
theorem bind_pure_eq_error_iff {x : Except Error α} {f : α → β} {e : Error} :
    (x >>= fun a => pure (f a)) = .error e ↔ x = .error e := by
  rw [bind_eq_error_iff]
  refine or_iff_left ?_
  rintro ⟨a, -, h⟩
  cases h

theorem bind_eq_ok_iff {ε : Type} {x : Except ε α} {f : α → Except ε β} {b : β} :
    (x >>= f) = .ok b ↔ ∃ a, x = .ok a ∧ f a = .ok b := by
  cases x with
  | error e' =>
    show Except.error e' = .ok b ↔ _
    simp
  | ok a =>
    show f a = .ok b ↔ _
    simp

theorem ok_of_no_error {x : Except Error α} (h : ∀ e, x ≠ .error e) : ∃ a, x = .ok a := by
  cases x with
  | error e => exact absurd rfl (h e)
  | ok a => exact ⟨a, rfl⟩

/-- Two stages: the items of the second are looked at when the first has no fault. -/
theorem FirstFault.of_bind {γ : Type} {fault : γ → Error → Prop} {x : Except Error α}
    {f : α → Except Error β} {items more : List γ}
    (hx : ∀ e, x = .error e ↔ FirstFault fault items e)
    (hf : ∀ a, x = .ok a → ∀ e, f a = .error e ↔ FirstFault fault more e) (e : Error) :
    (x >>= f) = .error e ↔ FirstFault fault (items ++ more) e := by
  rw [bind_eq_error_iff, append_iff, hx, ← forall_not_iff]
  refine or_congr_right ⟨?_, ?_⟩
  · rintro ⟨a, ha, h⟩
    refine ⟨fun e' he' => ?_, (hf a ha e).1 h⟩
    rw [(hx e').2 he'] at ha
    cases ha
  · rintro ⟨clean, h⟩
    obtain ⟨a, ha⟩ := ok_of_no_error fun e' he' => clean e' ((hx e').1 he')
    exact ⟨a, ha, (hf a ha e).2 h⟩

/-- A traversal fails with the first fault of its items. -/
theorem mapM_eq_error_iff {f : α → Except Error β} {fault : α → Error → Prop}
    (hf : ∀ a e, f a = .error e ↔ fault a e) {items : List α} {e : Error} :
    items.mapM f = .error e ↔ FirstFault fault items e := by
  induction items with
  | nil =>
    rw [List.mapM_nil]
    exact ⟨nofun, fun h => absurd h FirstFault.not_nil⟩
  | cons item items ih =>
    rw [List.mapM_cons, bind_eq_error_iff, FirstFault.cons_iff, hf]
    refine or_congr_right ?_
    constructor
    · rintro ⟨b, hb, h⟩
      rcases bind_eq_error_iff.1 h with h | ⟨bs, -, h⟩
      · refine ⟨fun e' he' => ?_, ih.1 h⟩
        rw [(hf item e').2 he'] at hb
        cases hb
      · cases h
    · rintro ⟨clean, h⟩
      obtain ⟨b, hb⟩ := ok_of_no_error fun e' he' => clean e' ((hf item e').1 he')
      exact ⟨b, hb, bind_eq_error_iff.2 (.inl (ih.2 h))⟩

theorem mapM_eq_ok_iff {f : α → Except Error β} {items : List α} {results : List β} :
    items.mapM f = .ok results ↔ List.Forall₂ (fun a b => f a = .ok b) items results := by
  induction items generalizing results with
  | nil =>
    rw [List.mapM_nil, List.forall₂_nil_left_iff]
    constructor
    · intro h
      cases h
      rfl
    · rintro rfl
      rfl
  | cons item items ih =>
    rw [List.mapM_cons, List.forall₂_cons_left_iff, bind_eq_ok_iff]
    constructor
    · rintro ⟨b, hb, h⟩
      obtain ⟨bs, hbs, h⟩ := bind_eq_ok_iff.1 h
      cases h
      exact ⟨b, bs, hb, ih.1 hbs, rfl⟩
    · rintro ⟨b, bs, hb, hbs, rfl⟩
      exact ⟨b, hb, bind_eq_ok_iff.2 ⟨bs, ih.2 hbs, rfl⟩⟩

theorem exists_mem_of_forall₂ {r : α → β → Prop} {items : List α} {results : List β}
    (h : List.Forall₂ r items results) {b : β} (hb : b ∈ results) : ∃ a ∈ items, r a b := by
  induction h with
  | nil => cases hb
  | @cons a b' items results hr _ ih =>
    rcases List.mem_cons.1 hb with rfl | hb
    · exact ⟨a, List.mem_cons_self, hr⟩
    · obtain ⟨a', ha', hr'⟩ := ih hb
      exact ⟨a', List.mem_cons_of_mem a ha', hr'⟩

/-- The results of two traversals of one list belong together. -/
theorem forall₂_of_common {γ : Type} {r : α → β → Prop} {r' : α → γ → Prop} {t : β → γ → Prop}
    {items : List α} {results : List β} {results' : List γ} (h : List.Forall₂ r items results)
    (h' : List.Forall₂ r' items results')
    (ht : ∀ a ∈ items, ∀ b b', r a b → r' a b' → t b b') : List.Forall₂ t results results' := by
  induction h generalizing results' with
  | nil =>
    cases h'
    exact .nil
  | @cons a b items results hr _ ih =>
    obtain ⟨b', results', hr', hrest', rfl⟩ := List.forall₂_cons_left_iff.1 h'
    refine .cons (ht a List.mem_cons_self b b' hr hr') (ih hrest' ?_)
    exact fun x hx => ht x (List.mem_cons_of_mem a hx)

/-- Results that are a function of the items are the images of the items. -/
theorem map_eq_of_forall₂ {r : α → β → Prop} {g : α → β} {items : List α} {results : List β}
    (h : List.Forall₂ r items results) (hr : ∀ a b, r a b → g a = b) :
    items.map g = results := by
  induction h with
  | nil => rfl
  | cons hab _ ih => rw [List.map_cons, hr _ _ hab, ih]

end TypedClient
