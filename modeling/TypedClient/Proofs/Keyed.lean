import Mathlib.Data.List.Basic
import Mathlib.Data.List.Induction
import TypedClient.Keyed

/-!
# What is in a keyed list

A list put together item by item has the keys in the order in which they first came, and under each
key the item that came last. Keys and lookups together determine the list.
-/

namespace TypedClient.Keyed

variable {α : Type} {key : α → String}

/-! ## One item -/

theorem keys_put (k : Keyed key) (a : α) :
    (k.put a).keys = if key a ∈ k.keys then k.keys else k.keys ++ [key a] :=
  map_putItem a k.items

theorem find?_putItem (a : α) (l : List α) (name : String) :
    (putItem key a l).find? (key · == name) =
      if key a = name then some a else l.find? (key · == name) := by
  induction l with
  | nil =>
    by_cases hname : key a = name
    · simp [putItem, hname]
    · simp [putItem, hname]
  | cons b bs ih =>
    by_cases hb : key b = key a
    · rw [putItem, if_pos hb]
      by_cases hname : key a = name
      · rw [if_pos hname, List.find?_cons_of_pos (by simpa using hname)]
      · have hold : key b ≠ name := hb ▸ hname
        rw [if_neg hname, List.find?_cons_of_neg (by simpa using hname),
          List.find?_cons_of_neg (by simpa using hold)]
    · rw [putItem, if_neg hb]
      by_cases hname : key b = name
      · have hnew : key a ≠ name := fun h => hb (hname.trans h.symm)
        rw [if_neg hnew, List.find?_cons_of_pos (by simpa using hname),
          List.find?_cons_of_pos (by simpa using hname)]
      · rw [List.find?_cons_of_neg (by simpa using hname),
          List.find?_cons_of_neg (by simpa using hname), ih]

theorem find?_put (k : Keyed key) (a : α) (name : String) :
    (k.put a).find? name = if key a = name then some a else k.find? name :=
  find?_putItem a k.items name

/-! ## Lists of items -/

theorem ofList_concat (l : List α) (a : α) :
    (ofList (l ++ [a]) : Keyed key) = (ofList l).put a :=
  List.foldl_concat put empty a l

/-- Each key once, in the order in which the keys first came. -/
theorem keys_ofList (l : List α) : (ofList l : Keyed key).keys = (l.map key).eraseDups := by
  induction l using List.reverseRecOn with
  | nil => rfl
  | append_singleton l a ih =>
    rw [ofList_concat, keys_put, ih, List.map_append, List.map_singleton, List.eraseDups_append]
    by_cases h : key a ∈ l.map key
    · have hnew : [key a].removeAll (l.map key) = [] := by
        rw [List.removeAll, List.filter_cons_of_neg (by simpa using h)]
        rfl
      rw [if_pos (List.mem_eraseDups.2 h), hnew]
      exact (List.append_nil _).symm
    · have hnew : [key a].removeAll (l.map key) = [key a] := by
        rw [List.removeAll, List.filter_cons_of_pos (by simpa using h)]
        rfl
      rw [if_neg (mt List.mem_eraseDups.1 h), hnew]
      rfl

/-- Under each key, the item that came last. -/
theorem find?_ofList (l : List α) (name : String) :
    (ofList l : Keyed key).find? name = (l.filter (key · == name)).getLast? := by
  induction l using List.reverseRecOn with
  | nil => rfl
  | append_singleton l a ih =>
    rw [ofList_concat, find?_put, ih, List.filter_append, List.getLast?_append]
    by_cases h : key a = name
    · simp [h]
    · simp [h]

theorem putItem_of_new {a : α} {l : List α} (h : key a ∉ l.map key) :
    putItem key a l = l ++ [a] := by
  induction l with
  | nil => rfl
  | cons b bs ih =>
    obtain ⟨hb, hbs⟩ : key a ≠ key b ∧ key a ∉ bs.map key := by simpa using h
    rw [putItem, if_neg (Ne.symm hb), ih hbs, List.cons_append]

/-- Items with distinct keys stay as they are. -/
theorem items_ofList {l : List α} (h : (l.map key).Nodup) : (ofList l : Keyed key).items = l := by
  induction l using List.reverseRecOn with
  | nil => rfl
  | append_singleton l a ih =>
    rw [List.map_append, List.map_singleton] at h
    obtain ⟨hl, -, hdisjoint⟩ := List.nodup_append.1 h
    have hnew : key a ∉ l.map key := fun ha => hdisjoint _ ha _ (List.mem_singleton.2 rfl) rfl
    rw [ofList_concat]
    show putItem key a (ofList l : Keyed key).items = _
    rw [ih hl, putItem_of_new hnew]

theorem ofList_items (k : Keyed key) : (ofList k.items : Keyed key) = k := by
  obtain ⟨items, nodup⟩ := k
  have hitems := items_ofList nodup
  generalize (ofList items : Keyed key) = k' at hitems
  obtain ⟨items', nodup'⟩ := k'
  cases hitems
  rfl

/-! ## Items under a map -/

theorem keys_map (f : α → α) (h : ∀ a, key (f a) = key a) (k : Keyed key) :
    (k.map f h).keys = k.keys := by
  show (k.items.map f).map key = k.items.map key
  rw [List.map_map]
  exact List.map_congr_left fun a _ => h a

theorem find?_map (f : α → α) (h : ∀ a, key (f a) = key a) (k : Keyed key) (name : String) :
    (k.map f h).find? name = (k.find? name).map f := by
  show (k.items.map f).find? _ = _
  have hkey : ((key · == name) ∘ f) = (key · == name) := by
    funext a
    show (key (f a) == name) = _
    rw [h]
  rw [List.find?_map, hkey]
  rfl

/-! ## Keys and lookups -/

/-- Every item is found under its own key. -/
theorem find?_key (k : Keyed key) {a : α} (h : a ∈ k.items) : k.find? (key a) = some a := by
  obtain ⟨items, nodup⟩ := k
  show items.find? (key · == key a) = some a
  change a ∈ items at h
  induction items with
  | nil => cases h
  | cons b bs ih =>
    obtain ⟨hb, nodup⟩ := List.nodup_cons.1 nodup
    rcases List.mem_cons.1 h with rfl | h
    · simp
    · have hne : key b ≠ key a := fun he => hb (he ▸ List.mem_map_of_mem h)
      rw [List.find?_cons_of_neg (by simpa using hne)]
      exact ih nodup h

theorem find?_eq_some_iff {k : Keyed key} {name : String} {a : α} :
    k.find? name = some a ↔ a ∈ k.items ∧ key a = name := by
  constructor
  · intro h
    exact ⟨List.mem_of_find?_eq_some h, by simpa using List.find?_some h⟩
  · rintro ⟨ha, rfl⟩
    exact k.find?_key ha

theorem keys_map_find? (k : Keyed key) : k.keys.map k.find? = k.items.map some := by
  show (k.items.map key).map k.find? = _
  rw [List.map_map]
  exact List.map_congr_left fun a ha => k.find?_key ha

theorem ext_find? {k k' : Keyed key} (hkeys : k.keys = k'.keys)
    (hfind : ∀ name, k.find? name = k'.find? name) : k = k' := by
  have hitems : k.items.map some = k'.items.map some := by
    rw [← keys_map_find?, ← keys_map_find?, hkeys, funext hfind]
  have heq : k.items = k'.items := List.map_injective_iff.2 (fun _ _ => Option.some.inj) hitems
  obtain ⟨items, nodup⟩ := k
  obtain ⟨items', nodup'⟩ := k'
  cases heq
  rfl

end TypedClient.Keyed
