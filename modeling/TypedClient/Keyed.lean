/-!
# Lists with distinct keys

A `Keyed key` is a list whose items have distinct keys, in the order in which the keys first came.
Putting an item under a key that is there replaces the old item in its place.
-/

namespace TypedClient

structure Keyed {α : Type} (key : α → String) where
  items : List α
  nodup : (items.map key).Nodup

namespace Keyed

variable {α : Type} {key : α → String}

def empty : Keyed key := ⟨[], List.nodup_nil⟩

instance : Inhabited (Keyed key) := ⟨empty⟩

def keys (k : Keyed key) : List String := k.items.map key

def find? (k : Keyed key) (name : String) : Option α :=
  k.items.find? (key · == name)

/-- Puts `a` in the place of the item with its key, or at the end. -/
def putItem (key : α → String) (a : α) : List α → List α
  | [] => [a]
  | b :: bs => if key b = key a then a :: bs else b :: putItem key a bs

theorem map_putItem (a : α) (l : List α) :
    (putItem key a l).map key =
      if key a ∈ l.map key then l.map key else l.map key ++ [key a] := by
  induction l with
  | nil => simp [putItem]
  | cons b bs ih =>
    by_cases h : key b = key a
    · simp [putItem, h]
    · have hab : ¬ key a = key b := fun e => h e.symm
      by_cases hm : key a ∈ bs.map key <;> simp_all [putItem]

theorem nodup_map_putItem (a : α) {l : List α} (h : (l.map key).Nodup) :
    ((putItem key a l).map key).Nodup := by
  rw [map_putItem]
  split
  · exact h
  · rename_i hm
    refine List.nodup_append.2 ⟨h, by simp, ?_⟩
    intro x hx y hy
    simp only [List.mem_singleton] at hy
    rintro rfl
    exact hm (hy ▸ hx)

def put (k : Keyed key) (a : α) : Keyed key :=
  ⟨putItem key a k.items, nodup_map_putItem a k.nodup⟩

def ofList (l : List α) : Keyed key :=
  l.foldl put empty

/-- Changes items and keeps their keys. -/
def map (f : α → α) (h : ∀ a, key (f a) = key a) (k : Keyed key) : Keyed key :=
  ⟨k.items.map f, by
    have : (k.items.map f).map key = k.items.map key := by
      rw [List.map_map]; exact List.map_congr_left fun a _ => h a
    rw [this]; exact k.nodup⟩

end Keyed

end TypedClient
