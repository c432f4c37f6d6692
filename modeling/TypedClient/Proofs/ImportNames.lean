import Mathlib.Data.List.Sort
import Mathlib.Data.String.Basic
import TypedClient.Project

/-!
# The order of import names

Import names are recorded in any order and any number of times; what is imported is their set, in
increasing order. The order is that of the characters, and so it is also the order of the bytes
that the names have in UTF-8.
-/

namespace TypedClient

/-! ## Byte order -/

/-- The bytes of a text in UTF-8. -/
def utf8 (s : String) : List UInt8 :=
  s.toUTF8.data.toList

theorem utf8_eq_flatMap (s : String) : utf8 s = s.toList.flatMap String.utf8EncodeChar := by
  show s.toByteArray.data.toList = _
  rw [← String.utf8Encode_toList, List.utf8Encode, List.data_toByteArray]

/-- One step of the comparison of two byte sequences. -/
theorem cons_ofNat_lt {a b : Nat} {l k : List UInt8} (ha : a < 256) (hb : b < 256) (hle : a ≤ b)
    (h : a = b → l < k) : UInt8.ofNat a :: l < UInt8.ofNat b :: k := by
  rw [List.cons_lt_cons_iff, UInt8.lt_iff_toNat_lt, ← UInt8.toNat_inj, UInt8.toNat_ofNat',
    UInt8.toNat_ofNat', Nat.mod_eq_of_lt ha, Nat.mod_eq_of_lt hb]
  rcases Nat.eq_or_lt_of_le hle with heq | hlt
  · exact .inr ⟨heq, h heq⟩
  · exact .inl hlt

theorem toNat_val_lt (c : Char) : c.val.toNat < 0x110000 := by
  rcases c.valid with h | ⟨-, h⟩
  · exact Nat.lt_trans h (by decide)
  · exact h

/-- The bytes of a smaller character come first, whatever follows. A character with fewer bytes
has the smaller first byte; between characters with equally many, the first difference decides. -/
theorem utf8EncodeChar_append_lt {c d : Char} (h : c < d) (l k : List UInt8) :
    String.utf8EncodeChar c ++ l < String.utf8EncodeChar d ++ k := by
  have hlt : c.val.toNat < d.val.toNat := h
  have hmax := toNat_val_lt d
  unfold String.utf8EncodeChar
  generalize c.val.toNat = v at *
  generalize d.val.toNat = w at *
  clear h
  dsimp only
  by_cases hv1 : v ≤ 0x7f
  · rw [if_pos hv1]
    split
    · exact cons_ofNat_lt (by omega) (by omega) (by omega) (by omega)
    · split
      · exact cons_ofNat_lt (by omega) (by omega) (by omega) (by omega)
      · split <;> exact cons_ofNat_lt (by omega) (by omega) (by omega) (by omega)
  · rw [if_neg hv1, if_neg (by omega : ¬ w ≤ 0x7f)]
    by_cases hv2 : v ≤ 0x7ff
    · rw [if_pos hv2]
      split
      · refine cons_ofNat_lt (by omega) (by omega) (by omega) fun hlead => ?_
        exact cons_ofNat_lt (by omega) (by omega) (by omega) (by omega)
      · split <;> exact cons_ofNat_lt (by omega) (by omega) (by omega) (by omega)
    · rw [if_neg hv2, if_neg (by omega : ¬ w ≤ 0x7ff)]
      by_cases hv3 : v ≤ 0xffff
      · rw [if_pos hv3]
        split
        · refine cons_ofNat_lt (by omega) (by omega) (by omega) fun hlead => ?_
          refine cons_ofNat_lt (by omega) (by omega) (by omega) fun hnext => ?_
          exact cons_ofNat_lt (by omega) (by omega) (by omega) (by omega)
        · exact cons_ofNat_lt (by omega) (by omega) (by omega) (by omega)
      · rw [if_neg hv3, if_neg (by omega : ¬ w ≤ 0xffff)]
        refine cons_ofNat_lt (by omega) (by omega) (by omega) fun hlead => ?_
        refine cons_ofNat_lt (by omega) (by omega) (by omega) fun hnext => ?_
        refine cons_ofNat_lt (by omega) (by omega) (by omega) fun hthird => ?_
        exact cons_ofNat_lt (by omega) (by omega) (by omega) (by omega)

theorem flatMap_utf8EncodeChar_lt {l k : List Char} (h : l < k) :
    l.flatMap String.utf8EncodeChar < k.flatMap String.utf8EncodeChar := by
  induction h with
  | nil =>
    rename_i d k
    rw [List.flatMap_nil, List.flatMap_cons]
    obtain ⟨b, bs, hb⟩ := List.exists_cons_of_ne_nil (String.utf8EncodeChar_ne_nil (c := d))
    rw [hb]
    exact .nil
  | cons _ ih =>
    rw [List.flatMap_cons, List.flatMap_cons]
    exact List.append_left_lt ih
  | rel hlt =>
    rw [List.flatMap_cons, List.flatMap_cons]
    exact utf8EncodeChar_append_lt hlt _ _

/-- The order of texts is the order of their bytes. -/
theorem utf8_lt_of_lt {s t : String} (h : s < t) : utf8 s < utf8 t := by
  rw [utf8_eq_flatMap, utf8_eq_flatMap]
  exact flatMap_utf8EncodeChar_lt (String.lt_iff.1 h)

/-! ## Import names -/

theorem mem_insertName {x name : String} {names : List String} :
    x ∈ insertName name names ↔ x = name ∨ x ∈ names := by
  induction names with
  | nil => simp [insertName]
  | cons other rest ih =>
    rw [insertName]
    split
    · rw [List.mem_cons]
    · split
      · rename_i heq
        simp [heq]
      · rw [List.mem_cons, List.mem_cons, ih]
        exact or_left_comm

theorem pairwise_insertName (name : String) {names : List String}
    (h : names.Pairwise (· < ·)) : (insertName name names).Pairwise (· < ·) := by
  induction names with
  | nil => simp [insertName]
  | cons other rest ih =>
    obtain ⟨hother, hrest⟩ := List.pairwise_cons.1 h
    rw [insertName]
    split
    · rename_i hlt
      refine List.pairwise_cons.2 ⟨fun x hx => ?_, h⟩
      rcases List.mem_cons.1 hx with rfl | hx
      · exact hlt
      · exact lt_trans hlt (hother x hx)
    · split
      · exact h
      · rename_i hnlt hne
        refine List.pairwise_cons.2 ⟨fun x hx => ?_, ih hrest⟩
        rcases mem_insertName.1 hx with rfl | hx
        · exact lt_of_le_of_ne (not_lt.1 hnlt) (Ne.symm hne)
        · exact hother x hx

@[simp] theorem mem_importNames {x : String} {recorded : List String} :
    x ∈ importNames recorded ↔ x ∈ recorded := by
  induction recorded with
  | nil => simp [importNames]
  | cons name recorded ih =>
    rw [importNames, List.foldr_cons, mem_insertName, List.mem_cons, ← importNames, ih]

theorem pairwise_importNames (recorded : List String) :
    (importNames recorded).Pairwise (· < ·) := by
  induction recorded with
  | nil => exact .nil
  | cons name recorded ih => exact pairwise_insertName name ih

/-- Only the set of the recorded names matters. -/
theorem importNames_congr {recorded recorded' : List String}
    (h : ∀ x, x ∈ recorded ↔ x ∈ recorded') : importNames recorded = importNames recorded' := by
  refine (pairwise_importNames recorded).eq_of_mem_iff (pairwise_importNames recorded') fun x => ?_
  rw [mem_importNames, mem_importNames, h]

theorem importNames_sublist {recorded recorded' : List String} (h : recorded ⊆ recorded') :
    (importNames recorded).Sublist (importNames recorded') := by
  have hsub : importNames recorded ⊆ importNames recorded' := by
    intro x hx
    exact mem_importNames.2 (h (mem_importNames.1 hx))
  exact List.sublist_of_subperm_of_pairwise
    (List.subperm_of_subset (pairwise_importNames recorded).nodup hsub)
    (pairwise_importNames recorded) (pairwise_importNames recorded')

theorem pairwise_utf8_importNames (recorded : List String) :
    (importNames recorded).Pairwise fun a b => utf8 a < utf8 b :=
  (pairwise_importNames recorded).imp utf8_lt_of_lt

end TypedClient
