import Mathlib.Algebra.Order.Ring.Int
import Mathlib.Algebra.Order.BigOperators.Group.List
import Mathlib.Data.List.AList

/-!
# Sums over a map

The total of the weights of the values of a map, and how the operations of the
map change it.
-/

namespace RealtimeEx

variable {α β M : Type*} [DecidableEq α] [AddCommMonoid M] (w : β → M)
  {m : AList fun _ : α => β} {a : α} {b : β}

/-- The sum of the weights of the values of a map. -/
def mapTotal (m : AList fun _ : α => β) : M := (m.entries.map fun entry => w entry.2).sum

/-- A value that is taken out of the map is taken out of the total. -/
theorem mapTotal_erase_add (h : m.lookup a = some b) :
    mapTotal w (m.erase a) + w b = mapTotal w m := by
  have hmem : a ∈ m.entries.keys :=
    List.dlookup_isSome.mp (Option.isSome_iff_exists.mpr ⟨b, h⟩)
  obtain ⟨b', before, after, -, hentries, herase⟩ := List.exists_of_kerase hmem
  have hvalue : m.lookup a = some b' := by
    refine AList.mem_lookup_iff.mpr ?_
    rw [hentries]
    exact List.mem_append_right before List.mem_cons_self
  obtain rfl : b = b' := Option.some.inj (h.symm.trans hvalue)
  have hkept : (m.erase a).entries = before ++ after := herase
  unfold mapTotal
  rw [hkept, hentries, List.map_append, List.map_append, List.map_cons, List.sum_append,
    List.sum_append, List.sum_cons, add_assoc, add_comm (List.sum _) (w b)]

/-- A value that is put into the map adds its weight, in the place of the one before. -/
theorem mapTotal_insert (m : AList fun _ : α => β) (a : α) (b : β) :
    mapTotal w (m.insert a b) = w b + mapTotal w (m.erase a) := by
  unfold mapTotal
  rw [AList.entries_insert, List.map_cons, List.sum_cons]
  rfl

theorem mapTotal_erase_of_not_mem (h : a ∉ m) : mapTotal w (m.erase a) = mapTotal w m := by
  have hsame : (m.erase a).entries = m.entries := List.kerase_of_notMem_keys h
  unfold mapTotal
  rw [hsame]

theorem mapTotal_insert_of_not_mem (h : a ∉ m) (b : β) :
    mapTotal w (m.insert a b) = w b + mapTotal w m := by
  rw [mapTotal_insert, mapTotal_erase_of_not_mem w h]

/-- A value that replaces another. -/
theorem mapTotal_insert_add (h : m.lookup a = some b) (b' : β) :
    mapTotal w (m.insert a b') + w b = w b' + mapTotal w m := by
  rw [mapTotal_insert, add_assoc, mapTotal_erase_add w h]

/-- A map without weights has none in total. -/
theorem mapTotal_eq_zero (h : ∀ a b, m.lookup a = some b → w b = 0) : mapTotal w m = 0 := by
  refine List.sum_eq_zero fun x hx => ?_
  obtain ⟨entry, hentry, rfl⟩ := List.mem_map.mp hx
  exact h entry.1 entry.2 (AList.mem_lookup_iff.mpr hentry)

/-- Weights that are not negative are not negative in total. -/
theorem mapTotal_nonneg [Preorder M] [AddLeftMono M]
    (h : ∀ a b, m.lookup a = some b → 0 ≤ w b) : 0 ≤ mapTotal w m := by
  refine List.sum_nonneg fun x hx => ?_
  obtain ⟨entry, hentry, rfl⟩ := List.mem_map.mp hx
  exact h entry.1 entry.2 (AList.mem_lookup_iff.mpr hentry)

end RealtimeEx
