import Mathlib.Algebra.Order.Ring.Int
import Mathlib.Data.List.Basic
import Mathlib.Data.List.Nodup
import Mathlib.Logic.Function.Basic
import Mathlib.Tactic.Common

/-!
# Tables with an index

Every element of a list has its position stored with it.  An element is removed by putting
the last one into its place, so that only one other position changes.  The elements before
some position may have given theirs up.

Or a table has rows with an attribute, and for each value of the attribute a list of keys.
The list is the index of the table if it has every key of a row with that value once.
-/

namespace RealtimeEx

/-! ## Lists whose elements know their positions -/

section Positions

universe u

variable {α : Type u} {entries : List α} {index : α → Option ℕ} {n : ℕ} {x : α}

/-- From a position on, what is stored for the elements is where they stand. -/
structure IndexedFrom (entries : List α) (index : α → Option ℕ) (n : ℕ) : Prop where
  le : n ≤ entries.length
  index_iff : ∀ x i, index x = some i ↔ n ≤ i ∧ entries[i]? = some x

/-- The last element is put into a place, and its own one is taken off. -/
def swapRemove (entries : List α) (i : ℕ) : List α :=
  match entries.getLast? with
  | none => entries
  | some last => (entries.set i last).dropLast

namespace IndexedFrom

theorem nil : IndexedFrom ([] : List α) (fun _ => none) 0 := by
  refine ⟨Nat.le_refl 0, fun x i => ?_⟩
  simp

theorem lt_of_index (h : IndexedFrom entries index n) {i : ℕ} (hindex : index x = some i) :
    n ≤ i ∧ i < entries.length := by
  obtain ⟨hle, hentry⟩ := (h.index_iff x i).mp hindex
  exact ⟨hle, (List.getElem?_eq_some_iff.mp hentry).1⟩

/-- An element that stands in the list has its position. -/
theorem index_of_getElem? (h : IndexedFrom entries index n) {i : ℕ} (hle : n ≤ i)
    (hentry : entries[i]? = some x) : index x = some i :=
  (h.index_iff x i).mpr ⟨hle, hentry⟩

/-- An element does not stand in two places. -/
theorem eq_of_getElem? (h : IndexedFrom entries index n) {i j : ℕ} (hi : n ≤ i) (hj : n ≤ j)
    (hentry : entries[i]? = some x) (hother : entries[j]? = some x) : i = j := by
  have hindex := h.index_of_getElem? hi hentry
  rw [h.index_of_getElem? hj hother] at hindex
  exact (Option.some.inj hindex).symm

/-- When all have given their places up, nothing is stored any more. -/
theorem reset (h : IndexedFrom entries index n) (hend : entries.length ≤ n) :
    IndexedFrom [] index 0 := by
  refine ⟨Nat.zero_le _, fun x i => (h.index_iff x i).trans (iff_of_false ?_ ?_)⟩
  · rintro ⟨hle, hentry⟩
    have hlt := (List.getElem?_eq_some_iff.mp hentry).1
    omega
  · rintro ⟨-, hentry⟩
    cases hentry

variable [DecidableEq α]

/-- A new element is put behind the end. -/
theorem push (h : IndexedFrom entries index n) (hx : index x = none) :
    IndexedFrom (entries ++ [x]) (Function.update index x (some entries.length)) n := by
  have hle := h.le
  have hfree : ∀ i, ¬ (n ≤ i ∧ entries[i]? = some x) := by
    intro i hentry
    rw [← h.index_iff, hx] at hentry
    cases hentry
  refine ⟨?_, fun y i => ?_⟩
  · rw [List.length_append]
    omega
  by_cases hy : y = x
  · subst hy
    rw [Function.update_self, List.getElem?_append]
    split
    · rename_i hlt
      refine iff_of_false ?_ (hfree i)
      rintro ⟨⟩
      exact Nat.lt_irrefl _ hlt
    · rw [List.getElem?_singleton]
      simp only [Option.some.injEq]
      split
      · simp only [and_true]
        omega
      · simp only [reduceCtorEq, and_false, iff_false]
        omega
  · rw [Function.update_of_ne hy, h.index_iff, List.getElem?_append]
    split
    · rfl
    · rename_i hge
      rw [List.getElem?_eq_none (Nat.le_of_not_lt hge), List.getElem?_singleton]
      refine iff_of_false (fun hentry => by cases hentry.2) ?_
      rintro ⟨-, hentry⟩
      split at hentry
      · exact hy (Option.some.inj hentry).symm
      · cases hentry

/-- The element at the position gives its place up. -/
theorem advance (h : IndexedFrom entries index n) (hentry : entries[n]? = some x) :
    IndexedFrom entries (Function.update index x none) (n + 1) := by
  refine ⟨(List.getElem?_eq_some_iff.mp hentry).1, fun y i => ?_⟩
  by_cases hy : y = x
  · subst hy
    rw [Function.update_self]
    refine iff_of_false (by rintro ⟨⟩) ?_
    rintro ⟨hlt, hsame⟩
    have heq := h.eq_of_getElem? (Nat.le_refl n) (Nat.le_of_succ_le hlt) hentry hsame
    omega
  · rw [Function.update_of_ne hy, h.index_iff]
    refine and_congr_left fun hsame => ?_
    constructor
    · intro hle
      refine Nat.lt_of_le_of_ne hle ?_
      rintro rfl
      rw [hentry] at hsame
      exact hy (Option.some.inj hsame).symm
    · exact Nat.le_of_succ_le

end IndexedFrom

theorem getElem?_swapRemove {last : α} (hlast : entries.getLast? = some last) {i : ℕ}
    (hi : i < entries.length) (k : ℕ) (y : α) :
    (swapRemove entries i)[k]? = some y ↔ k < entries.length - 1 ∧
      (k = i ∧ last = y ∨ k ≠ i ∧ entries[k]? = some y) := by
  rw [swapRemove, hlast]
  dsimp only
  rw [List.getElem?_dropLast, List.length_set]
  split
  · rename_i hk
    rw [and_iff_right hk, List.getElem?_set]
    by_cases hki : i = k
    · rw [if_pos hki, if_pos (hki ▸ hi)]
      simp [hki]
    · rw [if_neg hki]
      simp [Ne.symm hki]
  · rename_i hk
    exact iff_of_false (fun hnone => by cases hnone) fun hentry => hk hentry.1

theorem length_swapRemove (i : ℕ) : (swapRemove entries i).length = entries.length - 1 := by
  rw [swapRemove]
  split
  · rename_i hnone
    rw [List.getLast?_eq_none_iff.mp hnone]
    rfl
  · rw [List.length_dropLast, List.length_set]

namespace IndexedFrom

variable {last : α} {i : ℕ}

variable [DecidableEq α]

/-- An element is removed together with its position. -/
theorem swapRemove (h : IndexedFrom entries index n) (hindex : index x = some i)
    (hlast : entries.getLast? = some last) :
    IndexedFrom (swapRemove entries i)
      (Function.update (Function.update index last (some i)) x none) n := by
  obtain ⟨hle, hentry⟩ := (h.index_iff x i).mp hindex
  have hi := (List.getElem?_eq_some_iff.mp hentry).1
  have hend : entries[entries.length - 1]? = some last := by
    rw [← List.getLast?_eq_getElem?]
    exact hlast
  have hpos := h.index_of_getElem? (by omega) hend
  refine ⟨?_, fun y k => ?_⟩
  · rw [length_swapRemove]
    omega
  rw [getElem?_swapRemove hlast hi]
  by_cases hself : y = x
  · subst hself
    rw [Function.update_self]
    refine iff_of_false (fun hnone => by cases hnone) ?_
    rintro ⟨hk, hlt, (⟨rfl, rfl⟩ | ⟨hne, hsame⟩)⟩
    · have heq := h.eq_of_getElem? hle (by omega) hentry hend
      omega
    · exact hne (h.eq_of_getElem? hk hle hsame hentry)
  rw [Function.update_of_ne hself]
  by_cases hmoved : y = last
  · subst hmoved
    rw [Function.update_self]
    constructor
    · rintro ⟨⟩
      refine ⟨hle, ?_, .inl ⟨rfl, rfl⟩⟩
      have hne : i ≠ entries.length - 1 := by
        rintro rfl
        rw [hend] at hentry
        exact hself (Option.some.inj hentry)
      omega
    · rintro ⟨hk, hlt, (⟨rfl, -⟩ | ⟨-, hsame⟩)⟩
      · rfl
      · have heq := h.eq_of_getElem? hk (by omega) hsame hend
        omega
  · rw [Function.update_of_ne hmoved, h.index_iff]
    constructor
    · rintro ⟨hk, hsame⟩
      have hlt := (List.getElem?_eq_some_iff.mp hsame).1
      have hne : k ≠ entries.length - 1 := by
        rintro rfl
        rw [hend] at hsame
        exact hmoved (Option.some.inj hsame).symm
      refine ⟨hk, by omega, .inr ⟨?_, hsame⟩⟩
      rintro rfl
      rw [hentry] at hsame
      exact hself (Option.some.inj hsame).symm
    · rintro ⟨hk, -, (⟨-, heq⟩ | ⟨-, hsame⟩)⟩
      · exact absurd heq.symm hmoved
      · exact ⟨hk, hsame⟩

end IndexedFrom

end Positions

/-! ## A table and an index of it -/

section Attributes

variable {κ ν α : Type*} {attr : ν → α} {table : κ → Option ν} {index : α → List κ}

/-- The lists have each key of a row with their value once, and no other key. -/
structure IndexedBy (attr : ν → α) (table : κ → Option ν) (index : α → List κ) : Prop where
  nodup : ∀ a, (index a).Nodup
  mem : ∀ a k, k ∈ index a ↔ ∃ v, table k = some v ∧ attr v = a

namespace IndexedBy

theorem empty : IndexedBy attr (fun _ : κ => none) fun _ => [] where
  nodup _ := List.nodup_nil
  mem a k := by simp

variable [DecidableEq κ]

/-- A row with a new key. -/
theorem insert [DecidableEq α] (h : IndexedBy attr table index) {k : κ}
    (hk : table k = none) (v : ν) :
    IndexedBy attr (Function.update table k (some v))
      (Function.update index (attr v) (index (attr v) ++ [k])) := by
  have hnew : ∀ a, k ∉ index a := by
    intro a hmem
    obtain ⟨w, hw, -⟩ := (h.mem a k).mp hmem
    rw [hk] at hw
    cases hw
  have hindex : ∀ a, Function.update index (attr v) (index (attr v) ++ [k]) a =
      if attr v = a then index a ++ [k] else index a := by
    intro a
    split
    · rename_i ha
      rw [← ha, Function.update_self]
    · rename_i ha
      exact Function.update_of_ne (fun heq => ha heq.symm) _ _
  refine ⟨fun a => ?_, fun a j => ?_⟩
  · rw [hindex]
    split
    · refine List.nodup_append.mpr ⟨h.nodup a, List.nodup_singleton k, ?_⟩
      rintro j hj _ hk' rfl
      rw [List.mem_singleton.mp hk'] at hj
      exact hnew a hj
    · exact h.nodup a
  · rw [hindex]
    by_cases hj : j = k
    · subst hj
      rw [Function.update_self]
      split
      · rename_i ha
        simp [ha]
      · rename_i ha
        simp [hnew a, ha]
    · rw [Function.update_of_ne hj, ← h.mem a j]
      split
      · simp [hj]
      · exact Iff.rfl

/-- A row changes, but not its attribute. -/
theorem modify (h : IndexedBy attr table index) {k : κ} {v w : ν} (hk : table k = some v)
    (hattr : attr w = attr v) : IndexedBy attr (Function.update table k (some w)) index := by
  refine ⟨h.nodup, fun a j => ?_⟩
  rw [h.mem a j]
  by_cases hj : j = k
  · subst hj
    rw [Function.update_self, hk]
    simp [hattr]
  · rw [Function.update_of_ne hj]

/-- A row is erased. -/
theorem erase [DecidableEq α] (h : IndexedBy attr table index) {k : κ} {v : ν}
    (hk : table k = some v) :
    IndexedBy attr (Function.update table k none)
      (Function.update index (attr v) ((index (attr v)).filter (· ≠ k))) := by
  refine ⟨fun a => ?_, fun a j => ?_⟩
  · by_cases ha : a = attr v
    · rw [ha, Function.update_self]
      exact (h.nodup _).filter _
    · rw [Function.update_of_ne ha]
      exact h.nodup a
  · by_cases hj : j = k
    · subst hj
      rw [Function.update_self]
      by_cases ha : a = attr v
      · simp [ha]
      · rw [Function.update_of_ne ha, h.mem a j, hk]
        simpa using fun heq : attr v = a => ha heq.symm
    · rw [Function.update_of_ne hj, ← h.mem a j]
      by_cases ha : a = attr v
      · rw [ha, Function.update_self]
        simp [hj]
      · rw [Function.update_of_ne ha]

end IndexedBy

end Attributes

end RealtimeEx
