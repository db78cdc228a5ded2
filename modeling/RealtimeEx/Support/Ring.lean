import Mathlib.Algebra.Order.Ring.Int
import Mathlib.Data.List.Basic
import Mathlib.Data.Nat.ModEq

/-!
# Rings

The items of a queue in an array whose end goes on at its front.
-/

namespace RealtimeEx

variable {α : Type*} {d : α} {slots : List α}

/-- The `n` slots from `start` on; `d` stands for a slot that does not exist. -/
def ringItems (d : α) (slots : List α) (start n : ℕ) : List α :=
  (List.range n).map fun i => slots.getD ((start + i) % slots.length) d

@[simp] theorem length_ringItems (start n : ℕ) : (ringItems d slots start n).length = n := by
  rw [ringItems, List.length_map, List.length_range]

@[simp] theorem ringItems_zero (start : ℕ) : ringItems d slots start 0 = [] := rfl

theorem ringItems_mod (start n : ℕ) :
    ringItems d slots (start % slots.length) n = ringItems d slots start n := by
  rw [ringItems, ringItems]
  refine List.map_congr_left fun i _ => ?_
  rw [Nat.mod_add_mod]

/-- The first item, and the others. -/
theorem ringItems_succ (start n : ℕ) :
    ringItems d slots start (n + 1) =
      slots.getD (start % slots.length) d :: ringItems d slots (start + 1) n := by
  rw [ringItems, List.range_succ_eq_map, List.map_cons, List.map_map, ringItems]
  refine congrArg (_ :: ·) (List.map_congr_left fun i _ => ?_)
  change slots.getD ((start + (i + 1)) % slots.length) d = _
  rw [Nat.add_assoc, Nat.add_comm 1 i]

/-- Nothing but the items is read. -/
theorem ringItems_congr {slots' : List α} {start n : ℕ} (hlength : slots'.length = slots.length)
    (hsame : ∀ i < n, slots'.getD ((start + i) % slots.length) d =
      slots.getD ((start + i) % slots.length) d) :
    ringItems d slots' start n = ringItems d slots start n := by
  rw [ringItems, ringItems, hlength]
  exact List.map_congr_left fun i hi => hsame i (List.mem_range.mp hi)

/-- A value is written behind the items, where there is a slot left. -/
theorem ringItems_set {start n : ℕ} (hroom : n < slots.length) (x : α) :
    ringItems d (slots.set ((start + n) % slots.length) x) start (n + 1) =
      ringItems d slots start n ++ [x] := by
  have hslot : (start + n) % slots.length < slots.length := Nat.mod_lt _ (by omega)
  have hkept : ringItems d (slots.set ((start + n) % slots.length) x) start n =
      ringItems d slots start n := by
    refine ringItems_congr (List.length_set ..) fun i hi => ?_
    have hother : (start + n) % slots.length ≠ (start + i) % slots.length := by
      intro heq
      have hmod : n ≡ i [MOD slots.length] := Nat.ModEq.add_left_cancel' start heq
      exact hi.ne' (hmod.eq_of_lt_of_lt hroom (hi.trans hroom))
    rw [List.getD_eq_getElem?_getD, List.getElem?_set_ne hother, List.getD_eq_getElem?_getD]
  have hlast : (slots.set ((start + n) % slots.length) x).getD
      ((start + n) % slots.length) d = x := by
    rw [List.getD_eq_getElem?_getD, List.getElem?_set_self hslot, Option.getD_some]
  rw [ringItems, List.range_succ, List.map_append, ← ringItems, hkept, List.map_singleton,
    List.length_set, hlast]

/-- Items that stand at the front of a larger array. -/
theorem ringItems_append (items rest : List α) :
    ringItems d (items ++ rest) 0 items.length = items := by
  refine List.ext_getElem (length_ringItems ..) fun i hi hitems => ?_
  have hlt : 0 + i < (items ++ rest).length := by
    rw [List.length_append]
    omega
  simp only [ringItems, List.getElem_map, List.getElem_range, Nat.mod_eq_of_lt hlt]
  rw [Nat.zero_add, List.getD_eq_getElem?_getD, List.getElem?_append_left hitems,
    List.getElem?_eq_getElem hitems, Option.getD_some]

end RealtimeEx
