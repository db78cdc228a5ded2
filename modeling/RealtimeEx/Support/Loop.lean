import Mathlib.Algebra.Order.Ring.Int
import Mathlib.Data.List.Basic
import Mathlib.Tactic.Common

/-!
# Loops over a batch

A loop over a batch of items whose body may leave the loop.  It handles a prefix
of the batch; it handles all of it exactly when no item but the last one makes
the body leave.
-/

namespace RealtimeEx

universe u v

/-- The body of a loop: the state after an item, and whether the loop is
left. -/
structure LoopBody (S : Type u) (L : Type v) where
  next : S → L → S
  leaves : S → L → Bool

namespace LoopBody

variable {S : Type u} {L : Type v} (B : LoopBody S L)

/-- The loop: the items that it handles, and the state it ends in. -/
def run : S → List L → List L × S
  | s, [] => ([], s)
  | s, l :: ls =>
      if B.leaves s l then
        ([l], B.next s l)
      else
        let r := run (B.next s l) ls
        (l :: r.1, r.2)

/-- No item leaves the loop with items behind it. -/
def Stays (s : S) (ls : List L) : Prop :=
  ∀ pre l post, ls = pre ++ l :: post → post ≠ [] →
    B.leaves (pre.foldl B.next s) l = false

theorem stays_nil (s : S) : B.Stays s [] := by
  intro pre l post heq
  simp at heq

theorem stays_cons {s : S} {l : L} {ls : List L} :
    B.Stays s (l :: ls) ↔
      (ls ≠ [] → B.leaves s l = false) ∧ B.Stays (B.next s l) ls := by
  constructor
  · intro h
    refine ⟨fun hne => h [] l ls rfl hne, fun pre m post heq hne => ?_⟩
    exact h (l :: pre) m post (by rw [heq]; rfl) hne
  · rintro ⟨hhead, htail⟩ pre m post heq hne
    cases pre with
    | nil =>
        obtain ⟨rfl, rfl⟩ := List.cons_eq_cons.mp heq
        exact hhead hne
    | cons l' pre =>
        obtain ⟨rfl, rfl⟩ := List.cons_eq_cons.mp heq
        exact htail pre m post rfl hne

/-- The loop handles the whole batch if and only if no item leaves it early. -/
theorem run_fst_eq_iff {s : S} {ls : List L} :
    (B.run s ls).1 = ls ↔ B.Stays s ls := by
  induction ls generalizing s with
  | nil => exact iff_of_true rfl (B.stays_nil s)
  | cons l ls ih =>
      rw [stays_cons, run]
      cases hleaves : B.leaves s l with
      | false => simp [ih]
      | true =>
          cases ls with
          | nil => simp [stays_nil]
          | cons m ls => simp

/-- A loop that is not left early folds its body over the batch. -/
theorem run_of_stays {s : S} {ls : List L} (h : B.Stays s ls) :
    B.run s ls = (ls, ls.foldl B.next s) := by
  induction ls generalizing s with
  | nil => rfl
  | cons l ls ih =>
      obtain ⟨hhead, htail⟩ := B.stays_cons.mp h
      rw [run]
      split
      · rename_i hleaves
        cases ls with
        | nil => rfl
        | cons m ls =>
            rw [hhead (List.cons_ne_nil m ls)] at hleaves
            cases hleaves
      · rw [ih htail]
        rfl

/-- An item that changes nothing may be taken out of the batch. -/
theorem Stays.of_append_cons {s : S} {pre post : List L} {l : L}
    (h : B.Stays s (pre ++ l :: post))
    (hl : B.next (pre.foldl B.next s) l = pre.foldl B.next s) :
    B.Stays s (pre ++ post) := by
  induction pre generalizing s with
  | nil =>
      obtain ⟨-, htail⟩ := B.stays_cons.mp h
      rwa [show B.next s l = s from hl] at htail
  | cons m pre ih =>
      obtain ⟨hhead, htail⟩ := B.stays_cons.mp h
      refine B.stays_cons.mpr ⟨fun _ => hhead (by simp), ih htail hl⟩

theorem foldl_append_cons {s : S} {pre : List L} (post : List L) {l : L}
    (hl : B.next (pre.foldl B.next s) l = pre.foldl B.next s) :
    (pre ++ l :: post).foldl B.next s = (pre ++ post).foldl B.next s := by
  rw [List.foldl_append, List.foldl_cons, hl, List.foldl_append]

end LoopBody

end RealtimeEx
