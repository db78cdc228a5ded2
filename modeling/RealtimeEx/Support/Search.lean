import Mathlib.Algebra.Order.Ring.Int
import Mathlib.Data.List.Infix
import Mathlib.Tactic.Common

/-!
# Searching a text

`std::search`: the first place where a separator starts.  What is behind the
separator does not change where it is found, so a text may still be arriving.
-/

namespace RealtimeEx

universe u

variable {α : Type u} [DecidableEq α]

/-- The first position at which `sep` starts. -/
def search (sep : List α) : List α → Option ℕ
  | [] => if sep = [] then some 0 else none
  | x :: xs => if sep <+: x :: xs then some 0 else (search sep xs).map (· + 1)

/-- Where a separator is found it stands, and the text goes on at least to its end. -/
theorem prefix_drop_of_search {sep xs : List α} {i : ℕ}
    (h : search sep xs = some i) : sep <+: xs.drop i ∧ i + sep.length ≤ xs.length := by
  induction xs generalizing i with
  | nil =>
      rw [search] at h
      split at h
      · cases h
        subst sep
        exact ⟨List.nil_prefix, Nat.le_refl 0⟩
      · cases h
  | cons x xs ih =>
      rw [search] at h
      split at h
      · rename_i hfront
        cases h
        exact ⟨hfront, by simpa using hfront.length_le⟩
      · obtain ⟨j, hj, rfl⟩ := Option.map_eq_some_iff.mp h
        obtain ⟨hfront, hle⟩ := ih hj
        refine ⟨hfront, ?_⟩
        rw [List.length_cons]
        omega

/-- More text behind the separator does not matter. -/
theorem search_append {sep xs : List α} {i : ℕ} (ys : List α)
    (h : search sep xs = some i) (hsep : sep ≠ []) :
    search sep (xs ++ ys) = some i := by
  induction xs generalizing i with
  | nil =>
      rw [search, if_neg hsep] at h
      cases h
  | cons x xs ih =>
      rw [search] at h
      rw [List.cons_append, search]
      split at h
      · rename_i hfront
        rw [if_pos (hfront.trans ⟨ys, by simp⟩)]
        exact h
      · rename_i hfront
        obtain ⟨j, hj, rfl⟩ := Option.map_eq_some_iff.mp h
        have hle := (prefix_drop_of_search hj).2
        have hlonger : ¬ sep <+: x :: (xs ++ ys) := by
          intro hlong
          refine hfront ?_
          have hshort := List.prefix_of_prefix_length_le hlong
            (List.prefix_append (x :: xs) ys) (by rw [List.length_cons]; omega)
          exact hshort
        rw [if_neg hlonger, ih hj]
        rfl

theorem search_eq_none_iff {sep xs : List α} (hsep : sep ≠ []) :
    search sep xs = none ↔ ¬ sep <:+: xs := by
  induction xs with
  | nil => simp [search, hsep]
  | cons x xs ih =>
      rw [search, List.infix_cons_iff, not_or, ← ih]
      split
      · simp_all
      · simp_all

/-- A separator is found behind a text in which it does not start, not even with
its own beginning behind the text. -/
theorem search_append_of_not_infix {sep xs ys : List α} (hsep : sep ≠ [])
    (h : ¬ sep <:+: xs ++ sep.dropLast) :
    search sep (xs ++ sep ++ ys) = some xs.length := by
  induction xs with
  | nil =>
      cases hcase : sep ++ ys with
      | nil => simp_all
      | cons y zs =>
          rw [List.nil_append, hcase, search, if_pos (hcase ▸ List.prefix_append sep ys)]
          rfl
  | cons x xs ih =>
      rw [List.cons_append, List.infix_cons_iff, not_or] at h
      have hfront : ¬ sep <+: x :: (xs ++ sep ++ ys) := by
        intro hlong
        have hlast : x :: (xs ++ sep.dropLast) ++ ([sep.getLast hsep] ++ ys) =
            x :: (xs ++ sep ++ ys) := by
          conv_rhs => rw [← List.dropLast_append_getLast hsep]
          simp
        refine h.1 (List.prefix_of_prefix_length_le hlong ⟨_, hlast⟩ ?_)
        have hpos := List.length_pos_of_ne_nil hsep
        simp only [List.length_cons, List.length_append, List.length_dropLast]
        omega
      rw [List.cons_append, List.cons_append, search, if_neg hfront, ih h.2]
      rfl

/-! ## The first and the last place -/

/-- What is found at once is a beginning. -/
theorem search_eq_zero_iff {sep xs : List α} : search sep xs = some 0 ↔ sep <+: xs := by
  cases xs with
  | nil => simp [search]
  | cons x xs =>
      rw [search]
      split
      · rename_i hfront
        exact iff_of_true rfl hfront
      · rename_i hfront
        simp [hfront]

/-- The last position at which `sep` starts. -/
def searchLast (sep : List α) : List α → Option ℕ
  | [] => if sep = [] then some 0 else none
  | x :: xs =>
      match searchLast sep xs with
      | some i => some (i + 1)
      | none => if sep <+: x :: xs then some 0 else none

theorem prefix_drop_of_searchLast {sep xs : List α} {i : ℕ}
    (h : searchLast sep xs = some i) : sep <+: xs.drop i ∧ i + sep.length ≤ xs.length := by
  induction xs generalizing i with
  | nil =>
      rw [searchLast] at h
      split at h
      · cases h
        subst sep
        exact ⟨List.nil_prefix, Nat.le_refl 0⟩
      · cases h
  | cons x xs ih =>
      rw [searchLast] at h
      split at h
      · rename_i j hj
        cases h
        obtain ⟨hfront, hle⟩ := ih hj
        refine ⟨hfront, ?_⟩
        rw [List.length_cons]
        omega
      · split at h
        · rename_i hfront
          cases h
          exact ⟨hfront, by simpa using hfront.length_le⟩
        · cases h

/-- An end is the last place at which a text can start. -/
theorem searchLast_append (sep ys : List α) : searchLast sep (ys ++ sep) = some ys.length := by
  induction ys with
  | nil =>
      cases sep with
      | nil => rfl
      | cons x sep =>
          rw [List.nil_append, searchLast]
          split
          · rename_i i hi
            have hle := (prefix_drop_of_searchLast hi).2
            rw [List.length_cons] at hle
            omega
          · rw [if_pos (List.prefix_refl _)]
            rfl
  | cons y ys ih =>
      rw [List.cons_append, searchLast, ih]
      rfl

/-- The last place is the end of the text just for its ends. -/
theorem searchLast_eq_iff {sep xs : List α} (hle : sep.length ≤ xs.length) :
    searchLast sep xs = some (xs.length - sep.length) ↔ sep <:+ xs := by
  constructor
  · intro h
    have hfront := (prefix_drop_of_searchLast h).1
    have heq : sep = xs.drop (xs.length - sep.length) :=
      hfront.eq_of_length (by rw [List.length_drop]; omega)
    rw [heq]
    exact List.drop_suffix _ _
  · rintro ⟨ys, rfl⟩
    rw [searchLast_append, List.length_append, Nat.add_sub_cancel]

end RealtimeEx
