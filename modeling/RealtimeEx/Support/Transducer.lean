import Mathlib.Algebra.Order.Ring.Int
import Mathlib.Data.List.Basic

/-!
# Streams

A transducer reads an item, writes one and moves to another state.  What it makes of a
stream does not depend on how the stream is cut, and it is undone by another one that moves
in the same way and turns every item back.

Or items are gathered until there are `n` of them; a full group is written and the gathering
starts anew.  What is left at the end is a group that did not become full.
-/

namespace RealtimeEx

/-! ## Transducers -/

section Transducers

variable {S : Type*} {α β : Type*}

/-- The items that are written for a stream, and the state behind it. -/
def transduce (step : S → α → β × S) : S → List α → List β × S
  | s, [] => ([], s)
  | s, x :: xs =>
      let rest := transduce step (step s x).2 xs
      ((step s x).1 :: rest.1, rest.2)

/-- A stream in chunks, one call for each of them. -/
def transduceChunks (step : S → α → β × S) : S → List (List α) → List (List β) × S
  | s, [] => ([], s)
  | s, chunk :: chunks =>
      let first := transduce step s chunk
      let rest := transduceChunks step first.2 chunks
      (first.1 :: rest.1, rest.2)

variable {step : S → α → β × S}

theorem transduce_append (s : S) (xs ys : List α) :
    transduce step s (xs ++ ys) =
      ((transduce step s xs).1 ++ (transduce step (transduce step s xs).2 ys).1,
        (transduce step (transduce step s xs).2 ys).2) := by
  induction xs generalizing s with
  | nil => rfl
  | cons x xs ih =>
      rw [List.cons_append, transduce, ih]
      rfl

/-- The chunks do not matter. -/
theorem transduceChunks_eq (s : S) (chunks : List (List α)) :
    (transduceChunks step s chunks).1.flatten = (transduce step s chunks.flatten).1 ∧
      (transduceChunks step s chunks).2 = (transduce step s chunks.flatten).2 := by
  induction chunks generalizing s with
  | nil => exact ⟨rfl, rfl⟩
  | cons chunk chunks ih =>
      obtain ⟨hitems, hstate⟩ := ih (transduce step s chunk).2
      rw [transduceChunks, List.flatten_cons, List.flatten_cons, transduce_append]
      exact ⟨congrArg _ hitems, hstate⟩

/-- What turns every item back, in the same states, turns a stream back. -/
theorem transduce_inverse {back : S → β → α × S}
    (hback : ∀ s x, back s (step s x).1 = (x, (step s x).2)) (s : S) (xs : List α) :
    transduce back s (transduce step s xs).1 = (xs, (transduce step s xs).2) := by
  induction xs generalizing s with
  | nil => rfl
  | cons x xs ih =>
      rw [transduce, transduce, hback, ih]

end Transducers

/-! ## Gathering groups -/

section Groups

variable {α β : Type*}

/-- What is gathered, and what has been written. -/
structure Gathering (α β : Type*) where
  pending : List α
  written : List β

/-- One more item. -/
def gather (n : ℕ) (write : List α → List β) (s : Gathering α β) (x : α) : Gathering α β :=
  if (s.pending ++ [x]).length = n then
    ⟨[], s.written ++ write (s.pending ++ [x])⟩
  else
    ⟨s.pending ++ [x], s.written⟩

variable {n : ℕ} {write : List α → List β}

/-- Items that do not make a group full stay where they are. -/
theorem foldl_gather_of_short {s : Gathering α β} {xs : List α}
    (hshort : (s.pending ++ xs).length < n) :
    xs.foldl (gather n write) s = ⟨s.pending ++ xs, s.written⟩ := by
  induction xs generalizing s with
  | nil => rw [List.append_nil, List.foldl_nil]
  | cons x xs ih =>
      rw [List.append_cons] at hshort
      have hone : (s.pending ++ [x]).length ≠ n := by
        rw [List.length_append] at hshort
        omega
      have hgather : gather n write s x = ⟨s.pending ++ [x], s.written⟩ := if_neg hone
      rw [List.foldl_cons, hgather, ih hshort, List.append_cons s.pending x xs]

/-- A full group is written. -/
theorem foldl_gather_group {written : List β} {group : List α} (hn : 0 < n)
    (hgroup : group.length = n) :
    group.foldl (gather n write) ⟨[], written⟩ = ⟨[], written ++ write group⟩ := by
  obtain rfl | ⟨xs, x, rfl⟩ := List.eq_nil_or_concat' group
  · exact absurd hgroup hn.ne
  · have hshort : ([] ++ xs).length < n := by
      rw [List.length_append, List.length_singleton] at hgroup
      rw [List.nil_append]
      omega
    rw [List.foldl_append, foldl_gather_of_short (s := ⟨[], written⟩) hshort]
    exact if_pos hgroup

/-- The groups of a stream are written one after the other. -/
theorem foldl_gather_groups (write : List α → List β) (written : List β)
    {groups : List (List α)} {tail : List α} (hn : 0 < n)
    (hgroups : ∀ group ∈ groups, group.length = n) (htail : tail.length < n) :
    (groups.flatten ++ tail).foldl (gather n write) ⟨[], written⟩ =
      ⟨tail, written ++ groups.flatMap write⟩ := by
  induction groups generalizing written with
  | nil => simpa using foldl_gather_of_short (s := ⟨[], written⟩) (by simpa using htail)
  | cons group groups ih =>
      rw [List.flatten_cons, List.append_assoc, List.foldl_append,
        foldl_gather_group hn (hgroups _ List.mem_cons_self),
        ih _ fun g hg => hgroups g (List.mem_cons_of_mem _ hg), List.flatMap_cons,
        List.append_assoc]

/-- Every stream consists of groups and a tail that is no full group. -/
theorem exists_groups (hn : 0 < n) (xs : List α) :
    ∃ groups : List (List α), ∃ tail : List α, xs = groups.flatten ++ tail ∧
      (∀ group ∈ groups, group.length = n) ∧ tail.length < n := by
  by_cases hshort : xs.length < n
  · exact ⟨[], xs, rfl, by simp, hshort⟩
  · obtain ⟨groups, tail, hxs, hgroups, htail⟩ := exists_groups hn (xs.drop n)
    refine ⟨xs.take n :: groups, tail, ?_, ?_, htail⟩
    · rw [List.flatten_cons, List.append_assoc, ← hxs, List.take_append_drop]
    · intro group hgroup
      obtain rfl | hgroup := List.mem_cons.mp hgroup
      · rw [List.length_take]
        omega
      · exact hgroups group hgroup
termination_by xs.length
decreasing_by
  rw [List.length_drop]
  omega

end Groups

end RealtimeEx
