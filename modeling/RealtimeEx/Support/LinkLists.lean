import Mathlib.Algebra.Order.Ring.Int
import Mathlib.Data.List.Nodup
import Mathlib.Logic.Function.Basic

/-!
# Intrusive lists

A family of doubly linked lists whose nodes carry their own links.  A node is
in at most one list, at most once, and it knows whether it is linked; pushing
a linked node does nothing, and a node can be removed without naming its list.
Nodes are identified by numbers.
-/

set_option linter.unusedSectionVars false

namespace RealtimeEx

/-- Lists of nodes indexed by `κ`.  `link` is the list a node is in. -/
structure LinkLists (κ : Type*) where
  list : κ → List ℕ
  link : ℕ → Option κ
  nodup : ∀ k, (list k).Nodup
  mem_list : ∀ k id, id ∈ list k ↔ link id = some k

namespace LinkLists

variable {κ : Type*} [DecidableEq κ]

/-- No node is linked. -/
def empty : LinkLists κ where
  list _ := []
  link _ := none
  nodup _ := List.nodup_nil
  mem_list := by simp

/-- Append a node that is in no list. -/
def pushTail (L : LinkLists κ) (k : κ) (id : ℕ) : LinkLists κ :=
  if h : L.link id = none then
    { list := Function.update L.list k (L.list k ++ [id])
      link := Function.update L.link id (some k)
      nodup := by
        intro j
        by_cases hjk : j = k
        · subst hjk
          have hmem : id ∉ L.list j := by
            rw [L.mem_list, h]
            simp
          rw [Function.update_self]
          exact List.Nodup.append (L.nodup j) (List.nodup_singleton id)
            (by simpa using hmem)
        · rw [Function.update_of_ne hjk]
          exact L.nodup j
      mem_list := by
        intro j i
        have hi := L.mem_list j i
        by_cases hid : i = id
        · subst hid
          by_cases hjk : j = k
          · simp [hjk]
          · simp [hjk, hi, h, Ne.symm hjk]
        · by_cases hjk : j = k
          · subst hjk
            simp [hid, hi]
          · simp [hjk, hid, hi] }
  else
    L

/-- Take a node out of its list. -/
def remove (L : LinkLists κ) (id : ℕ) : LinkLists κ :=
  match h : L.link id with
  | none => L
  | some k =>
      { list := Function.update L.list k ((L.list k).erase id)
        link := Function.update L.link id none
        nodup := by
          intro j
          by_cases hjk : j = k
          · subst hjk
            rw [Function.update_self]
            exact (L.nodup j).erase id
          · rw [Function.update_of_ne hjk]
            exact L.nodup j
        mem_list := by
          intro j i
          have hi := L.mem_list j i
          by_cases hjk : j = k
          · subst hjk
            rw [Function.update_self, (L.nodup j).mem_erase_iff, hi]
            by_cases hid : i = id
            · simp [hid]
            · simp [hid]
          · rw [Function.update_of_ne hjk, hi]
            by_cases hid : i = id
            · subst hid
              simp [h, Ne.symm hjk]
            · simp [hid] }

/-- A node that is in no list is put into one. -/
def add (L : LinkLists κ) (k : κ) (id : ℕ) (is : List ℕ) (h : L.link id = none)
    (hperm : is.Perm (id :: L.list k)) : LinkLists κ where
  list := Function.update L.list k is
  link := Function.update L.link id (some k)
  nodup := by
    intro j
    by_cases hjk : j = k
    · subst hjk
      have hmem : id ∉ L.list j := by
        rw [L.mem_list, h]
        simp
      rw [Function.update_self, hperm.nodup_iff]
      exact List.nodup_cons.mpr ⟨hmem, L.nodup j⟩
    · rw [Function.update_of_ne hjk]
      exact L.nodup j
  mem_list := by
    intro j i
    have hi := L.mem_list j i
    by_cases hjk : j = k
    · subst hjk
      rw [Function.update_self, hperm.mem_iff, List.mem_cons, hi]
      by_cases hid : i = id
      · simp [hid]
      · simp [hid]
    · rw [Function.update_of_ne hjk, hi]
      by_cases hid : i = id
      · subst hid
        simp [h, Ne.symm hjk]
      · simp [hid]

/-- Put a node that is in no list in front of the others. -/
def pushHead (L : LinkLists κ) (k : κ) (id : ℕ) : LinkLists κ :=
  if h : L.link id = none then L.add k id (id :: L.list k) h (.refl _) else L

/-- `is` with `id` behind `i`. -/
def insertBehind (i id : ℕ) : List ℕ → List ℕ
  | [] => []
  | j :: is => if j = i then j :: id :: is else j :: insertBehind i id is

theorem insertBehind_append {i : ℕ} {front : List ℕ} (h : i ∉ front) (id : ℕ)
    (back : List ℕ) : insertBehind i id (front ++ i :: back) = front ++ i :: id :: back := by
  induction front with
  | nil => rw [List.nil_append, insertBehind, if_pos rfl, List.nil_append]
  | cons j front ih =>
      rw [List.mem_cons, not_or] at h
      rw [List.cons_append, insertBehind, if_neg (Ne.symm h.1), ih h.2, List.cons_append]

theorem insertBehind_perm {i : ℕ} {is : List ℕ} (h : i ∈ is) (id : ℕ) :
    (insertBehind i id is).Perm (id :: is) := by
  obtain ⟨front, back, rfl, hfront⟩ := List.eq_append_cons_of_mem h
  rw [insertBehind_append hfront, ← List.singleton_append (l := id :: back),
    ← List.append_assoc]
  refine List.perm_middle.trans ?_
  rw [List.append_assoc, List.singleton_append]

/-- Put a node that is in no list behind another one. -/
def insertAfter (L : LinkLists κ) (i id : ℕ) : LinkLists κ :=
  if hid : L.link id = none then
    match hi : L.link i with
    | none => L
    | some k =>
        L.add k id (insertBehind i id (L.list k)) hid
          (insertBehind_perm ((L.mem_list k i).mpr hi) id)
  else
    L

variable {L : LinkLists κ} {k : κ} {id : ℕ}

theorem link_pushTail (h : L.link id = none) (i : ℕ) :
    (L.pushTail k id).link i = if i = id then some k else L.link i := by
  simp [pushTail, h, Function.update_apply]

theorem list_pushTail (h : L.link id = none) :
    (L.pushTail k id).list =
      Function.update L.list k (L.list k ++ [id]) := by
  simp [pushTail, h]

theorem link_add {is : List ℕ} (h : L.link id = none) (hperm : is.Perm (id :: L.list k))
    (i : ℕ) : (L.add k id is h hperm).link i = if i = id then some k else L.link i := by
  simp [add, Function.update_apply]

theorem list_add {is : List ℕ} (h : L.link id = none) (hperm : is.Perm (id :: L.list k)) :
    (L.add k id is h hperm).list = Function.update L.list k is := rfl

@[simp] theorem link_remove (i : ℕ) :
    (L.remove id).link i = if i = id then none else L.link i := by
  unfold remove
  split
  · rename_i h
    split
    · rename_i hi
      rw [hi, h]
    · rfl
  · simp [Function.update_apply]

theorem remove_of_not_linked (h : L.link id = none) : L.remove id = L := by
  unfold remove
  split
  · rfl
  · rename_i hsome
    rw [h] at hsome
    cases hsome

theorem list_remove (h : L.link id = some k) :
    (L.remove id).list = Function.update L.list k ((L.list k).erase id) := by
  unfold remove
  split
  · rename_i hnone
    rw [h] at hnone
    cases hnone
  · rename_i k' hsome
    rw [h] at hsome
    cases hsome
    rfl

theorem link_of_head {is : List ℕ} (h : L.list k = id :: is) :
    L.link id = some k :=
  (L.mem_list k id).mp (by rw [h]; exact List.mem_cons_self)

/-- Removing the head of a list leaves the rest of it. -/
theorem list_remove_of_head {is : List ℕ} (h : L.list k = id :: is) :
    (L.remove id).list = Function.update L.list k is := by
  rw [list_remove (link_of_head h), h, List.erase_cons_head]

/-- Removing a node makes no list longer. -/
theorem length_list_remove_le (L : LinkLists κ) (k : κ) (id : ℕ) :
    ((L.remove id).list k).length ≤ (L.list k).length := by
  unfold remove
  split
  · exact Nat.le_refl _
  · rename_i k' _
    dsimp only
    by_cases hk : k = k'
    · subst hk
      rw [Function.update_self]
      exact List.length_erase_le
    · rw [Function.update_of_ne hk]

theorem list_eq_nil_iff : L.list k = [] ↔ ∀ id, L.link id ≠ some k := by
  rw [List.eq_nil_iff_forall_not_mem]
  exact forall_congr' fun id => not_congr (L.mem_list k id)

end LinkLists

end RealtimeEx
