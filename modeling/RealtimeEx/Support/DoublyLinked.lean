import Mathlib.Algebra.Order.Ring.Int
import Mathlib.Data.List.Chain
import Mathlib.Data.List.Nodup
import Mathlib.Logic.Function.Basic

/-!
# Doubly linked objects

Objects that point to the one in front of them and to the one behind them.  A list of
objects is laid out in memory if each two neighbours point to each other.  Putting an object
between two neighbours and taking it out again touch four pointers, and keep everything else
laid out as it was.
-/

namespace RealtimeEx

universe u

/-- The pointers of all objects. -/
structure LinkHeap (P : Type u) where
  pPre : P → Option P
  pNext : P → Option P

namespace LinkHeap

variable {P : Type u} {H H' : LinkHeap P} {p a b x : P} {q : Option P}

/-- Two neighbours. -/
def Joined (H : LinkHeap P) (a b : P) : Prop :=
  H.pNext a = some b ∧ H.pPre b = some a

/-- The objects lie behind each other. -/
def Laid (H : LinkHeap P) (l : List P) : Prop := l.IsChain H.Joined

/-- Everything that is not pointed through stays laid out. -/
theorem Laid.frame {l : List P} (h : H.Laid l)
    (hnext : ∀ y ∈ l.dropLast, H'.pNext y = H.pNext y)
    (hpre : ∀ y ∈ l.tail, H'.pPre y = H.pPre y) : H'.Laid l := by
  induction l with
  | nil => exact .nil
  | cons c l ih =>
      cases l with
      | nil => exact .singleton c
      | cons d l =>
          obtain ⟨hjoined, hrest⟩ := List.isChain_cons_cons.mp h
          refine List.isChain_cons_cons.mpr ⟨⟨?_, ?_⟩, ih hrest ?_ ?_⟩
          · rw [hnext c (by simp), hjoined.1]
          · rw [hpre d (by simp), hjoined.2]
          · exact fun y hy => hnext y (by simp [hy])
          · exact fun y hy => hpre y (List.mem_cons_of_mem d hy)

/-- A list with two neighbours is laid out if its two parts are. -/
theorem laid_append_iff {l₁ l₂ : List P} :
    H.Laid (l₁ ++ a :: b :: l₂) ↔ H.Laid (l₁ ++ [a]) ∧ H.Joined a b ∧ H.Laid (b :: l₂) :=
  List.isChain_append_cons_cons

variable [DecidableEq P]

def setPre (H : LinkHeap P) (p : P) (q : Option P) : LinkHeap P :=
  { H with pPre := Function.update H.pPre p q }

def setNext (H : LinkHeap P) (p : P) (q : Option P) : LinkHeap P :=
  { H with pNext := Function.update H.pNext p q }

@[simp] theorem pNext_setPre : (H.setPre p q).pNext = H.pNext := rfl

@[simp] theorem pPre_setNext : (H.setNext p q).pPre = H.pPre := rfl

theorem pPre_setPre (y : P) :
    (H.setPre p q).pPre y = if y = p then q else H.pPre y := by
  simp [setPre, Function.update_apply]

theorem pNext_setNext (y : P) :
    (H.setNext p q).pNext y = if y = p then q else H.pNext y := by
  simp [setNext, Function.update_apply]

/-- `x` is put between `a` and `b`. -/
def between (H : LinkHeap P) (a x b : P) : LinkHeap P :=
  (((H.setNext x (some b)).setPre x (some a)).setNext a (some x)).setPre b (some x)

/-- `a` and `b` become neighbours, and `x` points nowhere. -/
def without (H : LinkHeap P) (a x b : P) : LinkHeap P :=
  (((H.setNext a (some b)).setPre b (some a)).setPre x none).setNext x none

theorem pNext_between (y : P) :
    (H.between a x b).pNext y =
      if y = a then some x else if y = x then some b else H.pNext y := by
  simp only [between, pNext_setPre, pNext_setNext]

theorem pPre_between (y : P) :
    (H.between a x b).pPre y =
      if y = b then some x else if y = x then some a else H.pPre y := by
  simp only [between, pPre_setNext, pPre_setPre]

theorem pNext_without (y : P) :
    (H.without a x b).pNext y =
      if y = x then none else if y = a then some b else H.pNext y := by
  simp only [without, pNext_setPre, pNext_setNext]

theorem pPre_without (y : P) :
    (H.without a x b).pPre y =
      if y = x then none else if y = b then some a else H.pPre y := by
  simp only [without, pPre_setNext, pPre_setPre]

/-- The four pointers belong to `a`, `x` and `b`. -/
theorem Laid.between_of_not_mem {l : List P} (h : H.Laid l) (ha : a ∉ l) (hx : x ∉ l)
    (hb : b ∉ l) : (H.between a x b).Laid l := by
  refine h.frame ?_ ?_
  · intro y hy
    have hmem := List.dropLast_subset _ hy
    rw [pNext_between, if_neg (ne_of_mem_of_not_mem hmem ha), if_neg (ne_of_mem_of_not_mem hmem hx)]
  · intro y hy
    have hmem := List.mem_of_mem_tail hy
    rw [pPre_between, if_neg (ne_of_mem_of_not_mem hmem hb), if_neg (ne_of_mem_of_not_mem hmem hx)]

theorem Laid.without_of_not_mem {l : List P} (h : H.Laid l) (ha : a ∉ l) (hx : x ∉ l)
    (hb : b ∉ l) : (H.without a x b).Laid l := by
  refine h.frame ?_ ?_
  · intro y hy
    have hmem := List.dropLast_subset _ hy
    rw [pNext_without, if_neg (ne_of_mem_of_not_mem hmem hx), if_neg (ne_of_mem_of_not_mem hmem ha)]
  · intro y hy
    have hmem := List.mem_of_mem_tail hy
    rw [pPre_without, if_neg (ne_of_mem_of_not_mem hmem hx), if_neg (ne_of_mem_of_not_mem hmem hb)]

/-- An object that is nowhere in a list is put between two neighbours of it. -/
theorem Laid.between {l₁ l₂ : List P} (h : H.Laid (l₁ ++ a :: b :: l₂))
    (hnodup : (l₁ ++ a :: b :: l₂).Nodup) (hx : x ∉ l₁ ++ a :: b :: l₂) :
    (H.between a x b).Laid (l₁ ++ a :: x :: b :: l₂) := by
  obtain ⟨hleft, -, hright⟩ := laid_append_iff.mp h
  simp only [List.mem_append, List.mem_cons, not_or] at hx
  obtain ⟨hx₁, hxa, hxb, hx₂⟩ := hx
  rw [List.nodup_append] at hnodup
  obtain ⟨-, hback, hdisjoint⟩ := hnodup
  obtain ⟨ha, hback⟩ := List.nodup_cons.mp hback
  obtain ⟨hb, -⟩ := List.nodup_cons.mp hback
  simp only [List.mem_cons, not_or] at ha
  have hfront : ∀ y ∈ l₁, y ≠ a ∧ y ≠ b ∧ y ≠ x := fun y hy =>
    ⟨hdisjoint y hy a (by simp), hdisjoint y hy b (by simp), fun heq => hx₁ (heq ▸ hy)⟩
  have hbehind : ∀ y ∈ l₂, y ≠ a ∧ y ≠ b ∧ y ≠ x := fun y hy =>
    ⟨fun heq => ha.2 (heq ▸ hy), fun heq => hb (heq ▸ hy), fun heq => hx₂ (heq ▸ hy)⟩
  refine laid_append_iff.mpr ⟨?_, ⟨?_, ?_⟩, List.isChain_cons_cons.mpr ⟨⟨?_, ?_⟩, ?_⟩⟩
  · refine hleft.frame ?_ ?_
    · intro y hy
      rw [List.dropLast_concat] at hy
      rw [pNext_between, if_neg (hfront y hy).1, if_neg (hfront y hy).2.2]
    · intro y hy
      have hmem := List.mem_of_mem_tail hy
      rw [List.mem_append, List.mem_singleton] at hmem
      rcases hmem with hmem | rfl
      · rw [pPre_between, if_neg (hfront y hmem).2.1, if_neg (hfront y hmem).2.2]
      · rw [pPre_between, if_neg ha.1, if_neg (Ne.symm hxa)]
  · rw [pNext_between, if_pos rfl]
  · rw [pPre_between, if_neg hxb, if_pos rfl]
  · rw [pNext_between, if_neg hxa, if_pos rfl]
  · rw [pPre_between, if_pos rfl]
  · refine hright.frame ?_ ?_
    · intro y hy
      rcases List.mem_cons.mp (List.dropLast_subset _ hy) with rfl | hmem
      · rw [pNext_between, if_neg (Ne.symm ha.1), if_neg (Ne.symm hxb)]
      · rw [pNext_between, if_neg (hbehind y hmem).1, if_neg (hbehind y hmem).2.2]
    · intro y hy
      rw [pPre_between, if_neg (hbehind y hy).2.1, if_neg (hbehind y hy).2.2]

/-- An object is taken out from between its neighbours. -/
theorem Laid.without {l₁ l₂ : List P} (h : H.Laid (l₁ ++ a :: x :: b :: l₂))
    (hnodup : (l₁ ++ a :: x :: b :: l₂).Nodup) :
    (H.without a x b).Laid (l₁ ++ a :: b :: l₂) := by
  obtain ⟨hleft, -, hright⟩ := laid_append_iff.mp h
  have hright : H.Laid (b :: l₂) := (List.isChain_cons_cons.mp hright).2
  rw [List.nodup_append] at hnodup
  obtain ⟨-, hback, hdisjoint⟩ := hnodup
  obtain ⟨ha, hback⟩ := List.nodup_cons.mp hback
  obtain ⟨hx, hback⟩ := List.nodup_cons.mp hback
  obtain ⟨hb, -⟩ := List.nodup_cons.mp hback
  simp only [List.mem_cons, not_or] at ha hx
  have hfront : ∀ y ∈ l₁, y ≠ a ∧ y ≠ b ∧ y ≠ x := fun y hy =>
    ⟨hdisjoint y hy a (by simp), hdisjoint y hy b (by simp), hdisjoint y hy x (by simp)⟩
  have hbehind : ∀ y ∈ l₂, y ≠ a ∧ y ≠ b ∧ y ≠ x := fun y hy =>
    ⟨fun heq => ha.2.2 (heq ▸ hy), fun heq => hb (heq ▸ hy), fun heq => hx.2 (heq ▸ hy)⟩
  refine laid_append_iff.mpr ⟨?_, ⟨?_, ?_⟩, ?_⟩
  · refine hleft.frame ?_ ?_
    · intro y hy
      rw [List.dropLast_concat] at hy
      rw [pNext_without, if_neg (hfront y hy).2.2, if_neg (hfront y hy).1]
    · intro y hy
      have hmem := List.mem_of_mem_tail hy
      rw [List.mem_append, List.mem_singleton] at hmem
      rcases hmem with hmem | rfl
      · rw [pPre_without, if_neg (hfront y hmem).2.2, if_neg (hfront y hmem).2.1]
      · rw [pPre_without, if_neg ha.1, if_neg ha.2.1]
  · rw [pNext_without, if_neg ha.1, if_pos rfl]
  · rw [pPre_without, if_neg (Ne.symm hx.1), if_pos rfl]
  · refine hright.frame ?_ ?_
    · intro y hy
      rcases List.mem_cons.mp (List.dropLast_subset _ hy) with rfl | hmem
      · rw [pNext_without, if_neg (Ne.symm hx.1), if_neg (Ne.symm ha.2.1)]
      · rw [pNext_without, if_neg (hbehind y hmem).2.2, if_neg (hbehind y hmem).1]
    · intro y hy
      rw [pPre_without, if_neg (hbehind y hy).2.2, if_neg (hbehind y hy).2.1]

end LinkHeap

end RealtimeEx
