import Mathlib.Algebra.Order.Ring.Int
import Mathlib.Data.List.Basic
import Mathlib.Tactic.Common

/-!
# Reading memory through a pointer

A program that is given a pointer can read any memory behind it.  A reader records
how far it has read, and its result depends on nothing that is further away.
-/

namespace RealtimeEx

universe u

/-- The bytes of a memory from a pointer on. -/
abbrev Memory := ℕ → UInt8

/-- A computation that reads memory: its result, and the number of bytes up to the
last one it has read. -/
structure MemoryReader (α : Type u) where
  run : Memory → α × ℕ
  run_congr : ∀ {m m' : Memory}, (∀ i < (run m).2, m i = m' i) → run m' = run m

namespace MemoryReader

variable {α β : Type u}

/-- What a reader returns. -/
def result (r : MemoryReader α) (m : Memory) : α := (r.run m).1

/-- How far a reader reads. -/
def extent (r : MemoryReader α) (m : Memory) : ℕ := (r.run m).2

/-- The reader of `nSize` bytes from `nOffset` on. -/
def bytes (nOffset nSize : ℕ) : MemoryReader (List UInt8) where
  run m :=
    ((List.range nSize).map fun i => m (nOffset + i),
      if nSize = 0 then 0 else nOffset + nSize)
  run_congr := by
    intro m m' h
    by_cases hzero : nSize = 0
    · simp [hzero]
    · simp only [hzero, if_false, Prod.mk.injEq, and_true] at h ⊢
      refine List.map_congr_left ?_
      intro i hi
      exact (h _ (Nat.add_lt_add_left (List.mem_range.mp hi) nOffset)).symm

instance : Monad MemoryReader where
  pure a := { run := fun _ => (a, 0), run_congr := fun _ => rfl }
  bind r f :=
    { run := fun m => (((f (r.run m).1).run m).1, max (r.run m).2 ((f (r.run m).1).run m).2)
      run_congr := by
        intro m m' h
        have hr : r.run m' = r.run m :=
          r.run_congr fun i hi => h i (Nat.lt_of_lt_of_le hi (Nat.le_max_left _ _))
        have hf : (f (r.run m).1).run m' = (f (r.run m).1).run m :=
          (f (r.run m).1).run_congr fun i hi =>
            h i (Nat.lt_of_lt_of_le hi (Nat.le_max_right _ _))
        rw [hr, hf] }

@[simp] theorem result_pure (a : α) (m : Memory) :
    (pure a : MemoryReader α).result m = a := rfl

@[simp] theorem extent_pure (a : α) (m : Memory) :
    (pure a : MemoryReader α).extent m = 0 := rfl

@[simp] theorem result_bind (r : MemoryReader α) (f : α → MemoryReader β) (m : Memory) :
    (r >>= f).result m = (f (r.result m)).result m := rfl

@[simp] theorem extent_bind (r : MemoryReader α) (f : α → MemoryReader β) (m : Memory) :
    (r >>= f).extent m = max (r.extent m) ((f (r.result m)).extent m) := rfl

@[simp] theorem extent_bytes (nOffset nSize : ℕ) (m : Memory) :
    (bytes nOffset nSize).extent m = if nSize = 0 then 0 else nOffset + nSize := rfl

@[simp] theorem length_result_bytes (nOffset nSize : ℕ) (m : Memory) :
    ((bytes nOffset nSize).result m).length = nSize := by
  simp [bytes, result]

/-- A memory that holds the given bytes. -/
def Holds (frame : List UInt8) (m : Memory) : Prop :=
  ∀ i (h : i < frame.length), m i = frame[i]

theorem holds_getD (frame : List UInt8) (rest : Memory) :
    Holds frame fun i => frame.getD i (rest i) := by
  intro i h
  simp [List.getElem?_eq_getElem h]

/-- Reading bytes that the memory holds. -/
theorem result_bytes_of_holds {frame : List UInt8} {m : Memory} (hm : Holds frame m)
    {nOffset nSize : ℕ} (hle : nOffset + nSize ≤ frame.length) :
    (bytes nOffset nSize).result m = (frame.drop nOffset).take nSize := by
  refine List.ext_getElem ?_ ?_
  · rw [length_result_bytes, List.length_take, List.length_drop]
    omega
  · intro i hi _
    rw [length_result_bytes] at hi
    simp [bytes, result, hm (nOffset + i) (by omega)]

/-- A reader stays inside the given bytes: it reads nothing behind them, and its
result does not depend on what is there. -/
structure Inside (r : MemoryReader α) (frame : List UInt8) : Prop where
  extent_le : ∀ m, Holds frame m → r.extent m ≤ frame.length
  result_eq : ∀ m m', Holds frame m → Holds frame m' → r.result m = r.result m'

theorem inside_iff {r : MemoryReader α} {frame : List UInt8} :
    r.Inside frame ↔ ∀ m, Holds frame m → r.extent m ≤ frame.length := by
  constructor
  · exact Inside.extent_le
  · intro h
    refine ⟨h, ?_⟩
    intro m m' hm hm'
    have hsame : ∀ i < (r.run m).2, m i = m' i := by
      intro i hi
      have hlt := Nat.lt_of_lt_of_le hi (h m hm)
      rw [hm i hlt, hm' i hlt]
    exact congrArg Prod.fst (r.run_congr hsame).symm

/-! ## Composition -/

theorem inside_pure (a : α) (frame : List UInt8) :
    (pure a : MemoryReader α).Inside frame :=
  inside_iff.mpr fun _ _ => Nat.zero_le _

theorem inside_bytes_iff {nOffset nSize : ℕ} {frame : List UInt8} :
    (bytes nOffset nSize).Inside frame ↔ nSize = 0 ∨ nOffset + nSize ≤ frame.length := by
  rw [inside_iff]
  constructor
  · intro h
    have hextent := h _ (holds_getD frame fun _ => 0)
    rw [extent_bytes] at hextent
    split at hextent
    · rename_i hzero
      exact .inl hzero
    · exact .inr hextent
  · intro h m _
    rw [extent_bytes]
    split
    · exact Nat.zero_le _
    · rename_i hsize
      exact h.resolve_left hsize

/-- A reader is followed by one that depends on its result, which is always the same. -/
theorem inside_bind_iff {r : MemoryReader α} {f : α → MemoryReader β} {frame : List UInt8}
    {a : α} (hr : ∀ m, Holds frame m → r.Inside frame → r.result m = a) :
    (r >>= f).Inside frame ↔ r.Inside frame ∧ (f a).Inside frame := by
  constructor
  · intro h
    have hfirst : r.Inside frame :=
      inside_iff.mpr fun m hm => Nat.le_trans (Nat.le_max_left _ _) (h.extent_le m hm)
    refine ⟨hfirst, inside_iff.mpr fun m hm => ?_⟩
    have hsecond : (f (r.result m)).extent m ≤ frame.length :=
      Nat.le_trans (Nat.le_max_right _ _) (h.extent_le m hm)
    rwa [hr m hm hfirst] at hsecond
  · rintro ⟨hfirst, hsecond⟩
    refine inside_iff.mpr fun m hm => ?_
    rw [extent_bind, hr m hm hfirst]
    exact Nat.max_le.mpr ⟨hfirst.extent_le m hm, hsecond.extent_le m hm⟩

theorem inside_bytes_bind_iff {γ : Type} {nOffset nSize : ℕ}
    {f : List UInt8 → MemoryReader γ} {frame : List UInt8} :
    (bytes nOffset nSize >>= f).Inside frame ↔
      (nSize = 0 ∨ nOffset + nSize ≤ frame.length) ∧
        (f ((frame.drop nOffset).take nSize)).Inside frame := by
  rw [inside_bind_iff, inside_bytes_iff]
  intro m hm hinside
  rcases inside_bytes_iff.mp hinside with rfl | hle
  · rfl
  · exact result_bytes_of_holds hm hle

/-- The number in some bytes. -/
def number (ofBytes : List UInt8 → ℕ) (nOffset nSize : ℕ) : MemoryReader ℕ := do
  let data ← bytes nOffset nSize
  pure (ofBytes data)

theorem result_number_of_holds {ofBytes : List UInt8 → ℕ} {frame : List UInt8} {m : Memory}
    (hm : Holds frame m) {nOffset nSize : ℕ} (hle : nOffset + nSize ≤ frame.length) :
    (number ofBytes nOffset nSize).result m = ofBytes ((frame.drop nOffset).take nSize) :=
  congrArg ofBytes (result_bytes_of_holds hm hle)

theorem inside_number_iff {ofBytes : List UInt8 → ℕ} {nOffset nSize : ℕ} {frame : List UInt8} :
    (number ofBytes nOffset nSize).Inside frame ↔
      nSize = 0 ∨ nOffset + nSize ≤ frame.length := by
  rw [number, inside_bytes_bind_iff]
  exact and_iff_left (inside_pure _ frame)

theorem inside_number_bind_iff {γ : Type} {ofBytes : List UInt8 → ℕ} {nOffset nSize : ℕ}
    (hsize : nSize ≠ 0) {f : ℕ → MemoryReader γ} {frame : List UInt8} :
    (number ofBytes nOffset nSize >>= f).Inside frame ↔
      nOffset + nSize ≤ frame.length ∧
        (f (ofBytes ((frame.drop nOffset).take nSize))).Inside frame := by
  rw [inside_bind_iff, inside_number_iff, or_iff_right hsize]
  intro m hm hinside
  exact result_number_of_holds hm ((inside_number_iff.mp hinside).resolve_left hsize)

end MemoryReader

end RealtimeEx
