import Mathlib.Data.List.Nodup
import Mathlib.Data.List.Perm.Basic
import Mathlib.Data.Nat.Find
import RealtimeEx.Support.History

/-!
# `CFixMemoryPool`

Units of one size are cut from blocks of some units.  The pointers of the free units stand in a
vector behind `m_nNextAlloc`; the places before it wait for the units that are out.
-/

namespace RealtimeEx.Core

/-- A pointer into a block: the number of the block, and where in it. -/
structure MemoryPtr where
  nBatch : ℕ
  nOffset : ℕ
  deriving DecidableEq

/-- `CFixMemoryPool`.  `nullptr` is `none`, and of a block its size is kept. -/
structure CFixMemoryPool where
  nUnitSize : UInt32
  nBatchCount : UInt32
  vecMemory : List (Option MemoryPtr) := []
  vecBatch : List ℕ := []
  nNextAlloc : UInt32 := 0

/-- `&pBatch[this->m_nUnitSize * i]`. -/
def unitAt (nUnitSize : UInt32) (pBatch i : ℕ) : MemoryPtr :=
  ⟨pBatch, (nUnitSize * UInt32.ofNat i).toNat⟩

/-- The loop of `allocate` that cuts a block. -/
def cutUnits (nUnitSize : UInt32) (pBatch : ℕ) :
    List ℕ → UInt32 → List (Option MemoryPtr) → List (Option MemoryPtr)
  | [], _, vecMemory => vecMemory
  | i :: is, nIndex, vecMemory =>
      cutUnits nUnitSize pBatch is (nIndex + 1)
        (vecMemory.set nIndex.toNat (some (unitAt nUnitSize pBatch i)))

namespace CFixMemoryPool

variable (p : CFixMemoryPool)

/-- A new block.  The product is one of `uint32_t`. -/
def grow : CFixMemoryPool :=
  let nSize := (p.nUnitSize * p.nBatchCount).toNat
  let pBatch := p.vecBatch.length
  let vecMemory := p.vecMemory ++ List.replicate p.nBatchCount.toNat none
  { p with
    vecBatch := p.vecBatch ++ [nSize]
    vecMemory :=
      cutUnits p.nUnitSize pBatch (List.range p.nBatchCount.toNat) p.nNextAlloc vecMemory }

/-- `allocate`; `none` is a place behind the end of the vector. -/
def allocate : Option (Option MemoryPtr × CFixMemoryPool) :=
  let p := if p.nNextAlloc.toNat ≥ p.vecMemory.length then p.grow else p
  p.vecMemory[p.nNextAlloc.toNat]?.map fun pMemory =>
    (pMemory, { p with nNextAlloc := p.nNextAlloc + 1 })

/-- `deallocate`. -/
def deallocate (pMemory : Option MemoryPtr) : CFixMemoryPool :=
  if pMemory ≠ none ∧ p.nNextAlloc > 0 then
    { p with
      nNextAlloc := p.nNextAlloc - 1
      vecMemory := p.vecMemory.set (p.nNextAlloc - 1).toNat pMemory }
  else
    p

/-! ## Runs -/

/-- A pool, `none` after a call that has no meaning, and what it has handed out and not got
back. -/
structure Run where
  pool : Option CFixMemoryPool
  out : List (Option MemoryPtr)

inductive Call
  | allocate
  | deallocate (pMemory : Option MemoryPtr)

/-- Only what is out is released. -/
def step (s : Run) : Call → Run
  | .allocate =>
      match s.pool.bind CFixMemoryPool.allocate with
      | none => { s with pool := none }
      | some (pMemory, p) => ⟨some p, pMemory :: s.out⟩
  | .deallocate pMemory =>
      if pMemory ∈ s.out then
        ⟨s.pool.map (·.deallocate pMemory), s.out.erase pMemory⟩
      else
        s

def start (nUnitSize nBatchCount : UInt32) : Run := ⟨some { nUnitSize, nBatchCount }, []⟩

/-! ## What is meant -/

/-- Two pointers at which units of a size do not overlap. -/
def Apart (nSize : ℕ) (a b : MemoryPtr) : Prop :=
  a.nBatch ≠ b.nBatch ∨ a.nOffset ≠ b.nOffset ∧
    (a.nOffset + nSize ≤ b.nOffset ∨ b.nOffset + nSize ≤ a.nOffset)

/-- A pointer to a unit of one of the blocks. -/
def IsUnit (p : CFixMemoryPool) (pMemory : Option MemoryPtr) : Prop :=
  ∃ nBatch < p.vecBatch.length, ∃ i < p.nBatchCount.toNat,
    pMemory = some (unitAt p.nUnitSize nBatch i)

/-- What is out are different units of the blocks.  Every unit lies in its block and does not
overlap another one.  A unit that is released is handed out again. -/
structure Sound (p : CFixMemoryPool) (out : List (Option MemoryPtr)) : Prop where
  nodup : out.Nodup
  unit : ∀ pMemory ∈ out, p.IsUnit pMemory
  inside : ∀ nBatch nSize, p.vecBatch[nBatch]? = some nSize → ∀ i < p.nBatchCount.toNat,
    (unitAt p.nUnitSize nBatch i).nOffset + p.nUnitSize.toNat ≤ nSize
  apart : ∀ nBatch < p.vecBatch.length, ∀ i < p.nBatchCount.toNat,
    ∀ nOther < p.vecBatch.length, ∀ j < p.nBatchCount.toNat, (nBatch, i) ≠ (nOther, j) →
      Apart p.nUnitSize.toNat (unitAt p.nUnitSize nBatch i) (unitAt p.nUnitSize nOther j)
  again : ∀ pMemory ∈ out, (p.deallocate pMemory).allocate.map Prod.fst = some pMemory

def Run.Right (s : Run) : Prop := ∃ p, s.pool = some p ∧ p.Sound s.out

/-- A block has units, its size is a `uint32_t`, and units without a size are alone in it. -/
structure FitsBlock (nUnitSize nBatchCount : UInt32) : Prop where
  pos : 0 < nBatchCount.toNat
  size : nUnitSize.toNat * nBatchCount.toNat < 2 ^ 32
  alone : nUnitSize.toNat = 0 → nBatchCount.toNat = 1

/-- A unit can be allocated if blocks can be made and the number of units that are then out is
a `uint32_t`. -/
def Fits (nUnitSize nBatchCount : UInt32) (s : Run) : Call → Prop
  | .allocate => FitsBlock nUnitSize nBatchCount ∧ s.out.length + 1 < 2 ^ 32
  | .deallocate _ => True

/-! ## Blocks -/

section Blocks

variable {nUnitSize nBatchCount : UInt32}

theorem nOffset_unitAt_mod (nUnitSize : UInt32) (pBatch : ℕ) {i : ℕ} (hi : i < 2 ^ 32) :
    (unitAt nUnitSize pBatch i).nOffset = nUnitSize.toNat * i % 2 ^ 32 := by
  rw [unitAt, UInt32.toNat_mul, UInt32.toNat_ofNat', Nat.mod_eq_of_lt hi]

theorem FitsBlock.nOffset_unitAt (h : FitsBlock nUnitSize nBatchCount) (pBatch : ℕ) {i : ℕ}
    (hi : i < nBatchCount.toNat) : (unitAt nUnitSize pBatch i).nOffset = nUnitSize.toNat * i := by
  have hlt := nBatchCount.toNat_lt
  have hle : nUnitSize.toNat * i ≤ nUnitSize.toNat * nBatchCount.toNat :=
    Nat.mul_le_mul_left _ hi.le
  rw [nOffset_unitAt_mod _ _ (by omega), Nat.mod_eq_of_lt (hle.trans_lt h.size)]

theorem FitsBlock.inside (h : FitsBlock nUnitSize nBatchCount) (pBatch : ℕ) {i : ℕ}
    (hi : i < nBatchCount.toNat) :
    (unitAt nUnitSize pBatch i).nOffset + nUnitSize.toNat ≤ (nUnitSize * nBatchCount).toNat := by
  rw [h.nOffset_unitAt pBatch hi, UInt32.toNat_mul, Nat.mod_eq_of_lt h.size, ← Nat.mul_succ]
  exact Nat.mul_le_mul_left _ hi

theorem FitsBlock.apart (h : FitsBlock nUnitSize nBatchCount) {nBatch nOther i j : ℕ}
    (hi : i < nBatchCount.toNat) (hj : j < nBatchCount.toNat)
    (hne : (nBatch, i) ≠ (nOther, j)) :
    Apart nUnitSize.toNat (unitAt nUnitSize nBatch i) (unitAt nUnitSize nOther j) := by
  by_cases hblock : nBatch = nOther
  · subst hblock
    have hij : i ≠ j := fun heq => hne (congrArg (nBatch, ·) heq)
    have hpos : 0 < nUnitSize.toNat := by
      rw [Nat.pos_iff_ne_zero]
      intro hzero
      have hone := h.alone hzero
      omega
    refine .inr ?_
    rw [h.nOffset_unitAt _ hi, h.nOffset_unitAt _ hj]
    -- the units of a block stand one behind the other
    have hbehind {a b : ℕ} (hab : a < b) :
        nUnitSize.toNat * a + nUnitSize.toNat ≤ nUnitSize.toNat * b := by
      rw [← Nat.mul_succ]
      exact Nat.mul_le_mul_left _ hab
    obtain hlt | hlt := Nat.lt_or_gt_of_ne hij
    · have hle := hbehind hlt
      exact ⟨by omega, .inl hle⟩
    · have hle := hbehind hlt
      exact ⟨by omega, .inr hle⟩
  · exact .inl hblock

/-- Different units have different addresses. -/
theorem FitsBlock.unitAt_inj (h : FitsBlock nUnitSize nBatchCount) {nBatch nOther i j : ℕ}
    (hi : i < nBatchCount.toNat) (hj : j < nBatchCount.toNat)
    (heq : unitAt nUnitSize nBatch i = unitAt nUnitSize nOther j) : (nBatch, i) = (nOther, j) := by
  by_contra hne
  obtain hblock | ⟨hoffset, -⟩ := h.apart hi hj hne
  · exact hblock (congrArg MemoryPtr.nBatch heq)
  · exact hoffset (congrArg MemoryPtr.nOffset heq)

/-- In a block that is too small for its units, the first unit that does not fit is outside. -/
theorem size_lt_of_inside {pBatch : ℕ}
    (hinside : ∀ i < nBatchCount.toNat, (unitAt nUnitSize pBatch i).nOffset + nUnitSize.toNat ≤
      (nUnitSize * nBatchCount).toNat) (hpos : 0 < nBatchCount.toNat) :
    nUnitSize.toNat * nBatchCount.toNat < 2 ^ 32 := by
  by_contra hlarge
  have hsize := (nUnitSize * nBatchCount).toNat_lt
  have hcount := nBatchCount.toNat_lt
  have hexists : ∃ k, (nUnitSize * nBatchCount).toNat < nUnitSize.toNat * (k + 1) := by
    refine ⟨nBatchCount.toNat - 1, ?_⟩
    rw [Nat.sub_add_cancel hpos]
    omega
  have hfirst := Nat.find_spec hexists
  have hmin := fun k => Nat.find_min hexists (m := k)
  generalize Nat.find hexists = k at hfirst hmin
  have hk : k < nBatchCount.toNat := by
    by_contra hge
    refine hmin (nBatchCount.toNat - 1) (by omega) ?_
    rw [Nat.sub_add_cancel hpos]
    omega
  have hbefore : nUnitSize.toNat * k ≤ (nUnitSize * nBatchCount).toNat := by
    cases k with
    | zero => exact Nat.zero_le _
    | succ k => exact Nat.le_of_not_lt (hmin k (Nat.lt_succ_self k))
  have hunit := hinside k hk
  rw [nOffset_unitAt_mod _ _ (by omega), Nat.mod_eq_of_lt (by omega), ← Nat.mul_succ] at hunit
  exact Nat.not_lt_of_le hunit hfirst

theorem fitsBlock_of_inside {pBatch : ℕ} (hpos : 0 < nBatchCount.toNat)
    (hinside : ∀ i < nBatchCount.toNat, (unitAt nUnitSize pBatch i).nOffset + nUnitSize.toNat ≤
      (nUnitSize * nBatchCount).toNat)
    (hapart : ∀ i < nBatchCount.toNat, ∀ j < nBatchCount.toNat, i ≠ j →
      Apart nUnitSize.toNat (unitAt nUnitSize pBatch i) (unitAt nUnitSize pBatch j)) :
    FitsBlock nUnitSize nBatchCount := by
  refine ⟨hpos, size_lt_of_inside hinside hpos, fun hzero => ?_⟩
  by_contra hone
  obtain hblock | ⟨hoffset, -⟩ := hapart 0 hpos 1 (by omega) Nat.zero_ne_one
  · exact hblock rfl
  · rw [nOffset_unitAt_mod _ _ (by omega), nOffset_unitAt_mod _ _ (by omega), hzero] at hoffset
    exact hoffset rfl

theorem length_cutUnits (nUnitSize : UInt32) (pBatch : ℕ) (is : List ℕ) (nIndex : UInt32)
    (vecMemory : List (Option MemoryPtr)) :
    (cutUnits nUnitSize pBatch is nIndex vecMemory).length = vecMemory.length := by
  induction is generalizing nIndex vecMemory with
  | nil => rfl
  | cons i is ih => rw [cutUnits, ih, List.length_set]

/-- Where a block is cut, its units stand one behind the other.  An index that starts again at
zero does not come back to where it started. -/
theorem getElem?_cutUnits {n start k m i : ℕ} (hstart : start < 2 ^ 32) (hm : i + m < 2 ^ 32)
    (hle : start ≤ k) (hk : k < 2 ^ 32) {vecMemory : List (Option MemoryPtr)}
    (hlength : k < vecMemory.length) :
    (cutUnits nUnitSize n (List.range' i m) (UInt32.ofNat (start + i)) vecMemory)[k]? =
      if start + i ≤ k ∧ k < start + i + m then some (some (unitAt nUnitSize n (k - start)))
      else vecMemory[k]? := by
  induction m generalizing i vecMemory with
  | zero =>
      rw [if_neg (by omega)]
      rfl
  | succ m ih =>
      have hnext : UInt32.ofNat (start + i) + 1 = UInt32.ofNat (start + (i + 1)) := by
        rw [← Nat.add_assoc, UInt32.ofNat_add (start + i) 1]
        rfl
      have hindex : (UInt32.ofNat (start + i)).toNat = (start + i) % 2 ^ 32 :=
        UInt32.toNat_ofNat'
      rw [List.range'_succ, cutUnits, hnext, ih (by omega) (by rwa [List.length_set]), hindex]
      by_cases hself : k = start + i
      · subst hself
        rw [if_neg (by omega), if_pos (by omega), Nat.mod_eq_of_lt hk,
          List.getElem?_set_self hlength, Nat.add_sub_cancel_left]
      · have hother : (start + i) % 2 ^ 32 ≠ k := by omega
        rw [List.getElem?_set_ne hother]
        refine if_congr ?_ rfl rfl
        omega

end Blocks

/-! ## The invariant -/

variable {p} {nUnitSize nBatchCount : UInt32} {out : List (Option MemoryPtr)}

/-- The units that are free and can be reached with an index of `uint32_t`. -/
def free (p : CFixMemoryPool) : List (Option MemoryPtr) :=
  (p.vecMemory.take (2 ^ 32)).drop p.nNextAlloc.toNat

/-- The units that are out and the free ones are different units.  Blocks are only made where
they fit. -/
structure Inv (nUnitSize nBatchCount : UInt32) (p : CFixMemoryPool)
    (out : List (Option MemoryPtr)) : Prop where
  unitSize : p.nUnitSize = nUnitSize
  batchCount : p.nBatchCount = nBatchCount
  count : p.nNextAlloc.toNat = out.length
  le : out.length ≤ p.vecMemory.length
  nodup : (out ++ p.free).Nodup
  unit : ∀ pMemory ∈ out ++ p.free, p.IsUnit pMemory
  blocks : ∀ nSize ∈ p.vecBatch, nSize = (nUnitSize * nBatchCount).toNat
  fits : p.vecBatch ≠ [] → FitsBlock nUnitSize nBatchCount
  memory : p.vecBatch = [] → p.vecMemory = []

theorem inv_start (nUnitSize nBatchCount : UInt32) :
    Inv nUnitSize nBatchCount { nUnitSize, nBatchCount } [] where
  unitSize := rfl
  batchCount := rfl
  count := rfl
  le := Nat.le_refl 0
  nodup := List.nodup_nil
  unit := fun _ hmem => absurd hmem List.not_mem_nil
  blocks := fun _ hmem => absurd hmem List.not_mem_nil
  fits := fun hne => absurd rfl hne
  memory := fun _ => rfl

theorem toNat_prev (hpos : 0 < p.nNextAlloc.toNat) :
    (p.nNextAlloc - 1).toNat = p.nNextAlloc.toNat - 1 :=
  UInt32.toNat_sub_of_le _ _ (UInt32.le_iff_toNat_le.mpr hpos)

/-- What is released comes into the last of the places of what is out. -/
theorem deallocate_of_pos {pMemory : Option MemoryPtr} (hnull : pMemory ≠ none)
    (hpos : 0 < p.nNextAlloc.toNat) :
    p.deallocate pMemory = { p with
      nNextAlloc := p.nNextAlloc - 1
      vecMemory := p.vecMemory.set (p.nNextAlloc.toNat - 1) pMemory } := by
  rw [deallocate, if_pos ⟨hnull, UInt32.lt_iff_toNat_lt.mpr hpos⟩, toNat_prev hpos]

theorem free_deallocate {pMemory : Option MemoryPtr} (hnull : pMemory ≠ none)
    (hpos : 0 < p.nNextAlloc.toNat) (hle : p.nNextAlloc.toNat ≤ p.vecMemory.length) :
    (p.deallocate pMemory).free = pMemory :: p.free := by
  have hlt := p.nNextAlloc.toNat_lt
  have hplace : p.nNextAlloc.toNat - 1 <
      ((p.vecMemory.take (2 ^ 32)).set (p.nNextAlloc.toNat - 1) pMemory).length := by
    rw [List.length_set, List.length_take]
    omega
  rw [deallocate_of_pos hnull hpos, free, free]
  dsimp only
  rw [toNat_prev hpos, List.take_set, List.drop_eq_getElem_cons hplace, List.getElem_set_self,
    Nat.sub_add_cancel hpos, List.drop_set_of_lt (by omega)]

/-- A unit that is released is the next one that is handed out. -/
theorem allocate_deallocate {pMemory : Option MemoryPtr} (hnull : pMemory ≠ none)
    (hpos : 0 < p.nNextAlloc.toNat) (hle : p.nNextAlloc.toNat ≤ p.vecMemory.length) :
    (p.deallocate pMemory).allocate.map Prod.fst = some pMemory := by
  have hlt : p.nNextAlloc.toNat - 1 < p.vecMemory.length := by omega
  rw [deallocate_of_pos hnull hpos, allocate]
  dsimp only
  rw [toNat_prev hpos, List.length_set, if_neg (by omega)]
  dsimp only
  rw [toNat_prev hpos, List.getElem?_set_self hlt]
  rfl

theorem Inv.sound (h : Inv nUnitSize nBatchCount p out) : p.Sound out where
  nodup := (List.nodup_append.mp h.nodup).1
  unit := fun pMemory hmem => h.unit pMemory (List.mem_append_left _ hmem)
  inside := by
    intro nBatch nSize hsize i hi
    have hmem := List.mem_of_getElem? hsize
    rw [h.batchCount] at hi
    rw [h.unitSize, h.blocks nSize hmem]
    exact (h.fits (List.ne_nil_of_mem hmem)).inside nBatch hi
  apart := by
    intro nBatch hbatch i hi nOther _ j hj hne
    have hblock := List.ne_nil_of_length_pos (Nat.zero_lt_of_lt hbatch)
    rw [h.batchCount] at hi hj
    rw [h.unitSize]
    exact (h.fits hblock).apart hi hj hne
  again := by
    intro pMemory hmem
    obtain ⟨nBatch, -, i, -, rfl⟩ := h.unit pMemory (List.mem_append_left _ hmem)
    have hpos := List.length_pos_of_mem hmem
    exact allocate_deallocate (Option.some_ne_none _) (h.count ▸ hpos) (h.count ▸ h.le)

/-! ## The calls -/

/-- As long as there is a free unit, the next one is handed out. -/
theorem Inv.allocate_of_lt (h : Inv nUnitSize nBatchCount p out)
    (hlt : out.length < p.vecMemory.length) (hcount : out.length + 1 < 2 ^ 32) :
    ∃ pMemory p', p.allocate = some (pMemory, p') ∧
      Inv nUnitSize nBatchCount p' (pMemory :: out) := by
  have hnext : (p.nNextAlloc + 1).toNat = out.length + 1 := by
    rw [UInt32.toNat_add, h.count]
    exact Nat.mod_eq_of_lt hcount
  have htake : out.length < (p.vecMemory.take (2 ^ 32)).length := by
    rw [List.length_take]
    omega
  have hfree : p.free = p.vecMemory[out.length] ::
      (p.vecMemory.take (2 ^ 32)).drop (out.length + 1) := by
    rw [free, h.count, List.drop_eq_getElem_cons htake, List.getElem_take]
  have hmoved : (out ++ p.free).Perm (p.vecMemory[out.length] :: out ++
      (p.vecMemory.take (2 ^ 32)).drop (out.length + 1)) := by
    rw [hfree]
    exact List.perm_middle
  refine ⟨p.vecMemory[out.length], { p with nNextAlloc := p.nNextAlloc + 1 }, ?_, ?_⟩
  · rw [allocate, if_neg (by rw [h.count]; omega), h.count, List.getElem?_eq_getElem hlt]
    rfl
  · refine ⟨h.unitSize, h.batchCount, hnext, hlt, ?_, ?_, h.blocks, h.fits, h.memory⟩
    · rw [free]
      dsimp only
      rw [hnext]
      exact hmoved.nodup_iff.mp h.nodup
    · intro pMemory hmem
      rw [free] at hmem
      dsimp only at hmem
      rw [hnext] at hmem
      exact h.unit pMemory (hmoved.mem_iff.mpr hmem)

/-- The units of a new block are free. -/
theorem Inv.free_grow (h : Inv nUnitSize nBatchCount p out)
    (hfull : p.vecMemory.length ≤ out.length) (hcount : out.length < 2 ^ 32) :
    p.grow.free = (List.range (min nBatchCount.toNat (2 ^ 32 - out.length))).map
      fun i => some (unitAt nUnitSize p.vecBatch.length i) := by
  have hlength : p.vecMemory.length = out.length := Nat.le_antisymm hfull h.le
  have hnext : p.nNextAlloc = UInt32.ofNat (out.length + 0) := by
    rw [Nat.add_zero, ← h.count, UInt32.ofNat_toNat]
  have hbatch := nBatchCount.toNat_lt
  refine List.ext_getElem? fun k => ?_
  rw [free, grow]
  dsimp only
  rw [h.count, List.getElem?_drop, List.getElem?_take, hnext, List.range_eq_range',
    h.unitSize, h.batchCount, List.getElem?_map]
  by_cases hk : out.length + k < 2 ^ 32 ∧ k < nBatchCount.toNat
  · have hplace : out.length + k <
        (p.vecMemory ++ List.replicate nBatchCount.toNat none).length := by
      rw [List.length_append, List.length_replicate]
      omega
    rw [if_pos hk.1, getElem?_cutUnits hcount (by omega) (Nat.le_add_right _ _) hk.1 hplace,
      if_pos (by omega), Nat.add_sub_cancel_left, List.getElem?_range (by omega)]
    rfl
  · rw [List.getElem?_eq_none (l := List.range _) (by rw [List.length_range]; omega)]
    split_ifs with hindex
    · refine List.getElem?_eq_none ?_
      rw [length_cutUnits, List.length_append, List.length_replicate]
      omega
    · rfl

theorem length_grow (p : CFixMemoryPool) :
    p.grow.vecMemory.length = p.vecMemory.length + p.nBatchCount.toNat := by
  rw [grow]
  dsimp only
  rw [length_cutUnits, List.length_append, List.length_replicate]

theorem IsUnit.grow {pMemory : Option MemoryPtr} (h : p.IsUnit pMemory) :
    p.grow.IsUnit pMemory := by
  obtain ⟨nBatch, hbatch, i, hi, heq⟩ := h
  refine ⟨nBatch, ?_, i, hi, heq⟩
  rw [CFixMemoryPool.grow, List.length_append]
  exact Nat.lt_add_right _ hbatch

/-- The units of a new block are none of those that are out. -/
theorem Inv.grow (h : Inv nUnitSize nBatchCount p out) (hblock : FitsBlock nUnitSize nBatchCount)
    (hfull : p.vecMemory.length ≤ out.length) (hcount : out.length < 2 ^ 32) :
    Inv nUnitSize nBatchCount p.grow out := by
  have hcut := h.free_grow hfull hcount
  have hnew {pMemory : Option MemoryPtr} (hmem : pMemory ∈ p.grow.free) :
      ∃ i < nBatchCount.toNat, pMemory = some (unitAt nUnitSize p.vecBatch.length i) := by
    rw [hcut] at hmem
    obtain ⟨i, hi, rfl⟩ := List.mem_map.mp hmem
    exact ⟨i, (List.mem_range.mp hi).trans_le (Nat.min_le_left _ _), rfl⟩
  refine ⟨h.unitSize, h.batchCount, h.count, ?_, ?_, ?_, ?_, fun _ => hblock, ?_⟩
  · rw [length_grow]
    exact Nat.le_add_right_of_le h.le
  · refine List.nodup_append.mpr ⟨(List.nodup_append.mp h.nodup).1, ?_, ?_⟩
    · rw [hcut]
      refine List.Nodup.map_on ?_ List.nodup_range
      intro i hi j hj heq
      have hilt := (List.mem_range.mp hi).trans_le (Nat.min_le_left _ _)
      have hjlt := (List.mem_range.mp hj).trans_le (Nat.min_le_left _ _)
      exact congrArg Prod.snd (hblock.unitAt_inj hilt hjlt (Option.some_inj.mp heq))
    · intro pOut hout pNew hmem heq
      obtain ⟨nBatch, hbatch, i, hi, rfl⟩ := h.unit pOut (List.mem_append_left _ hout)
      obtain ⟨j, hj, rfl⟩ := hnew hmem
      rw [h.unitSize] at heq
      rw [h.batchCount] at hi
      have hsame := hblock.unitAt_inj hi hj (Option.some_inj.mp heq)
      exact hbatch.ne (congrArg Prod.fst hsame)
  · intro pMemory hmem
    obtain hout | hfree := List.mem_append.mp hmem
    · exact (h.unit pMemory (List.mem_append_left _ hout)).grow
    · obtain ⟨i, hi, rfl⟩ := hnew hfree
      refine ⟨p.vecBatch.length, ?_, i, ?_, ?_⟩
      · rw [CFixMemoryPool.grow, List.length_append]
        exact Nat.lt_succ_self _
      · rw [← h.batchCount] at hi
        exact hi
      · rw [← h.unitSize]
        rfl
  · intro nSize hmem
    rw [CFixMemoryPool.grow] at hmem
    obtain hold | hlast := List.mem_append.mp hmem
    · exact h.blocks nSize hold
    · rw [List.mem_singleton.mp hlast, h.unitSize, h.batchCount]
  · intro hnil
    exact absurd hnil (List.append_ne_nil_of_right_ne_nil _ (List.cons_ne_nil _ _))

/-- A call of `allocate` hands out a unit that was not out. -/
theorem Inv.allocate (h : Inv nUnitSize nBatchCount p out)
    (hblock : FitsBlock nUnitSize nBatchCount) (hcount : out.length + 1 < 2 ^ 32) :
    ∃ pMemory p', p.allocate = some (pMemory, p') ∧
      Inv nUnitSize nBatchCount p' (pMemory :: out) := by
  by_cases hfull : p.vecMemory.length ≤ out.length
  · have hgrown := h.grow hblock hfull (Nat.lt_of_succ_lt hcount)
    have hroom : out.length < p.grow.vecMemory.length := by
      have hpos := hblock.pos
      have hle := h.le
      rw [length_grow, h.batchCount]
      omega
    have hallocate : p.allocate = p.grow.allocate := by
      have hcount' := h.count
      have hcount'' := hgrown.count
      rw [CFixMemoryPool.allocate, CFixMemoryPool.allocate, if_pos (by omega),
        if_neg (by omega)]
    rw [hallocate]
    exact hgrown.allocate_of_lt hroom hcount
  · exact h.allocate_of_lt (Nat.lt_of_not_le hfull) hcount

/-- What is released is out no more, and is the first unit that is free. -/
theorem Inv.deallocate (h : Inv nUnitSize nBatchCount p out) {pMemory : Option MemoryPtr}
    (hmem : pMemory ∈ out) :
    Inv nUnitSize nBatchCount (p.deallocate pMemory) (out.erase pMemory) := by
  have hnull : pMemory ≠ none := by
    obtain ⟨nBatch, -, i, -, rfl⟩ := h.unit pMemory (List.mem_append_left _ hmem)
    exact Option.some_ne_none _
  have hpos : 0 < p.nNextAlloc.toNat := h.count ▸ List.length_pos_of_mem hmem
  have hmoved : (out ++ p.free).Perm (out.erase pMemory ++ (p.deallocate pMemory).free) := by
    rw [free_deallocate hnull hpos (h.count ▸ h.le)]
    exact ((List.perm_cons_erase hmem).append_right _).trans List.perm_middle.symm
  have hunit {pOther : Option MemoryPtr}
      (hother : pOther ∈ out.erase pMemory ++ (p.deallocate pMemory).free) : p.IsUnit pOther :=
    h.unit pOther (hmoved.mem_iff.mpr hother)
  have hnodup := hmoved.nodup_iff.mp h.nodup
  rw [deallocate_of_pos hnull hpos] at hunit hnodup ⊢
  refine ⟨h.unitSize, h.batchCount, ?_, ?_, hnodup, fun _ hother => hunit hother, h.blocks,
    h.fits, ?_⟩
  · rw [List.length_erase_of_mem hmem, ← h.count]
    exact toNat_prev hpos
  · rw [List.length_erase_of_mem hmem, List.length_set]
    exact (Nat.sub_le _ _).trans h.le
  · intro hnil
    dsimp only
    rw [h.memory hnil]
    rfl

/-! ## Calls that go wrong -/

/-- What a call of `allocate` does to the pool. -/
theorem allocate_cases {p' : CFixMemoryPool} {pMemory : Option MemoryPtr}
    (hallocate : p.allocate = some (pMemory, p')) :
    p.vecMemory.length ≤ p.nNextAlloc.toNat ∧
        p.nNextAlloc.toNat < p.grow.vecMemory.length ∧
        p' = { p.grow with nNextAlloc := p.nNextAlloc + 1 } ∨
      p.nNextAlloc.toNat < p.vecMemory.length ∧
        p' = { p with nNextAlloc := p.nNextAlloc + 1 } := by
  rw [CFixMemoryPool.allocate] at hallocate
  split_ifs at hallocate with hfull
  · obtain ⟨pUnit, hplace, heq⟩ := Option.map_eq_some_iff.mp hallocate
    obtain ⟨hlt, -⟩ := List.getElem?_eq_some_iff.mp hplace
    exact .inl ⟨hfull, hlt, (congrArg Prod.snd heq).symm⟩
  · obtain ⟨pUnit, -, heq⟩ := Option.map_eq_some_iff.mp hallocate
    exact .inr ⟨Nat.lt_of_not_le hfull, (congrArg Prod.snd heq).symm⟩

/-- Where no block has been made, `allocate` makes the first one. -/
theorem Inv.fitsBlock_of_sound (h : Inv nUnitSize nBatchCount p out) {p' : CFixMemoryPool}
    {pMemory : Option MemoryPtr} (hallocate : p.allocate = some (pMemory, p'))
    (hsound : p'.Sound (pMemory :: out)) : FitsBlock nUnitSize nBatchCount := by
  by_cases hnil : p.vecBatch = []
  · have hmemory := h.memory hnil
    obtain ⟨-, hroom, rfl⟩ | ⟨hlt, -⟩ := allocate_cases hallocate
    · have hfirst : p.grow.vecBatch = [(nUnitSize * nBatchCount).toNat] := by
        rw [CFixMemoryPool.grow, hnil, h.unitSize, h.batchCount]
        rfl
      have hsize : p.grow.nUnitSize = nUnitSize := h.unitSize
      have hcount : p.grow.nBatchCount = nBatchCount := h.batchCount
      have hpos : 0 < nBatchCount.toNat := by
        rw [length_grow, hmemory, List.length_nil, Nat.zero_add, h.batchCount] at hroom
        exact Nat.zero_lt_of_lt hroom
      have hinside := hsound.inside 0
      have happart := hsound.apart 0
      dsimp only at hinside happart
      rw [hfirst, hsize, hcount] at hinside happart
      refine fitsBlock_of_inside hpos (hinside _ rfl) fun i hi j hj hij => ?_
      refine happart Nat.zero_lt_one i hi 0 Nat.zero_lt_one j hj fun heq => ?_
      exact hij (congrArg Prod.snd heq)
    · rw [hmemory] at hlt
      exact absurd hlt (Nat.not_lt_zero _)
  · exact h.fits hnil

/-- When all indices of `uint32_t` are used the next one is zero, and no unit can be released
any more. -/
theorem Inv.length_lt_of_sound (h : Inv nUnitSize nBatchCount p out) {p' : CFixMemoryPool}
    {pMemory : Option MemoryPtr} (hallocate : p.allocate = some (pMemory, p'))
    (hsound : p'.Sound (pMemory :: out)) : out.length + 1 < 2 ^ 32 := by
  by_contra hall
  have hlt := p.nNextAlloc.toNat_lt
  have hcount := h.count
  have hnext : p'.nNextAlloc = p.nNextAlloc + 1 := by
    obtain ⟨-, -, rfl⟩ | ⟨-, rfl⟩ := allocate_cases hallocate
    · rfl
    · rfl
  have hzero : p'.nNextAlloc.toNat = 0 := by
    rw [hnext, UInt32.toNat_add, show p.nNextAlloc.toNat = 2 ^ 32 - 1 by omega]
    rfl
  have hkept (pOther : Option MemoryPtr) : p'.deallocate pOther = p' := by
    rw [CFixMemoryPool.deallocate, if_neg]
    rintro ⟨-, hpos⟩
    have hpos' : 0 < p'.nNextAlloc.toNat := UInt32.lt_iff_toNat_lt.mp hpos
    exact hpos'.ne' hzero
  -- two units that are out would be the next one
  have hone : 0 < out.length := by omega
  have hhead := hsound.again pMemory List.mem_cons_self
  have hother := hsound.again out[0] (List.mem_cons_of_mem _ (List.getElem_mem hone))
  rw [hkept] at hhead hother
  have hsame : pMemory = out[0] := Option.some_inj.mp (hhead.symm.trans hother)
  exact (List.nodup_cons.mp hsound.nodup).1 (hsame ▸ List.getElem_mem hone)

/-! ## Runs -/

def Run.Inv (nUnitSize nBatchCount : UInt32) (s : Run) : Prop :=
  ∃ p, s.pool = some p ∧ CFixMemoryPool.Inv nUnitSize nBatchCount p s.out

theorem Run.Inv.right {s : Run} (h : s.Inv nUnitSize nBatchCount) : s.Right := by
  obtain ⟨p, hpool, hinv⟩ := h
  exact ⟨p, hpool, hinv.sound⟩

/-- A call that fits keeps the invariant. -/
theorem Run.Inv.step {s : Run} (h : s.Inv nUnitSize nBatchCount) {call : Call}
    (hfits : Fits nUnitSize nBatchCount s call) :
    (CFixMemoryPool.step s call).Inv nUnitSize nBatchCount := by
  obtain ⟨p, hpool, hinv⟩ := h
  cases call with
  | allocate =>
      obtain ⟨pMemory, p', hallocate, hinv'⟩ := hinv.allocate hfits.1 hfits.2
      rw [CFixMemoryPool.step, hpool, Option.bind_some, hallocate]
      exact ⟨p', rfl, hinv'⟩
  | deallocate pMemory =>
      rw [CFixMemoryPool.step]
      split_ifs with hmem
      · rw [hpool]
        exact ⟨p.deallocate pMemory, rfl, hinv.deallocate hmem⟩
      · exact ⟨p, hpool, hinv⟩

/-- A call after which all is right was one that fits. -/
theorem Run.Inv.fits {s : Run} (h : s.Inv nUnitSize nBatchCount) {call : Call}
    (hright : (CFixMemoryPool.step s call).Right) : Fits nUnitSize nBatchCount s call := by
  obtain ⟨p, hpool, hinv⟩ := h
  cases call with
  | allocate =>
      rw [CFixMemoryPool.step, hpool, Option.bind_some] at hright
      cases hallocate : p.allocate with
      | none =>
          rw [hallocate] at hright
          obtain ⟨p', hnone, -⟩ := hright
          exact absurd hnone (Option.some_ne_none _).symm
      | some result =>
          rw [hallocate] at hright
          obtain ⟨p', hsome, hsound⟩ := hright
          obtain rfl := Option.some_inj.mp hsome
          exact ⟨hinv.fitsBlock_of_sound hallocate hsound,
            hinv.length_lt_of_sound hallocate hsound⟩
  | deallocate pMemory => trivial

/-- In all runs of a pool whose calls all fit, and in no other ones, no unit is handed out twice,
the units lie in their blocks beside each other, and a unit that is released is handed out
again. -/
theorem units_throughout_iff (nUnitSize nBatchCount : UInt32) (calls : List Call) :
    (∀ ks, ks <+: calls → (ks.foldl step (start nUnitSize nBatchCount)).Right) ↔
      Meets step (Fits nUnitSize nBatchCount) (start nUnitSize nBatchCount) calls :=
  throughout_iff_of_kept (I := Run.Inv nUnitSize nBatchCount)
    (fun _ _ hinv _ hfits => hinv.step hfits)
    (fun _ _ hinv _ => ⟨hinv.fits, fun hfits => (hinv.step hfits).right⟩)
    ⟨_, rfl, inv_start nUnitSize nBatchCount⟩
    (Run.Inv.right ⟨_, rfl, inv_start nUnitSize nBatchCount⟩) calls

/-- The size of two units of `2 ^ 31` bytes is zero as a `uint32_t`, and the first one is handed
out of a block of no bytes. -/
theorem not_units_allocate : ¬ ∀ ks, ks <+: [Call.allocate] →
    (ks.foldl step (start 0x80000000 2)).Right := by
  intro h
  obtain ⟨p, hpool, hsound⟩ := h [.allocate] List.prefix_rfl
  obtain rfl := Option.some_inj.mp hpool
  exact absurd (hsound.inside 0 0 rfl 0 (by decide)) (by decide)

end CFixMemoryPool

end RealtimeEx.Core
