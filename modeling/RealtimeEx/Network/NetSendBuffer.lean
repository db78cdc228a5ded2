import Mathlib.Algebra.Order.Ring.Int
import Mathlib.Data.List.Basic
import Mathlib.Tactic.Common

/-!
# `CNetSendBuffer`

The send buffer of a connection: blocks of memory of one size, linked from the head,
where bytes are pushed, to the tail, where they are popped.  A block that has been read
to its end is kept for later use.
-/

namespace RealtimeEx.Network

/-- `_SEND_BUF_SIZE`. -/
def sendBufSize : ℕ := 2048

/-- `CNetSendBufferBlock` of a given `m_pBufSize`. -/
structure CNetSendBufferBlock (nBufSize : ℕ) where
  pBuf : List UInt8
  nReadPos : ℕ
  nWritePos : ℕ
  length_pBuf : pBuf.length = nBufSize
  read_le_write : nReadPos ≤ nWritePos
  write_le : nWritePos ≤ nBufSize

namespace CNetSendBufferBlock

variable {nBufSize : ℕ}

/-- Both positions of an empty block are zero. -/
theorem read_le_write_of_empty : (0 : ℕ) ≤ 0 := Nat.le_refl 0

/-- `CNetSendBufferBlock::init`; new memory is modelled as zeros. -/
def init (nBufSize : ℕ) : CNetSendBufferBlock nBufSize where
  pBuf := List.replicate nBufSize 0
  nReadPos := 0
  nWritePos := 0
  length_pBuf := List.length_replicate
  read_le_write := read_le_write_of_empty
  write_le := Nat.zero_le _

/-- `reset`. -/
def reset (b : CNetSendBufferBlock nBufSize) : CNetSendBufferBlock nBufSize :=
  { b with
    nReadPos := 0
    nWritePos := 0
    read_le_write := read_le_write_of_empty
    write_le := Nat.zero_le _ }

/-- `getReadableSize`. -/
def getReadableSize (b : CNetSendBufferBlock nBufSize) : ℕ := b.nWritePos - b.nReadPos

/-- `getWritableSize`. -/
def getWritableSize (b : CNetSendBufferBlock nBufSize) : ℕ := nBufSize - b.nWritePos

/-- The bytes at `getReadableBuffer`. -/
def readable (b : CNetSendBufferBlock nBufSize) : List UInt8 :=
  (b.pBuf.drop b.nReadPos).take b.getReadableSize

/-- `push`. -/
def push (b : CNetSendBufferBlock nBufSize) (pBuf : List UInt8) :
    CNetSendBufferBlock nBufSize :=
  if h : pBuf.length ≤ b.getWritableSize then
    { b with
      pBuf := b.pBuf.take b.nWritePos ++ (pBuf ++ b.pBuf.drop (b.nWritePos + pBuf.length))
      nWritePos := b.nWritePos + pBuf.length
      length_pBuf := by
        have hsize := b.length_pBuf
        have hwrite := b.write_le
        rw [getWritableSize] at h
        simp only [List.length_append, List.length_take, List.length_drop]
        omega
      read_le_write := Nat.le_add_right_of_le b.read_le_write
      write_le := by
        have hwrite := b.write_le
        rw [getWritableSize] at h
        omega }
  else
    b

/-- `pop`. -/
def pop (b : CNetSendBufferBlock nBufSize) (nSize : ℕ) : CNetSendBufferBlock nBufSize :=
  if h : nSize ≤ b.getReadableSize then
    { b with
      nReadPos := b.nReadPos + nSize
      read_le_write := by
        have hread := b.read_le_write
        rw [getReadableSize] at h
        omega }
  else
    b

variable {b : CNetSendBufferBlock nBufSize}

@[simp] theorem length_readable : b.readable.length = b.getReadableSize := by
  have hsize := b.length_pBuf
  have hread := b.read_le_write
  have hwrite := b.write_le
  simp only [readable, getReadableSize, List.length_take, List.length_drop]
  omega

@[simp] theorem readable_init : (init nBufSize).readable = [] := rfl

@[simp] theorem readable_reset : b.reset.readable = [] := rfl

@[simp] theorem getWritableSize_init : (init nBufSize).getWritableSize = nBufSize := rfl

@[simp] theorem getWritableSize_reset : b.reset.getWritableSize = nBufSize := rfl

/-- Bytes that fit are appended. -/
theorem readable_push {pBuf : List UInt8} (h : pBuf.length ≤ b.getWritableSize) :
    (b.push pBuf).readable = b.readable ++ pBuf := by
  have hsize := b.length_pBuf
  have hread := b.read_le_write
  have hwrite := b.write_le
  rw [push, dif_pos h]
  show ((b.pBuf.take b.nWritePos ++ _).drop b.nReadPos).take
    (b.nWritePos + pBuf.length - b.nReadPos) = _
  have hsplit : (b.pBuf.take b.nWritePos).drop b.nReadPos = b.readable := by
    rw [readable, getReadableSize, List.drop_take]
  have hlength : b.nReadPos ≤ (b.pBuf.take b.nWritePos).length := by
    rw [List.length_take]
    omega
  have htotal : b.nWritePos + pBuf.length - b.nReadPos =
      b.readable.length + pBuf.length := by
    rw [length_readable, getReadableSize]
    omega
  rw [List.drop_append_of_le_length hlength, hsplit, htotal,
    List.take_length_add_append, List.take_left]

theorem getReadableSize_push {pBuf : List UInt8} (h : pBuf.length ≤ b.getWritableSize) :
    (b.push pBuf).getReadableSize = b.getReadableSize + pBuf.length := by
  rw [← length_readable, readable_push h, List.length_append, length_readable]

/-- Popped bytes are dropped. -/
theorem readable_pop {nSize : ℕ} (h : nSize ≤ b.getReadableSize) :
    (b.pop nSize).readable = b.readable.drop nSize := by
  rw [pop, dif_pos h]
  show (b.pBuf.drop (b.nReadPos + nSize)).take (b.nWritePos - (b.nReadPos + nSize)) = _
  rw [readable, List.drop_take, List.drop_drop, getReadableSize, Nat.sub_sub]

theorem readable_eq_nil_iff : b.readable = [] ↔ b.getReadableSize = 0 := by
  rw [← List.length_eq_zero_iff, length_readable]

end CNetSendBufferBlock

/-- `CNetSendBuffer` of a given `m_nBuffBlockSize`: the blocks from `m_pHead` on, of
which `m_pTail` is the last, and the ones from `m_pNoUse` on. -/
structure CNetSendBuffer (nBuffBlockSize : ℕ) where
  blocks : List (CNetSendBufferBlock nBuffBlockSize)
  noUse : List (CNetSendBufferBlock nBuffBlockSize)

namespace CNetSendBuffer

variable {nBuffBlockSize : ℕ}

/-- `CNetSendBuffer::init`. -/
def init (nBuffBlockSize : ℕ) : CNetSendBuffer nBuffBlockSize where
  blocks := []
  noUse := [.init nBuffBlockSize]

/-- `getBufferBlock`: a block, and the ones that remain unused. -/
def getBufferBlock (noUse : List (CNetSendBufferBlock nBuffBlockSize)) :
    CNetSendBufferBlock nBuffBlockSize × List (CNetSendBufferBlock nBuffBlockSize) :=
  match noUse with
  | [] => (.init nBuffBlockSize, [])
  | pBufferBlock :: noUse => (pBufferBlock.reset, noUse)

@[simp] theorem readable_getBufferBlock
    (noUse : List (CNetSendBufferBlock nBuffBlockSize)) :
    (getBufferBlock noUse).1.readable = [] := by
  cases noUse <;> rfl

@[simp] theorem getWritableSize_getBufferBlock
    (noUse : List (CNetSendBufferBlock nBuffBlockSize)) :
    (getBufferBlock noUse).1.getWritableSize = nBuffBlockSize := by
  cases noUse <;> rfl

/-- The loop of `push`, with the head block and the blocks behind it.  A block that is
full takes no bytes, but the one that follows it does. -/
def pushLoop [NeZero nBuffBlockSize] (head : CNetSendBufferBlock nBuffBlockSize)
    (rest noUse : List (CNetSendBufferBlock nBuffBlockSize)) (pBuf : List UInt8) :
    CNetSendBuffer nBuffBlockSize :=
  if pBuf.length ≤ head.getWritableSize then
    { blocks := head.push pBuf :: rest, noUse }
  else
    let nFreeSize := head.getWritableSize
    pushLoop (getBufferBlock noUse).1 (head.push (pBuf.take nFreeSize) :: rest)
      (getBufferBlock noUse).2 (pBuf.drop nFreeSize)
termination_by 2 * pBuf.length + if head.getWritableSize = 0 then 1 else 0
decreasing_by
  have hsize : nBuffBlockSize ≠ 0 := NeZero.ne _
  rw [getWritableSize_getBufferBlock, if_neg hsize, List.length_drop]
  split <;> omega

/-- `push`. -/
def push [NeZero nBuffBlockSize] (b : CNetSendBuffer nBuffBlockSize) (pBuf : List UInt8) :
    CNetSendBuffer nBuffBlockSize :=
  match b.blocks with
  | [] => pushLoop (getBufferBlock b.noUse).1 [] (getBufferBlock b.noUse).2 pBuf
  | head :: rest => pushLoop head rest b.noUse pBuf

/-- `pop`. -/
def pop (b : CNetSendBuffer nBuffBlockSize) (nSize : ℕ) : CNetSendBuffer nBuffBlockSize :=
  match b.blocks.getLast? with
  | none => b
  | some tail =>
      if nSize ≤ tail.getReadableSize then
        let tail := tail.pop nSize
        if tail.getReadableSize = 0 then
          { blocks := b.blocks.dropLast, noUse := tail :: b.noUse }
        else
          { b with blocks := b.blocks.dropLast ++ [tail] }
      else
        b

/-- The bytes at `getTailData`. -/
def getTailData (b : CNetSendBuffer nBuffBlockSize) : List UInt8 :=
  match b.blocks.getLast? with
  | none => []
  | some tail => tail.readable

/-- `getTailDataSize`. -/
def getTailDataSize (b : CNetSendBuffer nBuffBlockSize) : ℕ :=
  match b.blocks.getLast? with
  | none => 0
  | some tail => tail.getReadableSize

/-- `getTotalReadableSize`; the sum is a `uint32_t`. -/
def getTotalReadableSize (b : CNetSendBuffer nBuffBlockSize) : ℕ :=
  (b.blocks.map CNetSendBufferBlock.getReadableSize).sum % 2 ^ 32

/-! ## The bytes it holds -/

/-- The bytes of the blocks, from the tail to the head. -/
def data (b : CNetSendBuffer nBuffBlockSize) : List UInt8 :=
  b.blocks.reverse.flatMap CNetSendBufferBlock.readable

/-- No block is read to its end, except for a single one that nothing was written
to. -/
def Filled (b : CNetSendBuffer nBuffBlockSize) : Prop :=
  (∀ block ∈ b.blocks, 0 < block.getReadableSize) ∨
    ∃ block, b.blocks = [block] ∧ block.nWritePos = 0

@[simp] theorem data_init : (init nBuffBlockSize).data = [] := rfl

theorem filled_init : (init nBuffBlockSize).Filled := by
  left
  intro block hblock
  cases hblock

section Push

variable [NeZero nBuffBlockSize] {head : CNetSendBufferBlock nBuffBlockSize}
  {rest noUse : List (CNetSendBufferBlock nBuffBlockSize)} {pBuf : List UInt8}
  {b : CNetSendBuffer nBuffBlockSize}

/-- The loop appends the bytes to the ones of the blocks. -/
theorem data_pushLoop :
    (pushLoop head rest noUse pBuf).data =
      rest.reverse.flatMap CNetSendBufferBlock.readable ++ head.readable ++ pBuf := by
  induction head, rest, noUse, pBuf using pushLoop.induct with
  | case1 head rest noUse pBuf hfits =>
      rw [pushLoop, if_pos hfits, data]
      simp [CNetSendBufferBlock.readable_push hfits]
  | case2 head rest noUse pBuf hfull nFreeSize ih =>
      have hfree : (pBuf.take nFreeSize).length ≤ head.getWritableSize :=
        List.length_take_le _ _
      rw [pushLoop, if_neg hfull, ih]
      simp [CNetSendBufferBlock.readable_push hfree, nFreeSize, List.append_assoc]

theorem data_push (b : CNetSendBuffer nBuffBlockSize) (pBuf : List UInt8) :
    (b.push pBuf).data = b.data ++ pBuf := by
  rw [push]
  split
  · rename_i hblocks
    rw [data_pushLoop, data, hblocks]
    simp
  · rename_i head rest hblocks
    rw [data_pushLoop, data, hblocks]
    simp

/-- The loop leaves no block empty if it writes to the head, or the head holds bytes
already. -/
theorem forall_blocks_pushLoop (hrest : ∀ block ∈ rest, 0 < block.getReadableSize)
    (hhead : 0 < head.getReadableSize ∨ pBuf ≠ [] ∧ 0 < head.getWritableSize) :
    ∀ block ∈ (pushLoop head rest noUse pBuf).blocks, 0 < block.getReadableSize := by
  induction head, rest, noUse, pBuf using pushLoop.induct with
  | case1 head rest noUse pBuf hfits =>
      rw [pushLoop, if_pos hfits]
      refine List.forall_mem_cons.mpr ⟨?_, hrest⟩
      rw [CNetSendBufferBlock.getReadableSize_push hfits]
      rcases hhead with hhead | ⟨hne, -⟩
      · omega
      · have hlength := List.length_pos_iff.mpr hne
        omega
  | case2 head rest noUse pBuf hfull nFreeSize ih =>
      rw [pushLoop, if_neg hfull]
      have hlength : (pBuf.take nFreeSize).length = nFreeSize := by
        rw [List.length_take]
        omega
      apply ih
      · refine List.forall_mem_cons.mpr ⟨?_, hrest⟩
        rw [CNetSendBufferBlock.getReadableSize_push hlength.le, hlength]
        rcases hhead with hhead | ⟨-, hfree⟩
        · omega
        · exact Nat.add_pos_right _ hfree
      · right
        constructor
        · intro hnil
          have hshort := congrArg List.length hnil
          rw [List.length_drop, List.length_nil] at hshort
          omega
        · rw [getWritableSize_getBufferBlock]
          exact Nat.pos_of_ne_zero (NeZero.ne nBuffBlockSize)

theorem filled_push (h : b.Filled) (pBuf : List UInt8) : (b.push pBuf).Filled := by
  have hsize : 0 < nBuffBlockSize := Nat.pos_of_ne_zero (NeZero.ne nBuffBlockSize)
  -- A block that nothing was written to stays so only if it stays alone.
  have hempty {block : CNetSendBufferBlock nBuffBlockSize} (noUse)
      (hpos : block.nWritePos = 0) : (pushLoop block [] noUse pBuf).Filled := by
    have hwritable : block.getWritableSize = nBuffBlockSize := by
      rw [CNetSendBufferBlock.getWritableSize, hpos, Nat.sub_zero]
    by_cases hne : pBuf = []
    · right
      have hfits : pBuf.length ≤ block.getWritableSize := by
        rw [hne]
        exact Nat.zero_le _
      refine ⟨block.push pBuf, ?_, ?_⟩
      · rw [pushLoop, if_pos hfits]
      · rw [CNetSendBufferBlock.push, dif_pos hfits]
        show block.nWritePos + pBuf.length = 0
        rw [hpos, hne]
        rfl
    · left
      apply forall_blocks_pushLoop
      · intro block hblock
        cases hblock
      · exact .inr ⟨hne, by rw [hwritable]; exact hsize⟩
  rw [push]
  split
  · apply hempty
    cases b.noUse <;> rfl
  · rename_i head rest hblocks
    rcases h with h | ⟨block, hblock, hpos⟩
    · left
      rw [hblocks] at h
      obtain ⟨hhead, hrest⟩ := List.forall_mem_cons.mp h
      exact forall_blocks_pushLoop hrest (.inl hhead)
    · rw [hblocks] at hblock
      obtain ⟨rfl, rfl⟩ := List.cons_eq_cons.mp hblock
      exact hempty _ hpos

end Push

section Pop

variable {b : CNetSendBuffer nBuffBlockSize} {nSize : ℕ}

/-- The bytes at the tail come first. -/
theorem data_eq_getTailData_append :
    b.data = b.getTailData ++
      b.blocks.dropLast.reverse.flatMap CNetSendBufferBlock.readable := by
  rw [data, getTailData]
  cases hlast : b.blocks.getLast? with
  | none =>
      rw [List.getLast?_eq_none_iff.mp hlast]
      rfl
  | some tail =>
      obtain ⟨init, hinit⟩ := List.getLast?_eq_some_iff.mp hlast
      rw [hinit, List.dropLast_concat]
      simp

theorem length_getTailData : b.getTailData.length = b.getTailDataSize := by
  rw [getTailData, getTailDataSize]
  cases b.blocks.getLast? with
  | none => rfl
  | some tail => exact CNetSendBufferBlock.length_readable

/-- A `pop` at the tail drops the first bytes. -/
theorem data_pop (h : nSize ≤ b.getTailDataSize) :
    (b.pop nSize).data = b.data.drop nSize := by
  rw [data_eq_getTailData_append (b := b)]
  rw [← length_getTailData] at h
  rw [List.drop_append_of_le_length h]
  rw [getTailData] at h ⊢
  rw [pop]
  cases hlast : b.blocks.getLast? with
  | none =>
      rw [data, List.getLast?_eq_none_iff.mp hlast]
      simp
  | some tail =>
      rw [hlast] at h
      dsimp only at h ⊢
      rw [CNetSendBufferBlock.length_readable] at h
      rw [if_pos h, ← CNetSendBufferBlock.readable_pop h]
      split
      · rename_i hempty
        rw [CNetSendBufferBlock.readable_eq_nil_iff.mpr hempty]
        rfl
      · rw [data]
        simp

theorem filled_pop (h : b.Filled) (hsize : 0 < b.getTailDataSize) :
    (b.pop nSize).Filled := by
  rcases h with h | ⟨block, hblock, hpos⟩
  · rw [pop]
    cases hlast : b.blocks.getLast? with
    | none => exact .inl h
    | some tail =>
        dsimp only
        split
        · left
          have hrest : ∀ block ∈ b.blocks.dropLast, 0 < block.getReadableSize := by
            intro block hblock
            exact h block (List.dropLast_subset _ hblock)
          split
          · exact hrest
          · rename_i hne
            intro block hblock
            rcases List.mem_append.mp hblock with hblock | hblock
            · exact hrest block hblock
            · rw [List.mem_singleton.mp hblock]
              exact Nat.pos_of_ne_zero hne
        · exact .inl h
  · -- Nothing was written to the only block.
    rw [getTailDataSize, hblock] at hsize
    change 0 < block.nWritePos - block.nReadPos at hsize
    omega

/-- The tail is empty only if the buffer is. -/
theorem data_eq_nil_iff (h : b.Filled) : b.data = [] ↔ b.getTailDataSize = 0 := by
  constructor
  · intro hdata
    rw [data_eq_getTailData_append] at hdata
    rw [← length_getTailData, (List.append_eq_nil_iff.mp hdata).1]
    rfl
  · intro hsize
    rcases h with h | ⟨block, hblock, hpos⟩
    · rw [getTailDataSize] at hsize
      rw [data]
      cases hlast : b.blocks.getLast? with
      | none =>
          rw [List.getLast?_eq_none_iff.mp hlast]
          rfl
      | some tail =>
          rw [hlast] at hsize
          exact absurd hsize (h tail (List.mem_of_getLast? hlast)).ne'
    · rw [data, hblock]
      have hread := block.read_le_write
      have hempty : block.readable = [] := by
        rw [CNetSendBufferBlock.readable_eq_nil_iff, CNetSendBufferBlock.getReadableSize]
        omega
      simp [hempty]

end Pop

end CNetSendBuffer

end RealtimeEx.Network
