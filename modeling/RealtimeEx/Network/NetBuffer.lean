import Mathlib.Algebra.Order.Ring.Int
import Mathlib.Data.List.Basic
import Mathlib.Tactic.Common

/-!
# `CNetRecvBuffer`

The receive buffer of a connection: a block of memory with a position up to which
it has been read and one up to which it has been written.  Reading past the
middle moves the rest to the front, and a full buffer is replaced by one of twice
the size.
-/

namespace RealtimeEx.Network

/-- `_RECV_BUF_SIZE`. -/
def recvBufSize : ℕ := 2048

/-- `CNetRecvBuffer`; `m_nBufSize` is the length of the block. -/
structure CNetRecvBuffer where
  pBuf : List UInt8
  nReadPos : ℕ
  nWritePos : ℕ
  read_le_write : nReadPos ≤ nWritePos
  write_le : nWritePos ≤ pBuf.length
  read_le_half : nReadPos ≤ pBuf.length / 2

namespace CNetRecvBuffer

/-- `CNetRecvBuffer::init`; new memory is modelled as zeros. -/
def init (nBufSize : ℕ) : CNetRecvBuffer where
  pBuf := List.replicate nBufSize 0
  nReadPos := 0
  nWritePos := 0
  read_le_write := Nat.le_refl 0
  write_le := Nat.zero_le _
  read_le_half := Nat.zero_le _

/-- `getBufferSize`. -/
def getBufferSize (b : CNetRecvBuffer) : ℕ := b.pBuf.length

/-- `getReadableSize`. -/
def getReadableSize (b : CNetRecvBuffer) : ℕ := b.nWritePos - b.nReadPos

/-- `getWritableSize`. -/
def getWritableSize (b : CNetRecvBuffer) : ℕ := b.pBuf.length - b.nWritePos

/-- The bytes at `getReadableBuffer`. -/
def readable (b : CNetRecvBuffer) : List UInt8 :=
  (b.pBuf.drop b.nReadPos).take b.getReadableSize

/-- `resize`; the size has to grow. -/
def resize (b : CNetRecvBuffer) (nSize : ℕ) : CNetRecvBuffer :=
  if h : b.getBufferSize < nSize then
    { pBuf := b.readable ++ List.replicate (nSize - b.getReadableSize) 0
      nReadPos := 0
      nWritePos := b.getReadableSize
      read_le_write := Nat.zero_le _
      write_le := by
        have hwrite := b.write_le
        simp only [readable, getBufferSize, getReadableSize, List.length_append,
          List.length_take, List.length_drop, List.length_replicate] at *
        omega
      read_le_half := Nat.zero_le _ }
  else
    b

/-- The memory after a read has put `data` at `getWritableBuffer`. -/
def write (b : CNetRecvBuffer) (data : List UInt8) : CNetRecvBuffer :=
  { b with
    pBuf := b.pBuf.take b.nWritePos ++
      (data ++ b.pBuf.drop (b.nWritePos + data.length)).take b.getWritableSize
    write_le := by
      have hwrite := b.write_le
      simp only [getWritableSize, List.length_append, List.length_take,
        List.length_drop]
      omega
    read_le_half := by
      have hread := b.read_le_half
      have hwrite := b.write_le
      simp only [getWritableSize, List.length_append, List.length_take,
        List.length_drop]
      omega }

/-- `push`. -/
def push (b : CNetRecvBuffer) (nSize : ℕ) : CNetRecvBuffer :=
  if h : nSize ≤ b.getWritableSize then
    { b with
      nWritePos := b.nWritePos + nSize
      read_le_write := Nat.le_add_right_of_le b.read_le_write
      write_le := by
        have hwrite := b.write_le
        rw [getWritableSize] at h
        omega }
  else
    b

/-- `pop`. -/
def pop (b : CNetRecvBuffer) (nSize : ℕ) : CNetRecvBuffer :=
  if h : nSize ≤ b.getReadableSize then
    if hhalf : b.nReadPos + nSize > b.pBuf.length / 2 then
      { pBuf := (b.pBuf.drop (b.nReadPos + nSize)).take (b.getReadableSize - nSize) ++
          b.pBuf.drop (b.getReadableSize - nSize)
        nReadPos := 0
        nWritePos := b.getReadableSize - nSize
        read_le_write := Nat.zero_le _
        write_le := by
          have hwrite := b.write_le
          simp only [getReadableSize, List.length_append, List.length_take,
            List.length_drop] at *
          omega
        read_le_half := Nat.zero_le _ }
    else
      { b with
        nReadPos := b.nReadPos + nSize
        read_le_write := by
          have hread := b.read_le_write
          rw [getReadableSize] at h
          omega
        read_le_half := Nat.le_of_not_gt hhalf }
  else
    b

/-! ## What can be read -/

@[simp] theorem length_readable (b : CNetRecvBuffer) :
    b.readable.length = b.getReadableSize := by
  have hread := b.read_le_write
  have hwrite := b.write_le
  simp only [readable, getReadableSize, List.length_take, List.length_drop]
  omega

@[simp] theorem getBufferSize_init (nBufSize : ℕ) :
    (init nBufSize).getBufferSize = nBufSize :=
  List.length_replicate

@[simp] theorem getWritableSize_init (nBufSize : ℕ) :
    (init nBufSize).getWritableSize = nBufSize := by
  simp [getWritableSize, init]

@[simp] theorem readable_init (nBufSize : ℕ) : (init nBufSize).readable = [] := rfl

/-- A larger buffer has the same readable bytes. -/
@[simp] theorem readable_resize (b : CNetRecvBuffer) (nSize : ℕ) :
    (b.resize nSize).readable = b.readable := by
  rw [resize]
  split
  · exact List.take_left' b.length_readable
  · rfl

/-- A read that fits appends its bytes. -/
theorem readable_push_write {b : CNetRecvBuffer} {data : List UInt8}
    (h : data.length ≤ b.getWritableSize) :
    ((b.write data).push data.length).readable = b.readable ++ data := by
  have hread := b.read_le_write
  have hwrite := b.write_le
  have hfits : data.length ≤ (b.write data).getWritableSize := by
    simp only [getWritableSize, write, List.length_append, List.length_take,
      List.length_drop] at *
    omega
  rw [getWritableSize] at h
  rw [push, dif_pos hfits]
  show ((b.pBuf.take b.nWritePos ++ _).drop b.nReadPos).take
    (b.nWritePos + data.length - b.nReadPos) = _
  have hsplit : (b.pBuf.take b.nWritePos).drop b.nReadPos = b.readable := by
    rw [readable, getReadableSize, List.drop_take]
  have hlength : b.nReadPos ≤ (b.pBuf.take b.nWritePos).length := by
    rw [List.length_take]
    omega
  rw [List.drop_append_of_le_length hlength, hsplit]
  have hsize : b.nWritePos + data.length - b.nReadPos =
      b.readable.length + data.length := by
    rw [length_readable, getReadableSize]
    omega
  rw [hsize, List.take_length_add_append, List.take_take, getWritableSize,
    Nat.min_eq_left h, List.take_left]

/-- A `pop` of readable bytes drops them. -/
theorem readable_pop {b : CNetRecvBuffer} {nSize : ℕ} (h : nSize ≤ b.getReadableSize) :
    (b.pop nSize).readable = b.readable.drop nSize := by
  have hrest : (b.pBuf.drop (b.nReadPos + nSize)).take (b.getReadableSize - nSize) =
      b.readable.drop nSize := by
    rw [readable, List.drop_take, List.drop_drop]
  rw [pop, dif_pos h]
  split
  · have hlength : ((b.pBuf.drop (b.nReadPos + nSize)).take
        (b.getReadableSize - nSize)).length = b.getReadableSize - nSize := by
      rw [hrest, List.length_drop, length_readable]
    exact (List.take_left' hlength).trans hrest
  · rw [← hrest]
    show (b.pBuf.drop (b.nReadPos + nSize)).take (b.nWritePos - (b.nReadPos + nSize)) = _
    rw [getReadableSize, Nat.sub_sub]

/-- A `pop` of more is refused. -/
theorem pop_of_lt {b : CNetRecvBuffer} {nSize : ℕ} (h : b.getReadableSize < nSize) :
    b.pop nSize = b :=
  dif_neg (Nat.not_le.mpr h)

/-! ## Room -/

/-- Half of a buffer is room or readable bytes. -/
theorem getBufferSize_le (b : CNetRecvBuffer) :
    b.getBufferSize ≤ 2 * (b.getWritableSize + b.getReadableSize) := by
  have hwrite := b.write_le
  have hread := b.read_le_half
  rw [getBufferSize, getWritableSize, getReadableSize]
  omega

/-- A full buffer is at least half full of readable bytes. -/
theorem le_getReadableSize_of_full {b : CNetRecvBuffer} (h : b.getWritableSize = 0) :
    b.getBufferSize ≤ 2 * b.getReadableSize := by
  have hhalf := b.getBufferSize_le
  rwa [h, Nat.zero_add] at hhalf

theorem getBufferSize_resize {b : CNetRecvBuffer} {nSize : ℕ}
    (h : b.getBufferSize < nSize) : (b.resize nSize).getBufferSize = nSize := by
  have hwrite := b.write_le
  rw [resize, dif_pos h]
  rw [getBufferSize] at h
  simp only [getBufferSize, List.length_append, length_readable, List.length_replicate,
    getReadableSize]
  omega

theorem getWritableSize_resize {b : CNetRecvBuffer} {nSize : ℕ}
    (h : b.getBufferSize < nSize) : 0 < (b.resize nSize).getWritableSize := by
  have hsize := getBufferSize_resize h
  have hread := b.read_le_write
  have hwrite := b.write_le
  have hpos : (b.resize nSize).nWritePos = b.getReadableSize := by
    rw [resize, dif_pos h]
  rw [getBufferSize] at hsize h
  rw [getWritableSize, hsize, hpos, getReadableSize]
  omega

@[simp] theorem getBufferSize_push (b : CNetRecvBuffer) (nSize : ℕ) :
    (b.push nSize).getBufferSize = b.getBufferSize := by
  rw [push]
  split <;> rfl

@[simp] theorem getBufferSize_write (b : CNetRecvBuffer) (data : List UInt8) :
    (b.write data).getBufferSize = b.getBufferSize := by
  have hwrite := b.write_le
  simp only [getBufferSize, write, getWritableSize, List.length_append, List.length_take,
    List.length_drop]
  omega

@[simp] theorem getBufferSize_pop (b : CNetRecvBuffer) (nSize : ℕ) :
    (b.pop nSize).getBufferSize = b.getBufferSize := by
  have hread := b.read_le_write
  have hwrite := b.write_le
  rw [pop]
  split
  · split
    · simp only [getBufferSize, getReadableSize, List.length_append, List.length_take,
        List.length_drop] at *
      omega
    · rfl
  · rfl

end CNetRecvBuffer

end RealtimeEx.Network
