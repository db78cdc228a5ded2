import RealtimeEx.Support.Codec

/-!
# `CReadBuf` and `CWriteBuf`

Both buffers are used like files: every `write` appends at the current
position and grows the buffer when it is full, every `read` takes the next
bytes or, when there are too few, leaves its argument as it is.  The results of
`read` are ignored by all callers, so a reader here takes the old value of the
variable it reads into.

`std::string` is a sequence of bytes.
-/

namespace RealtimeEx.Base

/-- The bytes of a `std::string`. -/
abbrev StdString := List UInt8

/-- `UINT16_MAX`. -/
def uint16Max : ℕ := 65535

/-! ## `CReadBuf` -/

/-- `m_szBuf` with its `m_nBufSize` bytes, and `m_nCurPos`. -/
abbrev CReadBuf := Cursor UInt8

namespace CReadBuf

/-- `read(void*, uint32_t)`, and `read<T>` with `n = sizeof(T)`: the bytes are
interpreted by `decode`. -/
def read {α : Type} (n : ℕ) (decode : List UInt8 → α) (val : α) :
    StateM CReadBuf α := fun r =>
  match r.next? n with
  | none => (val, r)
  | some bytes => (decode bytes, r.advance n)

/-- `read<uint8_t>`. -/
def readUInt8 : UInt8 → StateM CReadBuf UInt8 :=
  read 1 fun bytes => UInt8.ofNat (leNat bytes)

/-- `read<uint16_t>`. -/
def readUInt16 : UInt16 → StateM CReadBuf UInt16 :=
  read 2 fun bytes => UInt16.ofNat (leNat bytes)

/-- `read<uint32_t>`. -/
def readUInt32 : UInt32 → StateM CReadBuf UInt32 :=
  read 4 fun bytes => UInt32.ofNat (leNat bytes)

/-- `read(std::string&)`. -/
def readString (szBuf : StdString) : StateM CReadBuf StdString := fun r =>
  match r.next? 2 with
  | none => (szBuf, r)
  | some size =>
      match (r.advance 2).next? (leNat size) with
      | none => (szBuf, r)
      | some bytes => (bytes, r.advance (leNat size + 2))

theorem reads_read {α : Type} (decode : List UInt8 → α) (bytes : List UInt8)
    (val : α) : Reads (read bytes.length decode val) bytes (decode bytes) := by
  intro before after
  have hnext := Cursor.next?_append before bytes after
  simp only [StateT.run, read, hnext, Cursor.advance, List.length_append]

theorem reads_readUInt8 (val v : UInt8) :
    Reads (readUInt8 val) (leBytes 1 v.toNat) v := by
  have h := reads_read (fun bytes => UInt8.ofNat (leNat bytes)) (leBytes 1 v.toNat) val
  have hlt : v.toNat < 256 ^ 1 := v.toNat_lt
  rw [leNat_leBytes, Nat.mod_eq_of_lt hlt, UInt8.ofNat_toNat] at h
  exact h

theorem reads_readUInt16 (val v : UInt16) :
    Reads (readUInt16 val) (leBytes 2 v.toNat) v := by
  have h := reads_read (fun bytes => UInt16.ofNat (leNat bytes)) (leBytes 2 v.toNat) val
  have hlt : v.toNat < 256 ^ 2 := v.toNat_lt
  rw [leNat_leBytes, Nat.mod_eq_of_lt hlt, UInt16.ofNat_toNat] at h
  exact h

theorem reads_readUInt32 (val v : UInt32) :
    Reads (readUInt32 val) (leBytes 4 v.toNat) v := by
  have h := reads_read (fun bytes => UInt32.ofNat (leNat bytes)) (leBytes 4 v.toNat) val
  have hlt : v.toNat < 256 ^ 4 := v.toNat_lt
  rw [leNat_leBytes, Nat.mod_eq_of_lt hlt, UInt32.ofNat_toNat] at h
  exact h

end CReadBuf

/-- How a string lies in a buffer. -/
def encodeString (s : StdString) : List UInt8 := leBytes 2 s.length ++ s

theorem CReadBuf.reads_readString (szBuf s : StdString) (hs : s.length < uint16Max) :
    Reads (readString szBuf) (encodeString s) s := by
  intro before after
  have hsize : leNat (leBytes 2 s.length) = s.length := by
    rw [leNat_leBytes, Nat.mod_eq_of_lt]
    simp only [uint16Max] at hs
    omega
  have hfirst := Cursor.next?_append before (leBytes 2 s.length) (s ++ after)
  have hsecond :=
    Cursor.next?_append (before ++ leBytes 2 s.length) s after
  simp only [length_leBytes, List.length_append, List.append_assoc] at hfirst hsecond
  simp only [StateT.run, readString, encodeString, List.append_assoc, hfirst,
    Cursor.advance, hsize, hsecond, List.length_append, length_leBytes,
    Nat.add_comm s.length 2]

/-! ## `CWriteBuf` -/

/-- The memory of a `CWriteBuf`, `m_nBufSize` bytes, and `m_nCurPos`. -/
structure CWriteBuf where
  buf : List UInt8
  curPos : ℕ
  curPos_le : curPos ≤ buf.length

namespace CWriteBuf

/-- `m_nBufSize`. -/
def bufSize (w : CWriteBuf) : ℕ := w.buf.length

/-- What has been written up to the current position. -/
def written (w : CWriteBuf) : List UInt8 := w.buf.take w.curPos

theorem zero_le_length_replicate (nBufSize : ℕ) :
    0 ≤ (List.replicate nBufSize (0 : UInt8)).length :=
  Nat.zero_le _

/-- The constructor. -/
def new (nBufSize : ℕ) : CWriteBuf where
  buf := List.replicate nBufSize 0
  curPos := 0
  curPos_le := zero_le_length_replicate nBufSize

/-- `clear`. -/
def clear (w : CWriteBuf) : CWriteBuf where
  buf := w.buf
  curPos := 0
  curPos_le := Nat.zero_le _

/-- Copy `bytes` to the current position, after `resizeWriteBuf` when they do
not fit. -/
def put (bytes : List UInt8) (w : CWriteBuf) : CWriteBuf where
  buf := w.written ++ bytes ++ w.buf.drop (w.curPos + bytes.length)
  curPos := w.curPos + bytes.length
  curPos_le := by
    have hle := w.curPos_le
    simp only [written, List.length_append, List.length_take, List.length_drop]
    omega

/-- `write(const void*, uint32_t)`, and `write<T>`. -/
def write (bytes : List UInt8) : StateM CWriteBuf Unit :=
  modify (put bytes)

/-- `write<uint8_t>`. -/
def writeUInt8 (val : UInt8) : StateM CWriteBuf Unit := write (leBytes 1 val.toNat)

/-- `write<uint16_t>`. -/
def writeUInt16 (val : UInt16) : StateM CWriteBuf Unit := write (leBytes 2 val.toNat)

/-- `write<uint32_t>`. -/
def writeUInt32 (val : UInt32) : StateM CWriteBuf Unit := write (leBytes 4 val.toNat)

/-- `write(const std::string&)`: a string that is too long is not written. -/
def writeString (szBuf : StdString) : StateM CWriteBuf Unit :=
  if szBuf.length < uint16Max then write (encodeString szBuf) else pure ()

/-- `seek(eBST_Begin, nOffset)`: the position stays inside the buffer. -/
def seekBegin (nOffset : ℕ) (w : CWriteBuf) : CWriteBuf where
  buf := w.buf
  curPos := if w.bufSize ≤ nOffset then w.bufSize - 1 else nOffset
  curPos_le := by
    by_cases h : w.bufSize ≤ nOffset
    · rw [if_pos h]
      exact Nat.sub_le _ _
    · rw [if_neg h]
      exact Nat.le_of_not_le h

@[simp] theorem length_written (w : CWriteBuf) : w.written.length = w.curPos := by
  simp [written, w.curPos_le]

@[simp] theorem written_clear (w : CWriteBuf) : w.clear.written = [] := rfl

@[simp] theorem bufSize_clear (w : CWriteBuf) : w.clear.bufSize = w.bufSize := rfl

theorem seekBegin_zero (w : CWriteBuf) : w.seekBegin 0 = w.clear := by
  have hpos : (if w.bufSize ≤ 0 then w.bufSize - 1 else 0) = 0 := by
    split <;> omega
  simp only [seekBegin, clear, hpos]

theorem written_put (bytes : List UInt8) (w : CWriteBuf) :
    (w.put bytes).written = w.written ++ bytes := by
  have hlen : (w.written ++ bytes).length = w.curPos + bytes.length := by simp
  show (w.written ++ bytes ++ _).take (w.curPos + bytes.length) = _
  rw [← hlen, List.take_left]

theorem bufSize_put (bytes : List UInt8) (w : CWriteBuf) :
    (w.put bytes).bufSize = max w.bufSize (w.curPos + bytes.length) := by
  have hle := w.curPos_le
  simp only [bufSize, put, List.length_append, length_written, List.length_drop]
  omega

/-- A write buffer as an output. -/
def output : Output CWriteBuf UInt8 where
  written := written
  capacity := bufSize
  length_written_le w := by
    rw [length_written]
    exact w.curPos_le

theorem writes_write (bytes : List UInt8) : Writes output (write bytes) bytes :=
  fun w => ⟨written_put bytes w, by
    rw [show output.written w = w.written from rfl, length_written]
    exact bufSize_put bytes w⟩

theorem writes_writeString {s : StdString} (hs : s.length < uint16Max) :
    Writes output (writeString s) (encodeString s) := by
  rw [writeString, if_pos hs]
  exact writes_write _

end CWriteBuf

end RealtimeEx.Base
