import Mathlib.Algebra.Order.Ring.Int
import RealtimeEx.Base.BufFile
import RealtimeEx.Support.History
import RealtimeEx.Support.Wrapping

/-!
# The positions of a `CReadBuf`

The size and the position of a `CReadBuf` are `int32_t`.  A position that is sought is
compared with the end of the buffer but not with its beginning, and the sum of the position
and a length that is compared with the size may have wrapped around.
-/

namespace RealtimeEx.Base.BufFile

/-- `EBufSeekType`. -/
inductive EBufSeekType
  | cur
  | begin
  | end
  deriving DecidableEq

/-- `CReadBuf`, with the memory that its buffer is in: the position zero is the first byte
of the buffer, and `nSize` is the number of its bytes. -/
structure CReadBuf where
  szBuf : ℤ → UInt8
  nSize : UInt32
  nCurPos : Int32

namespace CReadBuf

/-- `init`. -/
def init (pBuf : ℤ → UInt8) (nSize : UInt32) : CReadBuf where
  szBuf := pBuf
  nSize := nSize
  nCurPos := 0

/-- `m_nBufSize`. -/
def nBufSize (r : CReadBuf) : Int32 := r.nSize.toInt32

/-- `seek`. -/
def seek (r : CReadBuf) : EBufSeekType → Int32 → CReadBuf
  | .cur, nOffset =>
      if r.nBufSize ≤ r.nCurPos + nOffset then
        { r with nCurPos := r.nBufSize - 1 }
      else
        { r with nCurPos := r.nCurPos + nOffset }
  | .begin, nOffset =>
      if r.nBufSize ≤ nOffset then
        { r with nCurPos := r.nBufSize - 1 }
      else
        { r with nCurPos := nOffset }
  | .end, nOffset =>
      if r.nBufSize ≤ nOffset then
        { r with nCurPos := 0 }
      else
        { r with nCurPos := r.nBufSize - nOffset }

/-- The bytes of the memory from a position on. -/
def bytesAt (r : CReadBuf) (nPos : ℤ) (nCount : ℕ) : List UInt8 :=
  (List.range nCount).map fun i => r.szBuf (nPos + i)

/-- `read(void*, uint32_t)`, and `read<T>` with the size of `T`. -/
def read (r : CReadBuf) (nSize : UInt32) : Option (List UInt8) × CReadBuf :=
  if r.nBufSize < r.nCurPos + nSize.toInt32 then
    (none, r)
  else
    (some (r.bytesAt r.nCurPos.toInt nSize.toNat),
      { r with nCurPos := r.nCurPos + nSize.toInt32 })

/-- The length of the string at the current position. -/
def stringLength (r : CReadBuf) : UInt16 :=
  UInt16.ofNat (leNat (r.bytesAt r.nCurPos.toInt 2))

/-- `read(std::string&)`. -/
def readString (r : CReadBuf) : Option (List UInt8) × CReadBuf :=
  if r.nBufSize < r.nCurPos + 2 then
    (none, r)
  else if r.nBufSize < r.nCurPos + 2 + r.stringLength.toUInt32.toInt32 then
    (none, r)
  else
    (some (r.bytesAt (r.nCurPos.toInt + 2) r.stringLength.toNat),
      { r with nCurPos := r.nCurPos + (r.stringLength.toUInt32.toInt32 + 2) })

/-! ## What a call should do -/

/-- The calls of a reader. -/
inductive Call
  | seek (eType : EBufSeekType) (nOffset : Int32)
  | read (nSize : UInt32)
  | readString

/-- The buffer after a call. -/
def step (r : CReadBuf) : Call → CReadBuf
  | .seek eType nOffset => r.seek eType nOffset
  | .read nSize => (r.read nSize).2
  | .readString => r.readString.2

/-- The position is in the buffer or at its end. -/
def InBounds (r : CReadBuf) : Prop :=
  0 ≤ r.nCurPos.toInt ∧ r.nCurPos.toInt ≤ r.nSize.toNat

/-- A read of some bytes from a position on is refused and changes nothing, or all the
bytes are there and are what it returns, and it goes behind them. -/
def ReadsExactly (r : CReadBuf) (nPos : ℤ) (nCount : ℕ)
    (result : Option (List UInt8) × CReadBuf) : Prop :=
  match result.1 with
  | none => result.2 = r
  | some bytes => nPos + nCount ≤ r.nSize.toNat ∧ bytes = r.bytesAt nPos nCount ∧
      result.2.nCurPos.toInt = nPos + nCount

/-- A call stays in the buffer, and reads exactly. -/
def Exact (r : CReadBuf) (call : Call) : Prop :=
  (r.step call).InBounds ∧
    match call with
    | .seek _ _ => True
    | .read nSize => r.ReadsExactly r.nCurPos.toInt nSize.toNat (r.read nSize)
    | .readString =>
        r.ReadsExactly (r.nCurPos.toInt + 2) r.stringLength.toNat r.readString

/-- All calls of a series stay in the buffer and read exactly. -/
def RunExact (r : CReadBuf) (calls : List Call) : Prop := Meets step Exact r calls

/-- When a seek stays in the buffer. -/
def SeekFits (r : CReadBuf) : EBufSeekType → Int32 → Prop
  | .cur, nOffset =>
      (0 < r.nSize.toNat ∧ r.nSize.toNat < 2 ^ 31 ∧ 0 ≤ r.nCurPos.toInt + nOffset.toInt ∧
        r.nCurPos.toInt + nOffset.toInt < 2 ^ 31) ∨ r.nSize.toNat = 2 ^ 31
  | .begin, nOffset =>
      (0 < r.nSize.toNat ∧ r.nSize.toNat < 2 ^ 31 ∧ 0 ≤ nOffset.toInt) ∨ r.nSize.toNat = 2 ^ 31
  | .end, nOffset => 0 ≤ nOffset.toInt ∨ 2 ^ 31 ≤ r.nSize.toNat

/-- When a call stays in the buffer: nothing is sought in front of it or in an empty one,
and no sum that is compared with the size is above the range of an `int32_t`. -/
def Fits (r : CReadBuf) : Call → Prop
  | .seek eType nOffset => r.SeekFits eType nOffset
  | .read nSize => r.nCurPos.toInt + nSize.toNat < 2 ^ 31 ∨
      2 ^ 31 ≤ r.nSize.toNat ∧ r.nSize.toNat < r.nCurPos.toInt + nSize.toNat
  | .readString =>
      if r.nSize.toNat < 2 ^ 31 then
        r.nCurPos.toInt + 2 < 2 ^ 31 ∧
          (r.nSize.toNat < r.nCurPos.toInt + 2 ∨
            r.nCurPos.toInt + 2 + r.stringLength.toNat < 2 ^ 31)
      else
        r.nCurPos.toInt + 2 < 2 ^ 31 ∨
          r.nSize.toNat < r.nCurPos.toInt + 2 + r.stringLength.toNat

/-- The calls of a series fit the positions that they find. -/
def RunFits (r : CReadBuf) (calls : List Call) : Prop := Meets step Fits r calls

/-! ## Positions as integers -/

section

variable (r : CReadBuf)

/-- A sum as an integer. -/
theorem toInt_add_cases (a b : Int32) :
    ((a + b).toInt = a.toInt + b.toInt ∧ -2 ^ 31 ≤ a.toInt + b.toInt ∧
        a.toInt + b.toInt < 2 ^ 31) ∨
      ((a + b).toInt = a.toInt + b.toInt + 2 ^ 32 ∧ a.toInt + b.toInt < -2 ^ 31) ∨
      ((a + b).toInt = a.toInt + b.toInt - 2 ^ 32 ∧ 2 ^ 31 ≤ a.toInt + b.toInt) := by
  have ha := a.le_toInt
  have ha' := a.toInt_lt
  have hb := b.le_toInt
  have hb' := b.toInt_lt
  rw [Int32.toInt_add]
  exact bmod_cases (m := 2 ^ 32) (k := 2 ^ 31) rfl (by omega) (by omega)

theorem toInt_sub_cases (a b : Int32) :
    ((a - b).toInt = a.toInt - b.toInt ∧ -2 ^ 31 ≤ a.toInt - b.toInt ∧
        a.toInt - b.toInt < 2 ^ 31) ∨
      ((a - b).toInt = a.toInt - b.toInt + 2 ^ 32 ∧ a.toInt - b.toInt < -2 ^ 31) ∨
      ((a - b).toInt = a.toInt - b.toInt - 2 ^ 32 ∧ 2 ^ 31 ≤ a.toInt - b.toInt) := by
  have ha := a.le_toInt
  have ha' := a.toInt_lt
  have hb := b.le_toInt
  have hb' := b.toInt_lt
  rw [Int32.toInt_sub]
  exact bmod_cases (m := 2 ^ 32) (k := 2 ^ 31) rfl (by omega) (by omega)

/-- A length or a size as an `int32_t`. -/
theorem toInt_toInt32_cases (n : UInt32) :
    (n.toInt32.toInt = n.toNat ∧ n.toNat < 2 ^ 31) ∨
      (n.toInt32.toInt = n.toNat - 2 ^ 32 ∧ 2 ^ 31 ≤ n.toNat ∧ n.toNat < 2 ^ 32) := by
  have hlt := n.toNat_lt
  have hint : n.toInt32.toInt = (n.toNat : ℤ).bmod (2 ^ 32) :=
    BitVec.toInt_eq_toNat_bmod n.toBitVec
  have hcases := bmod_cases (m := 2 ^ 32) (k := 2 ^ 31) rfl (n := n.toNat) (by omega) (by omega)
  rw [hint]
  omega

theorem nBufSize_cases :
    (r.nBufSize.toInt = r.nSize.toNat ∧ r.nSize.toNat < 2 ^ 31) ∨
      (r.nBufSize.toInt = r.nSize.toNat - 2 ^ 32 ∧ 2 ^ 31 ≤ r.nSize.toNat ∧
        r.nSize.toNat < 2 ^ 32) :=
  toInt_toInt32_cases r.nSize

/-! ## One call -/

/-- A position that is asked for is taken, or the last one of the buffer. -/
theorem inBounds_seek_begin_iff (nOffset : Int32) :
    (r.seek .begin nOffset).InBounds ↔ r.SeekFits .begin nOffset := by
  have hsize := r.nBufSize_cases
  have hone := toInt_sub_cases r.nBufSize 1
  rw [show (1 : Int32).toInt = 1 from rfl] at hone
  have hoffset := nOffset.le_toInt
  have hoffset' := nOffset.toInt_lt
  rw [seek, SeekFits]
  split
  · rename_i hpast
    rw [Int32.le_iff_toInt_le] at hpast
    unfold InBounds
    dsimp only
    omega
  · rename_i hpast
    rw [Int32.le_iff_toInt_le] at hpast
    unfold InBounds
    dsimp only
    omega

theorem inBounds_seek_end_iff (nOffset : Int32) :
    (r.seek .end nOffset).InBounds ↔ r.SeekFits .end nOffset := by
  have hsize := r.nBufSize_cases
  have hdiff := toInt_sub_cases r.nBufSize nOffset
  have hoffset := nOffset.le_toInt
  have hoffset' := nOffset.toInt_lt
  rw [seek, SeekFits]
  split
  · rename_i hpast
    rw [Int32.le_iff_toInt_le] at hpast
    unfold InBounds
    dsimp only
    rw [Int32.toInt_zero]
    omega
  · rename_i hpast
    rw [Int32.le_iff_toInt_le] at hpast
    unfold InBounds
    dsimp only
    omega

/-- A seek stays in the buffer just if it fits. -/
theorem inBounds_seek_iff (h : r.InBounds) (eType : EBufSeekType) (nOffset : Int32) :
    (r.seek eType nOffset).InBounds ↔ r.SeekFits eType nOffset := by
  cases eType with
  | cur =>
      have hbegin : r.seek .cur nOffset = r.seek .begin (r.nCurPos + nOffset) := rfl
      have hlow : 0 ≤ r.nCurPos.toInt := h.1
      have hcur := r.nCurPos.toInt_lt
      have hoffset := nOffset.le_toInt
      have hoffset' := nOffset.toInt_lt
      have hsum := toInt_add_cases r.nCurPos nOffset
      rw [hbegin, inBounds_seek_begin_iff, SeekFits, SeekFits]
      omega
  | begin => exact r.inBounds_seek_begin_iff nOffset
  | «end» => exact r.inBounds_seek_end_iff nOffset

/-- A read is exact just if it fits. -/
theorem exact_read_iff (h : r.InBounds) (nSize : UInt32) :
    r.Exact (.read nSize) ↔ r.Fits (.read nSize) := by
  have hbounds := h
  obtain ⟨hlow, hhigh⟩ := h
  have hcur := r.nCurPos.toInt_lt
  have hsize := r.nBufSize_cases
  have hcount := toInt_toInt32_cases nSize
  have hsum := toInt_add_cases r.nCurPos nSize.toInt32
  unfold Exact Fits ReadsExactly step
  dsimp only
  by_cases hmore : r.nBufSize < r.nCurPos + nSize.toInt32
  · have hread : r.read nSize = (none, r) := if_pos hmore
    rw [hread]
    rw [Int32.lt_iff_toInt_lt] at hmore
    refine iff_of_true ⟨hbounds, rfl⟩ ?_
    omega
  · have hread : r.read nSize = (some (r.bytesAt r.nCurPos.toInt nSize.toNat),
        { r with nCurPos := r.nCurPos + nSize.toInt32 }) := if_neg hmore
    rw [hread]
    rw [Int32.lt_iff_toInt_lt] at hmore
    unfold InBounds
    dsimp only
    constructor
    · rintro ⟨hafter, hthere, -, hpos⟩
      omega
    · intro hfits
      refine ⟨?_, ?_, rfl, ?_⟩
      · omega
      · omega
      · omega

/-- Reading a string is exact just if it fits. -/
theorem exact_readString_iff (h : r.InBounds) :
    r.Exact .readString ↔ r.Fits .readString := by
  have hbounds := h
  obtain ⟨hlow, hhigh⟩ := h
  have hcur := r.nCurPos.toInt_lt
  have hsize := r.nBufSize_cases
  have hlength := r.stringLength.toNat_lt
  have hcount : r.stringLength.toUInt32.toInt32.toInt = r.stringLength.toNat := by
    have hcases := toInt_toInt32_cases r.stringLength.toUInt32
    rw [UInt16.toNat_toUInt32] at hcases
    omega
  have htwo := toInt_add_cases r.nCurPos 2
  have hsum := toInt_add_cases (r.nCurPos + 2) r.stringLength.toUInt32.toInt32
  have hboth := toInt_add_cases r.stringLength.toUInt32.toInt32 2
  have hnew := toInt_add_cases r.nCurPos (r.stringLength.toUInt32.toInt32 + 2)
  rw [show (2 : Int32).toInt = 2 from rfl] at htwo hboth
  rw [hcount] at hsum hboth
  unfold Exact Fits ReadsExactly step
  dsimp only
  by_cases hmore : r.nBufSize < r.nCurPos + 2
  · have hread : r.readString = (none, r) := if_pos hmore
    rw [hread]
    rw [Int32.lt_iff_toInt_lt] at hmore
    refine iff_of_true ⟨hbounds, rfl⟩ ?_
    split
    · omega
    · omega
  · by_cases hmore' : r.nBufSize < r.nCurPos + 2 + r.stringLength.toUInt32.toInt32
    · have hread : r.readString = (none, r) := by
        unfold readString
        rw [if_neg hmore, if_pos hmore']
      rw [hread]
      rw [Int32.lt_iff_toInt_lt] at hmore hmore'
      refine iff_of_true ⟨hbounds, rfl⟩ ?_
      split
      · omega
      · omega
    · have hread : r.readString =
          (some (r.bytesAt (r.nCurPos.toInt + 2) r.stringLength.toNat),
            { r with nCurPos := r.nCurPos + (r.stringLength.toUInt32.toInt32 + 2) }) := by
        unfold readString
        rw [if_neg hmore, if_neg hmore']
      rw [hread]
      rw [Int32.lt_iff_toInt_lt] at hmore hmore'
      unfold InBounds
      dsimp only
      constructor
      · rintro ⟨hafter, hthere, -, hpos⟩
        split
        · omega
        · omega
      · intro hfits
        refine ⟨?_, ?_, rfl, ?_⟩
        all_goals
          split at hfits
          all_goals omega

end

/-! ## Whole series -/

/-- A series of seeks and reads stays in the buffer and reads exactly just if every call
fits the position that it finds. -/
theorem seeks_and_reads_iff (pBuf : ℤ → UInt8) (nSize : UInt32) (calls : List Call) :
    (init pBuf nSize).RunExact calls ↔ (init pBuf nSize).RunFits calls := by
  have hinit : (init pBuf nSize).InBounds := ⟨le_rfl, Int.natCast_nonneg _⟩
  refine meets_congr (I := InBounds) (fun _ _ _ hexact => hexact.1) ?_ hinit calls
  intro r call h
  cases call with
  | seek eType nOffset => exact (and_iff_left trivial).trans (r.inBounds_seek_iff h eType nOffset)
  | read nSize => exact r.exact_read_iff h nSize
  | readString => exact r.exact_readString_iff h

/-- One byte back from the beginning is in front of the buffer. -/
theorem not_runExact_seek_back :
    ¬ ∀ (pBuf : ℤ → UInt8) (nSize : UInt32) (calls : List Call),
      (init pBuf nSize).RunExact calls := by
  intro h
  have hback := (h (fun _ => 0) 4 [.seek .cur (-1)]).1.1.1
  revert hback
  decide

end CReadBuf

end RealtimeEx.Base.BufFile
