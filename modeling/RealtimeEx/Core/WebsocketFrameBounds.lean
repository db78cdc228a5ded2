import Mathlib.Algebra.Order.Ring.Int
import RealtimeEx.Core.WebsocketFrame
import RealtimeEx.Support.MemoryReader

/-!
# What `unserializeFrame` reads

`unserializeFrame` is given a pointer and a size.  It checks the size before it
reads the first two bytes, and again before it reads the masking key and the
payload.  In between it reads the two bytes of an extended length, of which the
second is behind the data if there are three bytes of them.
-/

namespace RealtimeEx.Core

open MemoryReader

/-- `pData[nPos]`. -/
def readByte (nPos : ℕ) : MemoryReader UInt8 := do
  let data ← bytes nPos 1
  pure (data.getD 0 0)

@[simp] theorem result_readByte (nPos : ℕ) (m : Memory) :
    (readByte nPos).result m = m nPos := by
  have hone : List.range 1 = [0] := rfl
  show (((List.range 1).map fun i => m (nPos + i)).getD 0 0) = m nPos
  rw [hone]
  rfl

@[simp] theorem extent_readByte (nPos : ℕ) (m : Memory) :
    (readByte nPos).extent m = nPos + 1 := by
  simp [readByte]

/-- The key and the payload of a masked frame, unmasked. -/
def readPayload (bMasked : Bool) (nPos nPayloadLength : ℕ) :
    MemoryReader (List UInt8) :=
  if bMasked ∧ nPayloadLength > 0 then do
    let zMaskingKey ← bytes nPos 4
    let vecBuf ← bytes (nPos + 4) nPayloadLength
    pure (unmask zMaskingKey vecBuf)
  else
    pure []

/-- `nFrameSize`. -/
def frameSize (bMasked : Bool) (nPayloadLength nPos : ℕ) : ℕ :=
  nPayloadLength + nPos + if bMasked then 4 else 0

/-- The part of `unserializeFrame` behind the length: `vecBuf`, and the result. -/
def readFrame (nCapacity nDataSize : ℕ) (nFirst : UInt8) (bMasked : Bool)
    (nPayloadLength nPos : ℕ) : MemoryReader (List UInt8 × Option WebsocketFrame) :=
  if nDataSize < frameSize bMasked nPayloadLength nPos then
    pure ([], some .incomplete)
  else if nPayloadLength > nCapacity then
    pure ([], none)
  else do
    let vecBuf ← readPayload bMasked nPos nPayloadLength
    pure (vecBuf, (frameType nFirst).map fun eType =>
      { nRet := eType.consumed (frameSize bMasked nPayloadLength nPos), eType, vecBuf })

/-- The part of `unserializeFrame` behind the first two bytes. -/
def readLength (nCapacity nDataSize : ℕ) (nFirst nSecond : UInt8) :
    MemoryReader (List UInt8 × Option WebsocketFrame) :=
  let bMasked := decide (nSecond &&& 0x80 ≠ 0)
  if (nSecond &&& 0x7F).toNat ≤ payloadSizeBasic then
    readFrame nCapacity nDataSize nFirst bMasked (nSecond &&& 0x7F).toNat 2
  else if (nSecond &&& 0x7F).toNat = 126 then do
    let nHigh ← readByte 2
    let nLow ← readByte 3
    readFrame nCapacity nDataSize nFirst bMasked (nHigh.toNat * 256 + nLow.toNat) 4
  else
    pure ([], none)

/-- `unserializeFrame` of a pointer and a size: `vecBuf`, and the result. -/
def unserializeFrameAt (nCapacity nDataSize : ℕ) :
    MemoryReader (List UInt8 × Option WebsocketFrame) :=
  if nDataSize < 3 then
    pure ([], some .incomplete)
  else do
    let nFirst ← readByte 0
    let nSecond ← readByte 1
    readLength nCapacity nDataSize nFirst nSecond

/-! ## Behind the length -/

section

variable {nCapacity nDataSize : ℕ} {nFirst : UInt8} {bMasked : Bool}
  {nPayloadLength nPos : ℕ} {m : Memory}

theorem extent_readPayload_le :
    (readPayload bMasked nPos nPayloadLength).extent m ≤
      if bMasked then nPos + 4 + nPayloadLength else 0 := by
  unfold readPayload
  split
  · rename_i h
    rw [if_pos h.1]
    simp only [extent_bind, extent_bytes, extent_pure]
    grind
  · exact Nat.zero_le _

theorem length_readPayload_le :
    ((readPayload bMasked nPos nPayloadLength).result m).length ≤ nPayloadLength := by
  unfold readPayload
  split
  · simp only [result_bind, result_pure, length_unmask, length_result_bytes]
    exact Nat.le_refl _
  · exact Nat.zero_le _

/-- The size is checked before the key and the payload are read. -/
theorem extent_readFrame_le :
    (readFrame nCapacity nDataSize nFirst bMasked nPayloadLength nPos).extent m ≤
      nDataSize := by
  unfold readFrame
  split
  · exact Nat.zero_le _
  · rename_i hsize
    split
    · exact Nat.zero_le _
    · have hpayload : (readPayload bMasked nPos nPayloadLength).extent m ≤
          if bMasked then nPos + 4 + nPayloadLength else 0 := extent_readPayload_le
      rw [extent_bind, extent_pure]
      unfold frameSize at hsize
      split at hpayload
      · rename_i hmasked
        rw [if_pos hmasked] at hsize
        omega
      · omega

theorem length_readFrame_le :
    ((readFrame nCapacity nDataSize nFirst bMasked nPayloadLength nPos).result
      m).1.length ≤ nDataSize := by
  unfold readFrame
  split
  · exact Nat.zero_le _
  · rename_i hsize
    split
    · exact Nat.zero_le _
    · rw [result_bind, result_pure]
      refine length_readPayload_le.trans ?_
      unfold frameSize at hsize
      omega

end

/-! ## The whole function -/

variable {nCapacity nDataSize : ℕ} {m : Memory}

/-- What is read and copied is inside of the data. -/
structure StaysInside (r : MemoryReader (List UInt8 × Option WebsocketFrame))
    (nDataSize : ℕ) (m : Memory) : Prop where
  extent_le : r.extent m ≤ nDataSize
  length_le : (r.result m).1.length ≤ nDataSize

/-- Behind the first two bytes, only the extended length is read without a check. -/
theorem staysInside_readLength_iff {nFirst nSecond : UInt8} (hsize : 3 ≤ nDataSize) :
    StaysInside (readLength nCapacity nDataSize nFirst nSecond) nDataSize m ↔
      ¬ (nDataSize = 3 ∧ nSecond &&& 0x7F = 126) := by
  have hcode : (nSecond &&& 0x7F).toNat = 126 ↔ nSecond &&& 0x7F = 126 :=
    UInt8.toNat_inj (b := 126)
  unfold readLength
  dsimp only
  split
  · rename_i hbasic
    refine iff_of_true ⟨extent_readFrame_le, length_readFrame_le⟩ ?_
    rintro ⟨-, hextended⟩
    rw [hcode.mpr hextended] at hbasic
    exact absurd hbasic (by decide)
  · split
    · rename_i hextended
      constructor
      · rintro ⟨hextent, -⟩ ⟨rfl, -⟩
        simp only [extent_bind, extent_readByte] at hextent
        omega
      · intro h
        have hfour : 4 ≤ nDataSize := by
          by_contra hlt
          exact h ⟨by omega, hcode.mp hextended⟩
        refine ⟨?_, ?_⟩
        · simp only [extent_bind, extent_readByte, Nat.max_le]
          exact ⟨hsize, hfour, extent_readFrame_le⟩
        · simp only [result_bind]
          exact length_readFrame_le
    · rename_i hother
      exact iff_of_true ⟨Nat.zero_le _, Nat.zero_le _⟩
        fun h => hother (hcode.mpr h.2)

/-- The first two bytes are read before anything else. -/
theorem extent_unserializeFrameAt (hsize : ¬ nDataSize < 3) :
    (unserializeFrameAt nCapacity nDataSize).extent m =
      max 1 (max 2 ((readLength nCapacity nDataSize (m 0) (m 1)).extent m)) := by
  unfold unserializeFrameAt
  rw [if_neg hsize, extent_bind, extent_bind, extent_readByte, extent_readByte,
    result_readByte, result_readByte]

theorem result_unserializeFrameAt_eq (hsize : ¬ nDataSize < 3) :
    (unserializeFrameAt nCapacity nDataSize).result m =
      (readLength nCapacity nDataSize (m 0) (m 1)).result m := by
  unfold unserializeFrameAt
  rw [if_neg hsize, result_bind, result_bind, result_readByte, result_readByte]

/-- Whatever the bytes in memory are, `unserializeFrame` stays inside of the data
unless it is given three bytes with the code of the extended length. -/
theorem staysInside_unserializeFrameAt_iff (nCapacity nDataSize : ℕ) (m : Memory) :
    StaysInside (unserializeFrameAt nCapacity nDataSize) nDataSize m ↔
      ¬ (nDataSize = 3 ∧ m 1 &&& 0x7F = 126) := by
  by_cases hsmall : nDataSize < 3
  · have hnothing : unserializeFrameAt nCapacity nDataSize = pure ([], some .incomplete) :=
      if_pos hsmall
    rw [hnothing]
    exact iff_of_true ⟨Nat.zero_le _, Nat.zero_le _⟩
      fun h => absurd h.1 (Nat.ne_of_lt hsmall)
  · have hbehind : StaysInside (readLength nCapacity nDataSize (m 0) (m 1)) nDataSize m ↔
        ¬ (nDataSize = 3 ∧ m 1 &&& 0x7F = 126) :=
      staysInside_readLength_iff (Nat.not_lt.mp hsmall)
    rw [← hbehind]
    constructor
    · rintro ⟨hextent, hlength⟩
      rw [extent_unserializeFrameAt hsmall, Nat.max_le, Nat.max_le] at hextent
      rw [result_unserializeFrameAt_eq hsmall] at hlength
      exact ⟨hextent.2.2, hlength⟩
    · rintro ⟨hextent, hlength⟩
      refine ⟨?_, ?_⟩
      · rw [extent_unserializeFrameAt hsmall, Nat.max_le, Nat.max_le]
        exact ⟨by omega, by omega, hextent⟩
      · rw [result_unserializeFrameAt_eq hsmall]
        exact hlength

/-- The first three bytes of a frame with an extended length. -/
theorem not_staysInside_threeBytes :
    ¬ StaysInside (unserializeFrameAt 65535 3) 3 fun i => [0x81, 0xFE, 0x01].getD i 0 := by
  intro h
  exact absurd h.extent_le (by decide)

/-! ## The function on lists -/

theorem holds_getD_eq {pData : List UInt8} (hm : Holds pData m) {i : ℕ}
    (hi : i < pData.length) : m i = pData.getD i 0 := by
  rw [hm i hi]
  simp only [List.getD_eq_getElem?_getD, List.getElem?_eq_getElem hi, Option.getD_some]

/-- What is unmasked is the payload of the list. -/
theorem result_readPayload {pData : List UInt8} (hm : Holds pData m) {bMasked : Bool}
    {nPos nPayloadLength : ℕ}
    (hsize : frameSize bMasked nPayloadLength nPos ≤ pData.length) :
    (readPayload bMasked nPos nPayloadLength).result m =
      if bMasked ∧ nPayloadLength > 0 then
        unmask ((pData.drop nPos).take 4)
          ((pData.drop (nPos + 4)).take nPayloadLength)
      else [] := by
  unfold readPayload
  split
  · rename_i h
    unfold frameSize at hsize
    rw [if_pos h.1] at hsize
    rw [result_bind, result_bind, result_pure,
      result_bytes_of_holds hm (by omega), result_bytes_of_holds hm (by omega)]
  · rfl

/-- The part of the function on a list behind the length. -/
theorem result_readFrame {pData : List UInt8} (hm : Holds pData m) (nFirst : UInt8)
    (bMasked : Bool) (nPayloadLength nPos : ℕ) :
    ((readFrame nCapacity pData.length nFirst bMasked nPayloadLength nPos).result
      m).2 =
      if pData.length < frameSize bMasked nPayloadLength nPos then
        some .incomplete
      else if nPayloadLength > nCapacity then
        none
      else
        (frameType nFirst).map fun eType =>
          { nRet := eType.consumed (frameSize bMasked nPayloadLength nPos)
            eType
            vecBuf :=
              if bMasked ∧ nPayloadLength > 0 then
                unmask ((pData.drop nPos).take 4)
                  ((pData.drop (nPos + 4)).take nPayloadLength)
              else [] } := by
  unfold readFrame
  split
  · rfl
  · rename_i hsize
    split
    · rfl
    · rw [result_bind, result_pure, result_readPayload hm (Nat.not_lt.mp hsize)]

/-- The result is that of the function on the list of the data, and does not
depend on what is behind them. -/
theorem result_unserializeFrameAt {pData : List UInt8} (hm : Holds pData m) :
    ((unserializeFrameAt nCapacity pData.length).result m).2 =
      unserializeFrame nCapacity pData := by
  unfold unserializeFrameAt unserializeFrame
  by_cases hsmall : pData.length < 3
  · rw [if_pos hsmall, if_pos hsmall]
    rfl
  · rw [if_neg hsmall, if_neg hsmall, result_bind, result_bind, result_readByte,
      result_readByte, holds_getD_eq hm (by omega), holds_getD_eq hm (by omega)]
    unfold readLength payloadLength
    dsimp only
    by_cases hbasic : (pData.getD 1 0 &&& 0x7F).toNat ≤ payloadSizeBasic
    · rw [if_pos hbasic, if_pos hbasic, result_readFrame hm]
      simp only [frameSize, decide_eq_true_eq]
    · rw [if_neg hbasic, if_neg hbasic]
      by_cases hextended : (pData.getD 1 0 &&& 0x7F).toNat = 126
      · rw [if_pos hextended, if_pos hextended, result_bind, result_bind,
          result_readByte, result_readByte, holds_getD_eq hm (by omega), result_readFrame hm]
        by_cases hfour : 3 < pData.length
        · rw [holds_getD_eq hm hfour]
          simp only [frameSize, decide_eq_true_eq]
        · -- three bytes are too few whatever the length is
          have hshort : ∀ bMasked nLength, pData.length < frameSize bMasked nLength 4 := by
            intro bMasked nLength
            unfold frameSize
            omega
          rw [if_pos (hshort _ _)]
          have hshort' := hshort (decide (pData.getD 1 0 &&& 0x80 ≠ 0))
            ((pData.getD 2 0).toNat * 256 + (pData.getD 3 0).toNat)
          simp only [frameSize, decide_eq_true_eq] at hshort'
          dsimp only
          rw [if_pos hshort']
      · rw [if_neg hextended, if_neg hextended]
        rfl

end RealtimeEx.Core
