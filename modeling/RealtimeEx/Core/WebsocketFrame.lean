import Mathlib.Algebra.Order.Ring.Int
import Mathlib.Data.List.Basic
import Mathlib.Data.List.Indexes
import Mathlib.Data.List.Infix
import Mathlib.Tactic.Common

/-!
# Websocket frames

`CCoreWebsocketConnection::serializeFrame` and `unserializeFrame`.  A frame is two
bytes with the opcode and the length, two more bytes of length if it does not fit
seven bits, a masking key if the frame is masked, and the payload.
-/

namespace RealtimeEx.Core

/-! ## Headers -/

/-- `zMaskingKey`. -/
structure MaskingKey where
  k0 : UInt8
  k1 : UInt8
  k2 : UInt8
  k3 : UInt8
  deriving DecidableEq

/-- The bytes of a masking key. -/
def MaskingKey.bytes (key : MaskingKey) : List UInt8 :=
  [key.k0, key.k1, key.k2, key.k3]

/-- `SWebsocketHeader`; the length of the payload is that of the data. -/
structure SWebsocketHeader where
  bFin : Bool
  nOpcode : UInt8
  bMasked : Bool
  zMaskingKey : MaskingKey

/-- The enumerators of `EWebsocketFrameType` that `unserializeFrame` uses. -/
inductive EWebsocketFrameType
  | incompleteFrame
  | incompleteTextFrame
  | incompleteBinaryFrame
  | textFrame
  | binaryFrame
  | closeFrame
  | pingFrame
  | pongFrame
  deriving DecidableEq

/-- `kPayloadSizeBasic`. -/
def payloadSizeBasic : ℕ := 125

/-- `kPayloadSizeExtended`. -/
def payloadSizeExtended : ℕ := 0xFFFF

/-- `zMaskingKey[i % 4]`. -/
def maskByte (zMaskingKey : List UInt8) (i : ℕ) : UInt8 :=
  zMaskingKey.getD (i % 4) 0

/-- The loop that applies a mask to the first `n` bytes of a buffer. -/
def maskPrefix (zMaskingKey : List UInt8) (n : ℕ) (vecBuf : List UInt8) :
    List UInt8 :=
  vecBuf.mapIdx fun i b => if i < n then b ^^^ maskByte zMaskingKey i else b

/-- The loop that applies a mask to a whole buffer. -/
def unmask (zMaskingKey vecBuf : List UInt8) : List UInt8 :=
  vecBuf.mapIdx fun i b => b ^^^ maskByte zMaskingKey i

/-! ## Writing -/

/-- The length of the payload behind the first byte, with the bit for the mask. -/
def lengthBytes (bMasked : Bool) (nPayloadLength : ℕ) : List UInt8 :=
  let nValue : UInt8 := if bMasked then 0x80 else 0
  if nPayloadLength ≤ payloadSizeBasic then
    [nValue ||| UInt8.ofNat nPayloadLength]
  else
    [nValue ||| 126, UInt8.ofNat (nPayloadLength >>> 8), UInt8.ofNat nPayloadLength]

/-- `serializeFrame` into a buffer of the given capacity; `none` is its result
`-1`.  The mask is applied from the start of the buffer. -/
def serializeFrame (nCapacity : ℕ) (h : SWebsocketHeader) (pData : List UInt8) :
    Option (List UInt8) :=
  if pData.length + 10 ≥ nCapacity then
    none
  else if pData.length ≤ payloadSizeExtended then
    let head := ((if h.bFin then 0x80 else 0) ||| h.nOpcode) ::
      lengthBytes h.bMasked pData.length
    if h.bMasked then
      some (maskPrefix h.zMaskingKey.bytes pData.length
        (head ++ h.zMaskingKey.bytes ++ pData))
    else
      some (head ++ pData)
  else
    none

/-! ## Reading -/

/-- The length of the payload and the position behind the length; `none` for a
length of 64 bits.  With three bytes of data, `pData[3]` is whatever is in memory;
the frame is incomplete whatever it is. -/
def payloadLength (pData : List UInt8) : Option (ℕ × ℕ) :=
  let nLengthField := (pData.getD 1 0 &&& 0x7F).toNat
  if nLengthField ≤ payloadSizeBasic then
    some (nLengthField, 2)
  else if nLengthField = 126 then
    some ((pData.getD 2 0).toNat * 256 + (pData.getD 3 0).toNat, 4)
  else
    none

/-- The type of a whole frame with the given first byte; `none` for an opcode that
is not known. -/
def frameType (nFirst : UInt8) : Option EWebsocketFrameType :=
  let bFin := nFirst &&& 0x80 ≠ 0
  let nOpcode := nFirst &&& 0x0F
  if nOpcode = 0x0 ∨ nOpcode = 0x1 then
    some (if bFin then .textFrame else .incompleteTextFrame)
  else if nOpcode = 0x2 then
    some (if bFin then .binaryFrame else .incompleteBinaryFrame)
  else if nOpcode = 0x8 then
    some .closeFrame
  else if nOpcode = 0x9 then
    some .pingFrame
  else if nOpcode = 0xA then
    some .pongFrame
  else
    none

/-- A frame is consumed unless it is one of the incomplete ones. -/
def EWebsocketFrameType.consumed (eType : EWebsocketFrameType) (nFrameSize : ℕ) : ℕ :=
  match eType with
  | incompleteFrame | incompleteTextFrame | incompleteBinaryFrame => 0
  | _ => nFrameSize

/-- What `unserializeFrame` makes out of the data: its result, `eType` and
`vecBuf`. -/
structure WebsocketFrame where
  nRet : ℕ
  eType : EWebsocketFrameType
  vecBuf : List UInt8
  deriving DecidableEq

/-- The answer that more data is needed. -/
def WebsocketFrame.incomplete : WebsocketFrame where
  nRet := 0
  eType := .incompleteFrame
  vecBuf := []

/-- `unserializeFrame` with a buffer of the given capacity; `none` is its result
`-1`. -/
def unserializeFrame (nCapacity : ℕ) (pData : List UInt8) : Option WebsocketFrame :=
  if pData.length < 3 then
    some .incomplete
  else
    match payloadLength pData with
    | none => none
    | some (nPayloadLength, nPos) =>
        let bMasked := pData.getD 1 0 &&& 0x80 ≠ 0
        let nFrameSize := nPayloadLength + nPos + if bMasked then 4 else 0
        if pData.length < nFrameSize then
          some .incomplete
        else if nPayloadLength > nCapacity then
          none
        else
          let vecBuf :=
            if bMasked ∧ nPayloadLength > 0 then
              unmask ((pData.drop nPos).take 4)
                ((pData.drop (nPos + 4)).take nPayloadLength)
            else
              []
          (frameType (pData.getD 0 0)).map fun eType =>
            { nRet := eType.consumed nFrameSize, eType, vecBuf }

/-! ## Masks -/

@[simp] theorem length_maskPrefix (key : List UInt8) (n : ℕ) (xs : List UInt8) :
    (maskPrefix key n xs).length = xs.length := by
  simp [maskPrefix]

@[simp] theorem length_unmask (key xs : List UInt8) :
    (unmask key xs).length = xs.length := by
  simp [unmask]

theorem getD_maskPrefix (key : List UInt8) (n : ℕ) (xs : List UInt8) {i : ℕ}
    (hi : i < xs.length) :
    (maskPrefix key n xs).getD i 0 =
      xs.getD i 0 ^^^ (if i < n then maskByte key i else 0) := by
  simp only [maskPrefix, List.getD_eq_getElem?_getD, List.getElem?_mapIdx,
    List.getElem?_eq_getElem hi, Option.map_some, Option.getD_some]
  split <;> simp

theorem getD_unmask (key xs : List UInt8) {i : ℕ} (hi : i < xs.length) :
    (unmask key xs).getD i 0 = xs.getD i 0 ^^^ maskByte key i := by
  simp [unmask, List.getElem?_mapIdx, List.getElem?_eq_getElem hi]

/-- Applying a mask twice gives the data back. -/
theorem unmask_unmask (key xs : List UInt8) : unmask key (unmask key xs) = xs := by
  refine List.ext_getElem (by simp) fun i h h' => ?_
  simp [unmask, UInt8.xor_assoc]

end RealtimeEx.Core
