import RealtimeEx.Core.NodeLink
import RealtimeEx.Core.TransporterLocal

/-!
# `CCoreConnection::onDispatch`

The packet a frame of a node link is made into, and what comes out for the
frames the transporter sends.
-/

namespace RealtimeEx.Core

open Base

/-- The number in `width` bytes at an offset. -/
def fieldAt (data : List UInt8) (offset width : ℕ) : ℕ :=
  leNat ((data.drop offset).take width)

/-! ## The branches -/

section

variable {μ : Type} (getCoreService : CoreServiceMgr μ)

/-- An `eMT_REQUEST`; `sizeof(request_cookice)` is 20, one byte of it the first
of the name. -/
def onDispatchRequest (pData : List UInt8) : Option Delivery := do
  let nSize := pData.length
  let nToServiceID := UInt32.ofNat (fieldAt pData 12 4)
  let nMessageNameLen := fieldAt pData 17 2
  guard (20 < nSize)
  guard (20 + nMessageNameLen ≤ nSize)
  guard (pData[19 + nMessageNameLen]? = some 0)
  let _ ← getCoreService nToServiceID
  return {
    nToServiceID
    packet := .request (UInt64.ofNat (fieldAt pData 0 8))
      (UInt32.ofNat (fieldAt pData 8 4)) (UInt8.ofNat (fieldAt pData 16 1))
      nMessageNameLen (cStr ((pData.drop 19).take nMessageNameLen))
      (pData.drop (20 + nMessageNameLen)) }

/-- An `eMT_RESPONSE`; `sizeof(response_cookice)` is 24. -/
def onDispatchResponse (pData : List UInt8) : Option Delivery := do
  let nSize := pData.length
  let nToServiceID := UInt32.ofNat (fieldAt pData 12 4)
  let nMessageNameLen := fieldAt pData 21 2
  guard (24 ≤ nSize)
  guard (24 + nMessageNameLen ≤ nSize)
  guard (pData[23 + nMessageNameLen]? = some 0)
  let _ ← getCoreService nToServiceID
  return {
    nToServiceID
    packet := .response (UInt64.ofNat (fieldAt pData 0 8))
      (UInt32.ofNat (fieldAt pData 8 4)) (UInt32.ofNat (fieldAt pData 16 4))
      (UInt8.ofNat (fieldAt pData 20 1)) nMessageNameLen
      (cStr ((pData.drop 23).take nMessageNameLen))
      (pData.drop (24 + nMessageNameLen)) }

/-- An `eMT_GATE_FORWARD`: the size in the client's header has to be the size of
what follows the cookie. -/
def onDispatchGateForward (pData : List UInt8) : Option Delivery := do
  let nSize := pData.length
  let nToServiceID := UInt32.ofNat (fieldAt pData 12 4)
  guard (16 < nSize)
  let _ ← getCoreService nToServiceID
  let nMessageSize := fieldAt pData 16 2
  guard (16 + nMessageSize = nSize)
  return {
    nToServiceID
    packet := .gateForward (UInt64.ofNat (fieldAt pData 0 8))
      (UInt32.ofNat (fieldAt pData 8 4)) ((pData.drop 16).take nMessageSize) }

/-- An `eMT_TO_GATE`. -/
def onDispatchToGate (pData : List UInt8) : Option Delivery := do
  let nToServiceID := UInt32.ofNat (fieldAt pData 8 4)
  guard (12 < pData.length)
  let _ ← getCoreService nToServiceID
  return {
    nToServiceID
    packet := .toGate (UInt64.ofNat (fieldAt pData 0 8)) (pData.drop 12) }

/-- An `eMT_TO_GATE_BROADCAST`; nothing is checked. -/
def onDispatchToGateBroadcast (pData : List UInt8) : Option Delivery := do
  let nToServiceID := UInt32.ofNat (fieldAt pData 0 4)
  let _ ← getCoreService nToServiceID
  return {
    nToServiceID
    packet := .toGateBroadcast (fieldAt pData 4 2) (pData.length - 6)
      (pData.drop 6) }

/-- `onDispatch`.  A heartbeat is dropped, and messages of the other types go to
the connection's own queue, not to a service. -/
def onDispatch (frame : Frame) : Option Delivery :=
  if frame.messageType = MessageType.request.code then
    onDispatchRequest getCoreService frame.data
  else if frame.messageType = MessageType.response.code then
    onDispatchResponse getCoreService frame.data
  else if frame.messageType = MessageType.gateForward.code then
    onDispatchGateForward getCoreService frame.data
  else if frame.messageType = MessageType.toGate.code then
    onDispatchToGate getCoreService frame.data
  else if frame.messageType = MessageType.toGateBroadcast.code then
    onDispatchToGateBroadcast getCoreService frame.data
  else
    none

end

/-! ## Reading the cookies back -/

theorem fieldAt_append_right {head tail : List UInt8} {offset : ℕ} (width : ℕ)
    (h : head.length ≤ offset) :
    fieldAt (head ++ tail) offset width =
      fieldAt tail (offset - head.length) width := by
  have hnil : head.drop offset = [] := List.drop_eq_nil_of_le h
  simp only [fieldAt, List.drop_append, hnil, List.nil_append]

theorem fieldAt_leBytes (width value : ℕ) (tail : List UInt8) :
    fieldAt (leBytes width value ++ tail) 0 width = value % 256 ^ width := by
  rw [fieldAt, List.drop_zero, List.take_left' (length_leBytes _ _), leNat_leBytes]

theorem fieldAt_cons (byte : UInt8) (tail : List UInt8) (offset width : ℕ) :
    fieldAt (byte :: tail) (offset + 1) width = fieldAt tail offset width := by
  rw [fieldAt, List.drop_succ_cons, fieldAt]

theorem fieldAt_byte (byte : UInt8) (tail : List UInt8) :
    fieldAt (byte :: tail) 0 1 = byte.toNat := by
  simp [fieldAt, leNat]

theorem drop_leBytes {width n : ℕ} (value : ℕ) (h : width ≤ n) :
    (leBytes width value).drop n = [] := by
  apply List.drop_eq_nil_of_le
  rwa [length_leBytes]

variable {μ : Type} {getCoreService : CoreServiceMgr μ}

theorem onDispatchRequest_requestCookice (sessionID : UInt64)
    (fromServiceID toServiceID : UInt32) (messageSerializerType : UInt8)
    (messageName : MessageName) (bytes : List UInt8) :
    onDispatchRequest getCoreService
        (requestCookice sessionID fromServiceID toServiceID
          messageSerializerType messageName ++ bytes) =
      (do
        guard (messageName.chars ≠ [] ∨ bytes ≠ [])
        let _ ← getCoreService toServiceID
        return {
          nToServiceID := toServiceID
          packet := .request sessionID fromServiceID messageSerializerType
            messageName.chars.length (cStr messageName.chars) bytes }) := by
  have hshort := messageName.length_lt
  generalize hdata : requestCookice sessionID fromServiceID toServiceID
    messageSerializerType messageName ++ bytes = pData
  have hfields : pData = leBytes 8 sessionID.toNat ++ (leBytes 4 fromServiceID.toNat ++
      (leBytes 4 toServiceID.toNat ++ messageSerializerType ::
        (leBytes 2 messageName.chars.length ++
          (messageName.chars ++ 0 :: bytes)))) := by
    rw [← hdata]
    simp [requestCookice]
  have hlength : pData.length = 20 + messageName.chars.length + bytes.length := by
    rw [← hdata, List.length_append, length_requestCookice]
  have hbehind : pData.drop 19 = messageName.chars ++ 0 :: bytes := by
    simp [hfields, List.drop_append, drop_leBytes]
  have hnameLen : fieldAt pData 17 2 = messageName.chars.length := by
    simp [hfields, fieldAt_append_right, fieldAt_cons, fieldAt_leBytes]
    omega
  have hzero : pData[19 + messageName.chars.length]? = some 0 := by
    rw [← List.getElem?_drop, hbehind]
    simp
  have hmessage : pData.drop (20 + messageName.chars.length) = bytes := by
    rw [show 20 + messageName.chars.length = 19 + (messageName.chars.length + 1) by omega,
      ← List.drop_drop, hbehind]
    simp
  have hpos : 20 < pData.length ↔ messageName.chars ≠ [] ∨ bytes ≠ [] := by
    rw [hlength, ← List.length_pos_iff, ← List.length_pos_iff]
    omega
  have hle : 20 + messageName.chars.length ≤ pData.length := by omega
  simp only [onDispatchRequest, hnameLen, hzero, hmessage, hpos, hle, hbehind]
  simp [hfields, fieldAt_append_right, fieldAt_leBytes, fieldAt_byte]

theorem onDispatchResponse_responseCookice (sessionID : UInt64)
    (fromServiceID toServiceID result : UInt32) (messageSerializerType : UInt8)
    {messageName : List UInt8} (hshort : messageName.length < 128)
    (bytes : List UInt8) :
    onDispatchResponse getCoreService
        (responseCookice sessionID fromServiceID toServiceID result
          messageSerializerType messageName ++ bytes) =
      (do
        let _ ← getCoreService toServiceID
        return {
          nToServiceID := toServiceID
          packet := .response sessionID fromServiceID result messageSerializerType
            messageName.length (cStr messageName) bytes }) := by
  generalize hdata : responseCookice sessionID fromServiceID toServiceID result
    messageSerializerType messageName ++ bytes = pData
  have hfields : pData = leBytes 8 sessionID.toNat ++ (leBytes 4 fromServiceID.toNat ++
      (leBytes 4 toServiceID.toNat ++ (leBytes 4 result.toNat ++
        messageSerializerType :: (leBytes 2 messageName.length ++
          (messageName ++ 0 :: bytes))))) := by
    rw [← hdata]
    simp [responseCookice]
  have hlength : pData.length = 24 + messageName.length + bytes.length := by
    rw [← hdata, List.length_append, length_responseCookice]
  have hbehind : pData.drop 23 = messageName ++ 0 :: bytes := by
    simp [hfields, List.drop_append, drop_leBytes]
  have hnameLen : fieldAt pData 21 2 = messageName.length := by
    simp [hfields, fieldAt_append_right, fieldAt_cons, fieldAt_leBytes]
    omega
  have hzero : pData[23 + messageName.length]? = some 0 := by
    rw [← List.getElem?_drop, hbehind]
    simp
  have hmessage : pData.drop (24 + messageName.length) = bytes := by
    rw [show 24 + messageName.length = 23 + (messageName.length + 1) by omega,
      ← List.drop_drop, hbehind]
    simp
  have hcookice : 24 ≤ pData.length := by omega
  have hle : 24 + messageName.length ≤ pData.length := by omega
  simp only [onDispatchResponse, hnameLen, hzero, hmessage, hcookice, hle, hbehind]
  simp [hfields, fieldAt_append_right, fieldAt_leBytes, fieldAt_byte, guard]

theorem onDispatchGateForward_gateForwardCookice (sessionID : UInt64)
    (fromServiceID toServiceID : UInt32) (bytes : List UInt8) :
    onDispatchGateForward getCoreService
        (gateForwardCookice sessionID fromServiceID toServiceID ++ bytes) =
      (do
        guard (bytes ≠ [])
        let _ ← getCoreService toServiceID
        guard (leNat (bytes.take 2) = bytes.length)
        return {
          nToServiceID := toServiceID
          packet := .gateForward sessionID fromServiceID bytes }) := by
  generalize hdata : gateForwardCookice sessionID fromServiceID toServiceID ++ bytes =
    pData
  have hfields : pData = leBytes 8 sessionID.toNat ++ (leBytes 4 fromServiceID.toNat ++
      (leBytes 4 toServiceID.toNat ++ bytes)) := by
    rw [← hdata]
    simp [gateForwardCookice]
  have hlength : pData.length = 16 + bytes.length := by
    rw [← hdata, List.length_append, length_gateForwardCookice]
  have hbehind : pData.drop 16 = bytes := by
    simp [hfields, List.drop_append, drop_leBytes]
  have hpos : 16 < pData.length ↔ bytes ≠ [] := by
    rw [hlength, ← List.length_pos_iff]
    omega
  have hsize : 16 + leNat (bytes.take 2) = pData.length ↔
      leNat (bytes.take 2) = bytes.length := by
    omega
  have hmessageSize : fieldAt pData 16 2 = leNat (bytes.take 2) := by
    rw [fieldAt, hbehind]
  simp only [onDispatchGateForward, hmessageSize, hpos, hsize, hbehind]
  by_cases hwhole : leNat (bytes.take 2) = bytes.length
  · simp [hfields, fieldAt_append_right, fieldAt_leBytes, hwhole]
  · simp [hfields, fieldAt_append_right, fieldAt_leBytes, hwhole, guard]

/-- What is not longer than the cookie is dropped. -/
theorem onDispatchGateForward_of_length_le {pData : List UInt8}
    (h : pData.length ≤ 16) : onDispatchGateForward getCoreService pData = none := by
  have hshort : ¬ 16 < pData.length := by omega
  simp [onDispatchGateForward, guard, hshort]

theorem onDispatchToGate_gateSendCookice (sessionID : UInt64)
    (toServiceID : UInt32) (bytes : List UInt8) :
    onDispatchToGate getCoreService (gateSendCookice sessionID toServiceID ++ bytes) =
      (do
        guard (bytes ≠ [])
        let _ ← getCoreService toServiceID
        return { nToServiceID := toServiceID, packet := .toGate sessionID bytes }) := by
  generalize hdata : gateSendCookice sessionID toServiceID ++ bytes = pData
  have hfields : pData = leBytes 8 sessionID.toNat ++
      (leBytes 4 toServiceID.toNat ++ bytes) := by
    rw [← hdata]
    simp [gateSendCookice]
  have hbehind : pData.drop 12 = bytes := by
    simp [hfields, List.drop_append, drop_leBytes]
  have hpos : 12 < pData.length ↔ bytes ≠ [] := by
    rw [← hdata, List.length_append, length_gateSendCookice, ← List.length_pos_iff]
    omega
  simp only [onDispatchToGate, hpos, hbehind]
  simp [hfields, fieldAt_append_right, fieldAt_leBytes]

theorem onDispatchToGateBroadcast_gateBroadcastCookice (toServiceID : UInt32)
    (vecSessionID : List UInt64) (bytes : List UInt8) :
    onDispatchToGateBroadcast getCoreService
        (gateBroadcastCookice toServiceID vecSessionID ++ bytes) =
      (do
        let _ ← getCoreService toServiceID
        return {
          nToServiceID := toServiceID
          packet := .toGateBroadcast (vecSessionID.length % 2 ^ 16)
            (8 * vecSessionID.length + bytes.length)
            (sessionBytes vecSessionID ++ bytes) }) := by
  generalize hdata : gateBroadcastCookice toServiceID vecSessionID ++ bytes = pData
  have hfields : pData = leBytes 4 toServiceID.toNat ++
      (leBytes 2 vecSessionID.length ++ (sessionBytes vecSessionID ++ bytes)) := by
    rw [← hdata]
    simp [gateBroadcastCookice, sessionBytes]
  have hbehind : pData.drop 6 = sessionBytes vecSessionID ++ bytes := by
    simp [hfields, List.drop_append, drop_leBytes]
  have hsize : pData.length - 6 = 8 * vecSessionID.length + bytes.length := by
    rw [← hdata, List.length_append, length_gateBroadcastCookice]
    omega
  simp only [onDispatchToGateBroadcast, hsize, hbehind]
  simp [hfields, fieldAt_append_right, fieldAt_leBytes]

end RealtimeEx.Core
