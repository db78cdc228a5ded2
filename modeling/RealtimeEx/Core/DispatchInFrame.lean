import Mathlib.Algebra.Order.Ring.Int
import RealtimeEx.Core.CoreConnectionDispatch
import RealtimeEx.Support.MemoryReader

/-!
# The dispatchers of a node link and the bytes of a frame

`CCoreConnection::onDispatch` is given a pointer to what is behind the header of a frame,
and `CMessageDispatcher::dispatch` a pointer to the copy that it has made.  Requests,
responses and messages to a gate are checked before they are read.  A forwarded message and
a broadcast are not checked enough.
-/

namespace RealtimeEx.Core

open Base MemoryReader

/-- A field of a cookie. -/
abbrev readField (nOffset nSize : ℕ) : MemoryReader ℕ := number leNat nOffset nSize

/-- `DebugAst`: the function returns if the assertion does not hold. -/
def debugAst {α : Type} (bExp : Prop) [Decidable bExp] (returned : α) (next : MemoryReader α) :
    MemoryReader α :=
  if bExp then next else pure returned

section

variable {α : Type} {bExp : Prop} [Decidable bExp] {returned : α} {next : MemoryReader α}

theorem inside_debugAst_iff {frame : List UInt8} :
    (debugAst bExp returned next).Inside frame ↔ (bExp → next.Inside frame) := by
  rw [debugAst]
  split
  · rename_i h
    exact ⟨fun hinside _ => hinside, fun hinside => hinside h⟩
  · rename_i h
    exact iff_of_true (inside_pure _ frame) fun hexp => absurd hexp h

theorem result_debugAst (m : Memory) :
    (debugAst bExp returned next).result m = if bExp then next.result m else returned := by
  rw [debugAst]
  split
  · rfl
  · rfl

end

/-! ## `CCoreConnection::onDispatch` -/

/-- `unserializeMessageFromBuf`, of the message with a name. -/
abbrev UnserializeMessage (μ : Type) := List UInt8 → List UInt8 → Option μ

/-- `CCoreService`, as far as messages for it are dispatched. -/
structure DispatchService (μ : Type) where
  serviceMessageHandler : List UInt8 → Bool
  serviceMessageSerializerByType : UInt8 → Option (UnserializeMessage μ)
  forwardMessageSerializer : Option (UnserializeMessage μ)
  serviceForwardHandler : UInt32 → Option (List UInt8)
  bToGateMessageCallback : Bool
  bToGateBroadcastMessageCallback : Bool
  pendingResponseInfo : UInt64 → Bool

/-- What `onDispatch` does with a frame. -/
inductive Received
  | dropped
  | service (delivery : Delivery)
  | queue (nMessageType : UInt8) (pData : List UInt8)

namespace CCoreConnection

variable {μ : Type} (getCoreService : UInt32 → Option (DispatchService μ))

/-- An `eMT_REQUEST`. -/
def onDispatchRequest (nSize : ℕ) : MemoryReader Received :=
  debugAst (20 < nSize) .dropped do
    let nMessageNameLen ← readField 17 2
    debugAst (20 + nMessageNameLen ≤ nSize) .dropped do
      let nEnd ← readField (19 + nMessageNameLen) 1
      debugAst (nEnd = 0) .dropped do
        let nToServiceID ← readField 12 4
        debugAst (getCoreService (UInt32.ofNat nToServiceID) ≠ none) .dropped do
          let nSessionID ← readField 0 8
          let nFromServiceID ← readField 8 4
          let nMessageSerializerType ← readField 16 1
          let szMessageName ← bytes 19 nMessageNameLen
          let messageData ← bytes (20 + nMessageNameLen) (nSize - 20 - nMessageNameLen)
          pure (.service
            { nToServiceID := UInt32.ofNat nToServiceID
              packet := .request (UInt64.ofNat nSessionID) (UInt32.ofNat nFromServiceID)
                (UInt8.ofNat nMessageSerializerType) nMessageNameLen (cStr szMessageName)
                messageData })

/-- An `eMT_RESPONSE`. -/
def onDispatchResponse (nSize : ℕ) : MemoryReader Received :=
  debugAst (24 ≤ nSize) .dropped do
    let nMessageNameLen ← readField 21 2
    debugAst (24 + nMessageNameLen ≤ nSize) .dropped do
      let nEnd ← readField (23 + nMessageNameLen) 1
      debugAst (nEnd = 0) .dropped do
        let nToServiceID ← readField 12 4
        debugAst (getCoreService (UInt32.ofNat nToServiceID) ≠ none) .dropped do
          let nSessionID ← readField 0 8
          let nFromServiceID ← readField 8 4
          let nMessageSerializerType ← readField 20 1
          let nResult ← readField 16 4
          let szMessageName ← bytes 23 nMessageNameLen
          let messageData ← bytes (24 + nMessageNameLen) (nSize - 24 - nMessageNameLen)
          pure (.service
            { nToServiceID := UInt32.ofNat nToServiceID
              packet := .response (UInt64.ofNat nSessionID) (UInt32.ofNat nFromServiceID)
                (UInt32.ofNat nResult) (UInt8.ofNat nMessageSerializerType) nMessageNameLen
                (cStr szMessageName) messageData })

/-- An `eMT_GATE_FORWARD`. -/
def onDispatchGateForward (nSize : ℕ) : MemoryReader Received :=
  debugAst (16 < nSize) .dropped do
    let nToServiceID ← readField 12 4
    debugAst (getCoreService (UInt32.ofNat nToServiceID) ≠ none) .dropped do
      let nMessageSize ← readField 16 2
      debugAst (16 + nMessageSize = nSize) .dropped do
        let nSessionID ← readField 0 8
        let nFromServiceID ← readField 8 4
        let header ← bytes 16 nMessageSize
        pure (.service
          { nToServiceID := UInt32.ofNat nToServiceID
            packet := .gateForward (UInt64.ofNat nSessionID) (UInt32.ofNat nFromServiceID)
              header })

/-- An `eMT_TO_GATE`. -/
def onDispatchToGate (nSize : ℕ) : MemoryReader Received :=
  debugAst (12 < nSize) .dropped do
    let nToServiceID ← readField 8 4
    debugAst (getCoreService (UInt32.ofNat nToServiceID) ≠ none) .dropped do
      let nSessionID ← readField 0 8
      let pData ← bytes 12 (nSize - 12)
      pure (.service
        { nToServiceID := UInt32.ofNat nToServiceID
          packet := .toGate (UInt64.ofNat nSessionID) pData })

/-- An `eMT_TO_GATE_BROADCAST`; the size of the data is a `uint16_t`. -/
def onDispatchToGateBroadcast (nSize : ℕ) : MemoryReader Received := do
  let nToServiceID ← readField 0 4
  debugAst (getCoreService (UInt32.ofNat nToServiceID) ≠ none) .dropped do
    let nSessionCount ← readField 4 2
    let pData ← bytes 6 ((nSize + 2 ^ 16 - 6) % 2 ^ 16)
    pure (.service
      { nToServiceID := UInt32.ofNat nToServiceID
        packet := .toGateBroadcast nSessionCount ((nSize + 2 ^ 16 - 6) % 2 ^ 16) pData })

/-- `onDispatch`. -/
def onDispatch (nMessageType : UInt8) (nSize : ℕ) : MemoryReader Received :=
  if nMessageType = MessageType.heartbeat.code then
    pure .dropped
  else if nMessageType = MessageType.request.code then
    onDispatchRequest getCoreService nSize
  else if nMessageType = MessageType.response.code then
    onDispatchResponse getCoreService nSize
  else if nMessageType = MessageType.gateForward.code then
    onDispatchGateForward getCoreService nSize
  else if nMessageType = MessageType.toGate.code then
    onDispatchToGate getCoreService nSize
  else if nMessageType = MessageType.toGateBroadcast.code then
    onDispatchToGateBroadcast getCoreService nSize
  else do
    let pData ← bytes 0 nSize
    pure (.queue nMessageType pData)

end CCoreConnection

/-! ## `CMessageDispatcher::dispatch` -/

/-- What `dispatch` calls.  The callbacks of a gate are given positions in the data. -/
inductive Handled (μ : Type)
  | rejected
  | request (nSessionID : UInt64) (nFromServiceID : UInt32) (szMessageName : List UInt8)
      (pMessage : μ)
  | response (nSessionID : UInt64) (nResult : UInt32) (pMessage : Option μ)
  | gateForward (nSessionID : UInt64) (nGateServiceID : UInt32) (szMessageName : List UInt8)
      (pMessage : μ)
  | toGate (nSessionID : UInt64) (nDataSize : ℕ)
  | toGateBroadcast (nSessionCount nOffset nDataSize : ℕ)

/-- The bytes of the frame in a packet, as far as `dispatch` gets them by a pointer. -/
def DispatchPacket.content : DispatchPacket → List UInt8
  | request _ _ _ _ _ messageData => messageData
  | response _ _ _ _ _ _ messageData => messageData
  | gateForward _ _ header => header
  | toGate _ pData => pData
  | toGateBroadcast _ _ pData => pData

namespace CMessageDispatcher

variable {μ : Type} (service : DispatchService μ)

/-- `dispatch` of an `eMT_REQUEST`. -/
def dispatchRequest (nSessionID : UInt64) (nFromServiceID : UInt32)
    (nMessageSerializerType : UInt8) (szMessageName : List UInt8) (nMessageDataLen : ℕ) :
    MemoryReader (Handled μ) :=
  debugAst (service.serviceMessageHandler szMessageName = true) .rejected
    (match service.serviceMessageSerializerByType nMessageSerializerType with
    | none => pure .rejected
    | some unserializeMessageFromBuf => do
        let data ← bytes 0 nMessageDataLen
        match unserializeMessageFromBuf szMessageName data with
        | none => pure .rejected
        | some pMessage =>
            pure (.request nSessionID nFromServiceID szMessageName pMessage))

/-- `dispatch` of an `eMT_RESPONSE`; one without a name has no message. -/
def dispatchResponse (nSessionID : UInt64) (nResult : UInt32) (nMessageSerializerType : UInt8)
    (nMessageNameLen : ℕ) (szMessageName : List UInt8) (nMessageDataLen : ℕ) :
    MemoryReader (Handled μ) :=
  debugAst (nSessionID ≠ 0) .rejected
    (if nMessageNameLen = 0 then
      debugAst (service.pendingResponseInfo nSessionID = true) .rejected
        (pure (.response nSessionID nResult none))
    else
      match service.serviceMessageSerializerByType nMessageSerializerType with
      | none => pure .rejected
      | some unserializeMessageFromBuf => do
          let data ← bytes 0 nMessageDataLen
          match unserializeMessageFromBuf szMessageName data with
          | none => pure .rejected
          | some pMessage =>
              debugAst (service.pendingResponseInfo nSessionID = true) .rejected
                (pure (.response nSessionID nResult (some pMessage))))

/-- `dispatch` of an `eMT_GATE_FORWARD`; the size passed on is a `uint32_t`. -/
def dispatchGateForward (nSessionID : UInt64) (nFromServiceID : UInt32) :
    MemoryReader (Handled μ) :=
  match service.forwardMessageSerializer with
  | none => pure .rejected
  | some unserializeMessageFromBuf => do
      let nMessageID ← readField 2 4
      match service.serviceForwardHandler (UInt32.ofNat nMessageID) with
      | none => pure .rejected
      | some szMessageName => do
          let nMessageSize ← readField 0 2
          let data ← bytes sizeofMessageHeader
            ((nMessageSize + 2 ^ 32 - sizeofMessageHeader) % 2 ^ 32)
          match unserializeMessageFromBuf szMessageName data with
          | none => pure .rejected
          | some pMessage =>
              pure (.gateForward nSessionID nFromServiceID szMessageName pMessage)

/-- `dispatch`, with the memory from the content of the packet on. -/
def dispatch : DispatchPacket → MemoryReader (Handled μ)
  | .request nSessionID nFromServiceID nMessageSerializerType _ szMessageName messageData =>
      dispatchRequest service nSessionID nFromServiceID nMessageSerializerType szMessageName
        messageData.length
  | .response nSessionID _ nResult nMessageSerializerType nMessageNameLen szMessageName
      messageData =>
      dispatchResponse service nSessionID nResult nMessageSerializerType nMessageNameLen
        szMessageName messageData.length
  | .gateForward nSessionID nFromServiceID _ =>
      dispatchGateForward service nSessionID nFromServiceID
  | .toGate nSessionID pData =>
      debugAst (service.bToGateMessageCallback = true) .rejected
        (pure (.toGate nSessionID pData.length))
  | .toGateBroadcast nSessionCount nDataSize _ =>
      debugAst (service.bToGateBroadcastMessageCallback = true) .rejected
        (pure (.toGateBroadcast nSessionCount (8 * nSessionCount)
          ((nDataSize + 2 ^ 32 - 8 * nSessionCount) % 2 ^ 16)))

end CMessageDispatcher

end RealtimeEx.Core
