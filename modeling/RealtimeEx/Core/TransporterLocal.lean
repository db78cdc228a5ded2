import RealtimeEx.Base.TokenParser
import RealtimeEx.Core.Transporter

/-!
# Messages to a service of the same node

What the operations of `CTransporter` put into the message queue of a service of
the same node, and so hand to its `CMessageDispatcher`.
-/

namespace RealtimeEx.Core

open Base

/-- What `CMessageDispatcher::dispatch` gets: the message type and the
`SMCT_REQUEST`, `SMCT_RESPONSE`, `SMCT_GATE_FORWARD`, `SMCT_TO_GATE` or
`SMCT_TO_GATE_BROADCAST` with the memory behind it.  The message name is read as a
C string. -/
inductive DispatchPacket
  | request (nSessionID : UInt64) (nFromServiceID : UInt32)
      (nMessageSerializerType : UInt8) (nMessageNameLen : ℕ)
      (szMessageName messageData : List UInt8)
  | response (nSessionID : UInt64) (nFromServiceID : UInt32) (nResult : UInt32)
      (nMessageSerializerType : UInt8) (nMessageNameLen : ℕ)
      (szMessageName messageData : List UInt8)
  | gateForward (nSessionID : UInt64) (nFromServiceID : UInt32)
      (header : List UInt8)
  | toGate (nSessionID : UInt64) (pData : List UInt8)
  | toGateBroadcast (nSessionCount nDataSize : ℕ) (pData : List UInt8)
  deriving DecidableEq

/-- A packet and the service whose message queue it is put into. -/
structure Delivery where
  nToServiceID : UInt32
  packet : DispatchPacket
  deriving DecidableEq

/-- `CCoreService`, as far as the senders of messages use it. -/
structure CoreService (μ : Type) where
  forwardMessageSerializer : Option (MessageSerializer μ)

/-- `CCoreServiceMgr::getCoreService` of the node of the target services. -/
abbrev CoreServiceMgr (μ : Type) := UInt32 → Option (CoreService μ)

/-- The ids as they lie in memory. -/
def sessionBytes (vecSessionID : List UInt64) : List UInt8 :=
  vecSessionID.flatMap fun nSessionID => leBytes 8 nSessionID.toNat

@[simp] theorem length_sessionBytes (vecSessionID : List UInt64) :
    (sessionBytes vecSessionID).length = 8 * vecSessionID.length := by
  simp [sessionBytes, List.length_flatMap]
  omega

namespace Transporter

variable {μ : Type} (t : Transporter μ) (getCoreService : CoreServiceMgr μ)

/-- The local part of `invoke`: the whole buffer is there for the message. -/
def invokeLocal (toServiceID : UInt32) (sessionID : UInt64) (message : μ)
    (serializerType : UInt8) : Option Delivery := do
  let nToServiceID ← t.convert toServiceID
  let pMessageSerializer ← t.serializer nToServiceID serializerType
  let szMessageName ← pMessageSerializer.getMessageName message
  guard (t.isLocalService nToServiceID)
  let _ ← getCoreService nToServiceID
  let bytes ← pMessageSerializer.serializeMessageToBuf message sizeofBuf
  return {
    nToServiceID
    packet := .request sessionID t.serviceID pMessageSerializer.type
      szMessageName.chars.length (cStr szMessageName.chars) bytes }

/-- The local part of `response`; without a message the name is empty. -/
def responseLocal (toServiceID : UInt32) (sessionID : UInt64) (result : UInt32)
    (message : Option μ) (messageSerializerType : UInt8) : Option Delivery := do
  let nToServiceID ← t.convert toServiceID
  let pMessageSerializer ← t.serializer nToServiceID messageSerializerType
  match message with
  | none =>
      guard (t.isLocalService nToServiceID)
      let _ ← getCoreService nToServiceID
      return {
        nToServiceID
        packet := .response sessionID t.serviceID result
          pMessageSerializer.type 0 [] [] }
  | some message =>
      let szMessageName ← pMessageSerializer.getMessageName message
      guard (t.isLocalService nToServiceID)
      let _ ← getCoreService nToServiceID
      let bytes ← pMessageSerializer.serializeMessageToBuf message sizeofBuf
      return {
        nToServiceID
        packet := .response sessionID t.serviceID result pMessageSerializer.type
          szMessageName.chars.length (cStr szMessageName.chars) bytes }

/-- The local part of `gate_forward`. -/
def gateForwardLocal (sessionID : UInt64) (toServiceID : UInt32)
    (message : GateMessage) : Option Delivery := do
  guard (t.isLocalService toServiceID)
  let _ ← getCoreService toServiceID
  return {
    nToServiceID := toServiceID
    packet := .gateForward sessionID t.serviceID message.bytes }

/-- The local part of `send`: the forward serializer is the one of the target. -/
def sendLocal (sessionID : UInt64) (toServiceID : UInt32) (message : μ) :
    Option Delivery := do
  guard (t.isLocalService toServiceID)
  let pToCoreService ← getCoreService toServiceID
  let pMessageSerializer ← pToCoreService.forwardMessageSerializer
  let szMessageName ← pMessageSerializer.getMessageName message
  let bytes ← pMessageSerializer.serializeMessageToBuf message
    (sizeofBuf - sizeofMessageHeader)
  let nMessageSize := (sizeofMessageHeader + bytes.length) % 2 ^ 16
  return {
    nToServiceID := toServiceID
    packet := .toGate sessionID
      ((messageHeader nMessageSize (t.messageID szMessageName).toNat ++
        bytes).take nMessageSize) }

/-- The local part of `broadcast`.  The size of the ids is an `int32_t`, and
nothing is allocated for a negative one; the size of the data is a `uint16_t`. -/
def broadcastLocal (vecSessionID : List UInt64) (toServiceID : UInt32)
    (message : μ) : Option Delivery := do
  guard (¬ vecSessionID.isEmpty)
  guard (t.isLocalService toServiceID)
  let pToCoreService ← getCoreService toServiceID
  let pMessageSerializer ← pToCoreService.forwardMessageSerializer
  let szMessageName ← pMessageSerializer.getMessageName message
  let nSessionLen := 8 * vecSessionID.length % 2 ^ 32
  let bytes ← pMessageSerializer.serializeMessageToBuf message sizeofBuf
  guard (nSessionLen < 2 ^ 31)
  return {
    nToServiceID := toServiceID
    packet := .toGateBroadcast (vecSessionID.length % 2 ^ 16)
      ((sizeofMessageHeader + bytes.length + nSessionLen) % 2 ^ 16)
      ((sessionBytes vecSessionID).take nSessionLen ++
        messageHeader (sizeofMessageHeader + bytes.length)
          (t.messageID szMessageName).toNat ++ bytes) }

/-- What a call puts into the queue of a service of the same node. -/
def localDelivery : Call μ → Option Delivery
  | .invoke toServiceID sessionID message serializerType =>
      t.invokeLocal getCoreService toServiceID sessionID message serializerType
  | .response toServiceID sessionID result message messageSerializerType =>
      t.responseLocal getCoreService toServiceID sessionID result message
        messageSerializerType
  | .gateForward sessionID toServiceID message =>
      t.gateForwardLocal getCoreService sessionID toServiceID message
  | .send sessionID toServiceID message =>
      t.sendLocal getCoreService sessionID toServiceID message
  | .broadcast vecSessionID toServiceID message =>
      t.broadcastLocal getCoreService vecSessionID toServiceID message

variable {t getCoreService}

/-- A call that reaches a queue of its own node puts nothing on a link. -/
theorem call_eq_localQueue {c : Call μ} {delivery : Delivery}
    (h : t.localDelivery getCoreService c = some delivery) :
    t.call c = .localQueue := by
  cases c with
  | invoke toServiceID sessionID message serializerType =>
      simp only [localDelivery, invokeLocal, Option.bind_eq_bind,
        Option.bind_eq_some_iff, Option.guard_eq_some'] at h
      obtain ⟨target, htarget, serializer, hserializer, name, hname, -, hlocal, -⟩ := h
      simp [call, invoke, htarget, hserializer, hname, hlocal]
  | response toServiceID sessionID result message messageSerializerType =>
      simp only [localDelivery, responseLocal, Option.bind_eq_bind,
        Option.bind_eq_some_iff] at h
      obtain ⟨target, htarget, serializer, hserializer, h⟩ := h
      cases message with
      | none =>
          simp only [Option.bind_eq_some_iff, Option.guard_eq_some'] at h
          obtain ⟨-, hlocal, -⟩ := h
          simp [call, response, htarget, hserializer, hlocal]
      | some message =>
          simp only [Option.bind_eq_some_iff, Option.guard_eq_some'] at h
          obtain ⟨name, hname, -, hlocal, -⟩ := h
          simp [call, response, htarget, hserializer, hname, hlocal]
  | gateForward sessionID toServiceID message =>
      simp only [localDelivery, gateForwardLocal, Option.bind_eq_bind,
        Option.bind_eq_some_iff, Option.guard_eq_some'] at h
      obtain ⟨-, hlocal, -⟩ := h
      simp [call, gateForward, hlocal]
  | send sessionID toServiceID message =>
      simp only [localDelivery, sendLocal, Option.bind_eq_bind,
        Option.bind_eq_some_iff, Option.guard_eq_some'] at h
      obtain ⟨-, hlocal, -⟩ := h
      simp [call, send, hlocal]
  | broadcast vecSessionID toServiceID message =>
      simp only [localDelivery, broadcastLocal, Option.bind_eq_bind,
        Option.bind_eq_some_iff, Option.guard_eq_some'] at h
      obtain ⟨-, hne, -, hlocal, -⟩ := h
      simp only [call, broadcast, hlocal]
      simp_all

end Transporter

end RealtimeEx.Core
