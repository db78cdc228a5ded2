import RealtimeEx.Core.CoreConnection

/-!
# The transporter

This file models the five operations of `CTransporter`.  Each of them looks up
the node of the target service, writes a cookie and the serialized message
into the transporter's buffer of `UINT16_MAX` bytes and hands the buffer to
`CBaseConnectionMgr::send`.  A call for a service of the same node goes to that
service's own message queue instead and puts nothing on a link.
-/

namespace RealtimeEx.Core

/-! ## What a transporter uses -/

/-- A message name, as `getMessageName` writes it into a buffer of
`_MAX_MESSAGE_NAME_LEN` bytes. -/
structure MessageName where
  chars : List UInt8
  length_lt : chars.length < 128

/-- `CMessageSerializer`; a negative size of `serializeMessageToBuf` is
`none`, and a size it returns fits the buffer it was given. -/
structure MessageSerializer (μ : Type*) where
  type : UInt8
  getMessageName : μ → Option MessageName
  serializeMessageToBuf : μ → ℕ → Option (List UInt8)
  length_le : ∀ {message size bytes},
    serializeMessageToBuf message size = some bytes → bytes.length ≤ size

/-- A message of a gate client: a `message_header` and its data, of
`nMessageSize` bytes altogether. -/
structure GateMessage where
  bytes : List UInt8
  length_lt : bytes.length < 2 ^ 16

/-- `CTransporter` with what it reads of its service and of the node. -/
structure Transporter (μ : Type*) where
  serviceID : UInt32
  serviceIDConverter : Option (UInt32 → UInt32)
  serviceMessageSerializer : UInt32 → Option (MessageSerializer μ)
  serviceMessageSerializerByType : UInt8 → Option (MessageSerializer μ)
  forwardMessageSerializer : Option (MessageSerializer μ)
  isLocalService : UInt32 → Bool
  otherNodeSocketID : UInt32 → UInt64
  messageID : MessageName → UInt32

/-- What an operation of the transporter does.  `failed` is the return value
`false`; the others return `true`. -/
inductive Outcome
  | failed
  | nothing
  | localQueue
  | remote (data : SocketData)

/-- The data put on a link, if any. -/
def Outcome.socketData : Outcome → Option SocketData
  | remote data => some data
  | _ => none

/-! ## Cookies -/

/-- The size of `m_szBuf`, `UINT16_MAX`. -/
def sizeofBuf : ℕ := 2 ^ 16 - 1

/-- A `request_cookice` with the name behind it and the terminating zero. -/
def requestCookice (sessionID : UInt64) (fromServiceID toServiceID : UInt32)
    (messageSerializerType : UInt8) (messageName : MessageName) :
    List UInt8 :=
  leBytes 8 sessionID.toNat ++ leBytes 4 fromServiceID.toNat ++
    leBytes 4 toServiceID.toNat ++ [messageSerializerType] ++
    leBytes 2 messageName.chars.length ++ messageName.chars ++ [0]

/-- A `response_cookice` with the name behind it and the terminating zero. -/
def responseCookice (sessionID : UInt64) (fromServiceID toServiceID : UInt32)
    (result : UInt32) (messageSerializerType : UInt8)
    (messageName : List UInt8) : List UInt8 :=
  leBytes 8 sessionID.toNat ++ leBytes 4 fromServiceID.toNat ++
    leBytes 4 toServiceID.toNat ++ leBytes 4 result.toNat ++
    [messageSerializerType] ++ leBytes 2 messageName.length ++
    messageName ++ [0]

/-- A `gate_forward_cookice`. -/
def gateForwardCookice (sessionID : UInt64)
    (fromServiceID toServiceID : UInt32) : List UInt8 :=
  leBytes 8 sessionID.toNat ++ leBytes 4 fromServiceID.toNat ++
    leBytes 4 toServiceID.toNat

/-- A `gate_send_cookice`. -/
def gateSendCookice (sessionID : UInt64) (toServiceID : UInt32) :
    List UInt8 :=
  leBytes 8 sessionID.toNat ++ leBytes 4 toServiceID.toNat

/-- A `gate_broadcast_cookice` with the session ids behind it. -/
def gateBroadcastCookice (toServiceID : UInt32)
    (vecSessionID : List UInt64) : List UInt8 :=
  leBytes 4 toServiceID.toNat ++ leBytes 2 vecSessionID.length ++
    vecSessionID.flatMap fun sessionID => leBytes 8 sessionID.toNat

@[simp] theorem length_requestCookice (sessionID : UInt64)
    (fromServiceID toServiceID : UInt32) (messageSerializerType : UInt8)
    (messageName : MessageName) :
    (requestCookice sessionID fromServiceID toServiceID messageSerializerType
      messageName).length = 20 + messageName.chars.length := by
  simp [requestCookice]
  omega

@[simp] theorem length_responseCookice (sessionID : UInt64)
    (fromServiceID toServiceID result : UInt32)
    (messageSerializerType : UInt8) (messageName : List UInt8) :
    (responseCookice sessionID fromServiceID toServiceID result
      messageSerializerType messageName).length =
        24 + messageName.length := by
  simp [responseCookice]
  omega

@[simp] theorem length_gateForwardCookice (sessionID : UInt64)
    (fromServiceID toServiceID : UInt32) :
    (gateForwardCookice sessionID fromServiceID toServiceID).length = 16 := by
  simp [gateForwardCookice]

@[simp] theorem length_gateSendCookice (sessionID : UInt64)
    (toServiceID : UInt32) :
    (gateSendCookice sessionID toServiceID).length = 12 := by
  simp [gateSendCookice]

@[simp] theorem length_gateBroadcastCookice (toServiceID : UInt32)
    (vecSessionID : List UInt64) :
    (gateBroadcastCookice toServiceID vecSessionID).length =
      6 + 8 * vecSessionID.length := by
  simp [gateBroadcastCookice, List.length_flatMap]
  omega

/-! ## The operations -/

namespace Transporter

variable {μ : Type*} (t : Transporter μ)

/-- The id converter of the service base, if there is one; a converted id of
zero fails the call. -/
def convert (toServiceID : UInt32) : Option UInt32 :=
  match t.serviceIDConverter with
  | none => some toServiceID
  | some converter =>
      if converter toServiceID = 0 then none else some (converter toServiceID)

/-- The serializer a request or response of the given type uses. -/
def serializer (toServiceID : UInt32) (serializerType : UInt8) :
    Option (MessageSerializer μ) :=
  if serializerType = 0 then
    t.serviceMessageSerializer toServiceID
  else
    t.serviceMessageSerializerByType serializerType

/-- Serialize a message behind what is already in the buffer. -/
def appendMessage (serializer : MessageSerializer μ) (message : μ)
    (head : List UInt8) : Option (List UInt8) :=
  serializer.serializeMessageToBuf message (sizeofBuf - head.length)

/-- Hand the buffer to `CBaseConnectionMgr::send`. -/
def sendBuf (socketID : UInt64) (messageType : MessageType)
    (buf : List UInt8) : Outcome :=
  .remote
    { socketID := socketID
      messageType := messageType
      data := buf
      extra := [] }

/-- `CTransporter::invoke`; a null `pInvokeOption` is a serializer type of
zero. -/
def invoke (toServiceID : UInt32) (sessionID : UInt64) (message : μ)
    (serializerType : UInt8) : Outcome :=
  match t.convert toServiceID with
  | none => .failed
  | some toServiceID =>
      match t.serializer toServiceID serializerType with
      | none => .failed
      | some serializer =>
          match serializer.getMessageName message with
          | none => .failed
          | some messageName =>
              if t.isLocalService toServiceID then
                .localQueue
              else if t.otherNodeSocketID toServiceID = 0 then
                .failed
              else
                let cookice := requestCookice sessionID t.serviceID
                  toServiceID serializer.type messageName
                match appendMessage serializer message cookice with
                | none => .failed
                | some bytes =>
                    sendBuf (t.otherNodeSocketID toServiceID) .request
                      (cookice ++ bytes)

/-- `CTransporter::response`; the message may be null. -/
def response (toServiceID : UInt32) (sessionID : UInt64) (result : UInt32)
    (message : Option μ) (messageSerializerType : UInt8) : Outcome :=
  match t.convert toServiceID with
  | none => .failed
  | some toServiceID =>
      match t.serializer toServiceID messageSerializerType with
      | none => .failed
      | some serializer =>
          let name :=
            match message with
            | none => some []
            | some message =>
                (serializer.getMessageName message).map MessageName.chars
          match name with
          | none => .failed
          | some messageName =>
              if t.isLocalService toServiceID then
                .localQueue
              else if t.otherNodeSocketID toServiceID = 0 then
                .failed
              else
                let cookice := responseCookice sessionID t.serviceID
                  toServiceID result serializer.type messageName
                let payload :=
                  match message with
                  | none => some []
                  | some message => appendMessage serializer message cookice
                match payload with
                | none => .failed
                | some bytes =>
                    sendBuf (t.otherNodeSocketID toServiceID) .response
                      (cookice ++ bytes)

/-- `CTransporter::gate_forward`: the client's message is passed on behind a
cookie, with its header. -/
def gateForward (sessionID : UInt64) (toServiceID : UInt32)
    (message : GateMessage) : Outcome :=
  if t.isLocalService toServiceID then
    .localQueue
  else if t.otherNodeSocketID toServiceID = 0 then
    .failed
  else
    .remote
      { socketID := t.otherNodeSocketID toServiceID
        messageType := .gateForward
        data := gateForwardCookice sessionID t.serviceID toServiceID
        extra := message.bytes }

/-- The part common to `send` and `broadcast`: a cookie, the header of the
client's message and the message. -/
def toGate (serializer : MessageSerializer μ) (toServiceID : UInt32)
    (messageType : MessageType) (cookice : List UInt8) (message : μ)
    (messageName : MessageName) : Outcome :=
  let head := cookice.length + sizeofMessageHeader
  match serializer.serializeMessageToBuf message (sizeofBuf - head) with
  | none => .failed
  | some bytes =>
      sendBuf (t.otherNodeSocketID toServiceID) messageType
        (cookice ++
          messageHeader (sizeofMessageHeader + bytes.length)
            (t.messageID messageName).toNat ++
          bytes)

/-- `CTransporter::send`. -/
def send (sessionID : UInt64) (toServiceID : UInt32) (message : μ) :
    Outcome :=
  if t.isLocalService toServiceID then
    .localQueue
  else
    match t.forwardMessageSerializer with
    | none => .failed
    | some serializer =>
        match serializer.getMessageName message with
        | none => .failed
        | some messageName =>
            if t.otherNodeSocketID toServiceID = 0 then
              .failed
            else
              t.toGate serializer toServiceID .toGate
                (gateSendCookice sessionID toServiceID) message messageName

/-- `CTransporter::broadcast`; the cookie has to leave room in the buffer. -/
def broadcast (vecSessionID : List UInt64) (toServiceID : UInt32)
    (message : μ) : Outcome :=
  if vecSessionID.isEmpty then
    .nothing
  else if t.isLocalService toServiceID then
    .localQueue
  else if t.otherNodeSocketID toServiceID = 0 then
    .failed
  else
    match t.forwardMessageSerializer with
    | none => .failed
    | some serializer =>
        match serializer.getMessageName message with
        | none => .failed
        | some messageName =>
            let cookice := gateBroadcastCookice toServiceID vecSessionID
            if cookice.length + sizeofMessageHeader < sizeofBuf then
              t.toGate serializer toServiceID .toGateBroadcast cookice
                message messageName
            else
              .failed

end Transporter

/-- A call of one of the operations. -/
inductive Call (μ : Type*)
  | invoke (toServiceID : UInt32) (sessionID : UInt64) (message : μ)
      (serializerType : UInt8)
  | response (toServiceID : UInt32) (sessionID : UInt64) (result : UInt32)
      (message : Option μ) (messageSerializerType : UInt8)
  | gateForward (sessionID : UInt64) (toServiceID : UInt32)
      (message : GateMessage)
  | send (sessionID : UInt64) (toServiceID : UInt32) (message : μ)
  | broadcast (vecSessionID : List UInt64) (toServiceID : UInt32)
      (message : μ)

/-- The outcome of a call. -/
def Transporter.call {μ : Type*} (t : Transporter μ) : Call μ → Outcome
  | .invoke toServiceID sessionID message serializerType =>
      t.invoke toServiceID sessionID message serializerType
  | .response toServiceID sessionID result message messageSerializerType =>
      t.response toServiceID sessionID result message messageSerializerType
  | .gateForward sessionID toServiceID message =>
      t.gateForward sessionID toServiceID message
  | .send sessionID toServiceID message =>
      t.send sessionID toServiceID message
  | .broadcast vecSessionID toServiceID message =>
      t.broadcast vecSessionID toServiceID message

end RealtimeEx.Core
