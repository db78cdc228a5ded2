import RealtimeEx.Core.CoreConnectionDispatch

/-!
# A call with the target on either node

The same call of a transporter, once with the target service on the transporter's
own node and once with the target behind a link, down to the packet that reaches
the target's `CMessageDispatcher`.
-/

namespace RealtimeEx.Core

variable {μ : Type}

/-! ## Two places for the target -/

/-- A node link that is there. -/
structure Link where
  nSocketID : UInt64
  connected : nSocketID ≠ 0

/-- The transporter when its targets are on its own node. -/
def Transporter.sameNode (t : Transporter μ) : Transporter μ :=
  { t with isLocalService := fun _ => true }

/-- The transporter when its targets are behind a link. -/
def Transporter.otherNode (t : Transporter μ) (link : Link) : Transporter μ :=
  { t with
    isLocalService := fun _ => false
    otherNodeSocketID := fun _ => link.nSocketID }

/-- The packets an outcome leads to at the other end of the link. -/
def Outcome.deliveries (getCoreService : CoreServiceMgr μ) (outcome : Outcome) :
    List Delivery :=
  outcome.socketData.toList.flatMap fun d =>
    (messageScanner.drain d.wire).frames.filterMap (onDispatch getCoreService)

/-- What the dispatchers of the other node get of a call. -/
def Transporter.remoteDelivery (t : Transporter μ) (getCoreService : CoreServiceMgr μ)
    (link : Link) (c : Call μ) : List Delivery :=
  ((t.otherNode link).call c).deliveries getCoreService

/-! ## From the buffer to the dispatcher -/

variable {getCoreService : CoreServiceMgr μ}

/-- A whole body of at most 65529 bytes arrives as one frame; the link is closed
over a longer one. -/
theorem deliveries_sendBuf {socketID : UInt64} {messageType : MessageType}
    {buf : List UInt8} (htype : messageType ≠ .client) (hpos : 0 < buf.length)
    (hbuf : buf.length ≤ sizeofBuf) :
    (Transporter.sendBuf socketID messageType buf).deliveries getCoreService =
      if buf.length ≤ maxBody then
        (onDispatch getCoreService
          { messageType := messageType.code, data := buf }).toList
      else [] := by
  let d : SocketData := ⟨socketID, messageType, buf, []⟩
  have hbody : d.body = buf := List.append_nil _
  have hdeliveries : (Transporter.sendBuf socketID messageType buf).deliveries
      getCoreService =
        (messageScanner.drain d.wire).frames.filterMap (onDispatch getCoreService) :=
    List.append_nil _
  rw [hdeliveries]
  split
  · rename_i hle
    have hframes : messageScanner.drain ([d].map SocketData.wire).flatten =
        { frames := [d].map SocketData.frame } := by
      apply Scanner.drain_flatten
      intro d' hd'
      rw [List.mem_singleton.mp hd']
      exact encodes_wire htype (by rwa [hbody]) (by rwa [hbody])
    rw [List.map_singleton, List.flatten_singleton] at hframes
    have hframe : d.frame = { messageType := messageType.code, data := buf } := by
      rw [SocketData.frame, hbody]
    rw [hframes, List.map_singleton, hframe]
    cases h : onDispatch getCoreService
        { messageType := messageType.code, data := buf } with
    | none => rw [List.filterMap_cons_none h, List.filterMap_nil, Option.toList_none]
    | some delivery =>
        rw [List.filterMap_cons_some h, List.filterMap_nil, Option.toList_some]
  · rename_i hlt
    have hclosed := drain_wire_of_lt_length (d := d) [] htype rfl
      (Nat.lt_of_not_le hlt) hbuf
    rw [List.append_nil] at hclosed
    rw [hclosed]
    rfl

/-- What the path over the link makes of a message: it is serialized behind `head`
bytes of the buffer, and both together have to fit a frame. -/
def carried (serializer : MessageSerializer μ) (message : μ) (head : ℕ) :
    Option (List UInt8) :=
  (serializer.serializeMessageToBuf message (sizeofBuf - head)).filter
    fun bytes => head + bytes.length ≤ maxBody

theorem deliveries_appendMessage (socketID : UInt64) (messageType : MessageType)
    (serializer : MessageSerializer μ) (message : μ) (head : List UInt8)
    {outcome : Outcome} (htype : messageType ≠ .client) (hpos : 0 < head.length)
    (hhead : head.length ≤ sizeofBuf)
    (hfailed : Transporter.appendMessage serializer message head = none →
      outcome = .failed)
    (hsent : ∀ bytes, Transporter.appendMessage serializer message head = some bytes →
      outcome = Transporter.sendBuf socketID messageType (head ++ bytes)) :
    outcome.deliveries getCoreService =
      ((carried serializer message head.length).bind fun bytes =>
        onDispatch getCoreService
          { messageType := messageType.code, data := head ++ bytes }).toList := by
  rw [Transporter.appendMessage] at hfailed hsent
  rw [carried]
  cases h : serializer.serializeMessageToBuf message (sizeofBuf - head.length) with
  | none =>
      rw [hfailed h]
      rfl
  | some bytes =>
      have hle := serializer.length_le h
      have hlength : (head ++ bytes).length = head.length + bytes.length :=
        List.length_append
      rw [hsent bytes h, deliveries_sendBuf htype (by omega) (by omega), hlength]
      by_cases hfits : head.length + bytes.length ≤ maxBody
      · simp [hfits, Option.filter]
      · simp [hfits, Option.filter]

theorem bind_guard {α β : Type} (x : Option α) (p : α → Prop) [DecidablePred p]
    (f : α → Option β) :
    (x.bind fun a => (guard (p a) : Option Unit).bind fun _ => f a) =
      (x.filter fun a => p a).bind f := by
  cases x with
  | none => rfl
  | some a =>
      by_cases ha : p a
      · simp [ha, Option.filter_some]
      · simp [ha, Option.filter_some, guard]

theorem bind_bind_map {α β γ : Type} (x : Option α) (y : Option β) (f : α → γ) :
    (x.bind fun a => y.bind fun _ => some (f a)) = y.bind fun _ => x.map f := by
  rw [Option.bind_comm]
  simp only [Option.map_eq_bind, Function.comp_def]

theorem coreConnectionSend_take (messageType : MessageType) (data : List UInt8)
    (size : ℕ) :
    coreConnectionSend messageType (data.take size) size =
      coreConnectionSend messageType data size := by
  cases messageType <;> simp [coreConnectionSend, List.take_take]

/-- The data of `CBaseConnectionMgr::send` and what follows it leave as one buffer,
cut off at the sum of both sizes in sixteen bits. -/
theorem wire_eq_coreConnectionSend {d : SocketData} (hdata : d.data.length < 2 ^ 16)
    (hextra : d.extra.length < 2 ^ 16) :
    d.wire = coreConnectionSend d.messageType d.body (d.body.length % 2 ^ 16) := by
  obtain ⟨socketID, messageType, data, extra⟩ := d
  simp only at hdata hextra
  have hsum : (16 + data.length + extra.length) % 2 ^ 32 - 16 =
      data.length + extra.length := by
    omega
  simp only [SocketData.wire, SocketData.body, netRunnableSend, baseConnectionMgrSend,
    Nat.mod_eq_of_lt hdata, Nat.mod_eq_of_lt hextra, sizeofSendSocketData]
  split
  · rename_i hnil
    rw [List.length_eq_zero_iff] at hnil
    subst hnil
    simp only [List.length_nil, Nat.add_zero] at hsum
    simp only [hsum, List.take_length, List.append_nil]
  · simp only [hsum, List.take_length, List.length_append]

theorem wire_eq_wire_take {d : SocketData} (hdata : d.data.length < 2 ^ 16)
    (hextra : d.extra.length < 2 ^ 16) :
    d.wire = SocketData.wire ⟨d.socketID, d.messageType,
      d.body.take (d.body.length % 2 ^ 16), []⟩ := by
  have hlt : d.body.length % 2 ^ 16 < 2 ^ 16 := Nat.mod_lt _ (by decide)
  have htake : (d.body.take (d.body.length % 2 ^ 16)).length =
      d.body.length % 2 ^ 16 := by
    rw [List.length_take]
    omega
  have hnil : ([] : List UInt8).length < 2 ^ 16 := by decide
  rw [wire_eq_coreConnectionSend hdata hextra,
    wire_eq_coreConnectionSend (by simp only [htake, hlt]) hnil]
  simp only [SocketData.body, List.append_nil] at htake ⊢
  rw [htake, Nat.mod_mod, coreConnectionSend_take]

theorem deliveries_remote {d : SocketData} (hdata : d.data.length < 2 ^ 16)
    (hextra : d.extra.length < 2 ^ 16) :
    (Outcome.remote d).deliveries getCoreService =
      (Transporter.sendBuf d.socketID d.messageType
        (d.body.take (d.body.length % 2 ^ 16))).deliveries getCoreService := by
  simp only [Outcome.deliveries, Outcome.socketData, Transporter.sendBuf,
    Option.toList_some, List.flatMap_singleton, wire_eq_wire_take hdata hextra]

theorem deliveries_sendBuf_nil (socketID : UInt64) (messageType : MessageType) :
    (Transporter.sendBuf socketID messageType []).deliveries getCoreService = [] := by
  have hdrain : messageScanner.drain [] = { pending := [] } :=
    Scanner.drain_of_incomplete _ messageScanner.scan_nil
  simp [Transporter.sendBuf, Outcome.deliveries, Outcome.socketData, SocketData.wire,
    netRunnableSend, baseConnectionMgrSend, sizeofSendSocketData, coreConnectionSend, hdrain]

/-! ## The operations over a link -/

variable {t : Transporter μ} {link : Link}

theorem remoteDelivery_invoke (toServiceID : UInt32) (sessionID : UInt64)
    (message : μ) (serializerType : UInt8) :
    t.remoteDelivery getCoreService link
        (.invoke toServiceID sessionID message serializerType) =
      (do
        let nToServiceID ← t.convert toServiceID
        let pMessageSerializer ← t.serializer nToServiceID serializerType
        let szMessageName ← pMessageSerializer.getMessageName message
        let _ ← getCoreService nToServiceID
        ((carried pMessageSerializer message (20 + szMessageName.chars.length)).filter
            fun bytes => szMessageName.chars ≠ [] ∨ bytes ≠ []).map fun bytes => {
          nToServiceID
          packet := .request sessionID t.serviceID pMessageSerializer.type
            szMessageName.chars.length (Base.cStr szMessageName.chars)
            bytes : Delivery }).toList := by
  have hconvert : (t.otherNode link).convert toServiceID = t.convert toServiceID := rfl
  have hserializer : ∀ target, (t.otherNode link).serializer target serializerType =
      t.serializer target serializerType := fun _ => rfl
  rw [Transporter.remoteDelivery, Transporter.call, Transporter.invoke, hconvert]
  cases t.convert toServiceID with
  | none => rfl
  | some target =>
      simp only [hserializer, Option.bind_eq_bind, Option.bind_some]
      cases t.serializer target serializerType with
      | none => rfl
      | some serializer =>
          simp only [Option.bind_some]
          cases serializer.getMessageName message with
          | none => rfl
          | some name =>
              have hname := name.length_lt
              have hlength := length_requestCookice sessionID t.serviceID target
                serializer.type name
              rw [deliveries_appendMessage link.nSocketID .request serializer message
                (requestCookice sessionID t.serviceID target serializer.type name),
                hlength]
              · have hdispatch : ∀ bytes, onDispatch getCoreService
                    { messageType := MessageType.request.code
                      data := requestCookice sessionID t.serviceID target serializer.type
                        name ++ bytes } = _ := fun bytes =>
                  onDispatchRequest_requestCookice sessionID t.serviceID target
                    serializer.type name bytes
                simp only [hdispatch, Option.bind_eq_bind, Option.pure_def,
                  Option.bind_some]
                rw [bind_guard, bind_bind_map]
              · exact MessageType.noConfusion
              · omega
              · simp only [sizeofBuf]
                omega
              · intro hnone
                simp [hnone, Transporter.otherNode, link.connected]
              · intro bytes hbytes
                simp [hbytes, Transporter.otherNode, link.connected]

theorem remoteDelivery_response_none (toServiceID : UInt32) (sessionID : UInt64)
    (result : UInt32) (messageSerializerType : UInt8) :
    t.remoteDelivery getCoreService link
        (.response toServiceID sessionID result none messageSerializerType) =
      (do
        let nToServiceID ← t.convert toServiceID
        let pMessageSerializer ← t.serializer nToServiceID messageSerializerType
        let _ ← getCoreService nToServiceID
        return {
          nToServiceID
          packet := .response sessionID t.serviceID result pMessageSerializer.type 0
            [] [] : Delivery }).toList := by
  have hconvert : (t.otherNode link).convert toServiceID = t.convert toServiceID := rfl
  have hserializer : ∀ target,
      (t.otherNode link).serializer target messageSerializerType =
        t.serializer target messageSerializerType := fun _ => rfl
  rw [Transporter.remoteDelivery, Transporter.call, Transporter.response, hconvert]
  cases t.convert toServiceID with
  | none => rfl
  | some target =>
      simp only [hserializer, Option.bind_eq_bind, Option.bind_some]
      cases t.serializer target messageSerializerType with
      | none => rfl
      | some serializer =>
          have hlength := length_responseCookice sessionID t.serviceID target result
            serializer.type []
          have hsent : ∀ outcome : Outcome,
              outcome = Transporter.sendBuf link.nSocketID .response
                (responseCookice sessionID t.serviceID target result serializer.type [] ++
                  []) →
              outcome.deliveries getCoreService =
                (onDispatchResponse getCoreService
                  (responseCookice sessionID t.serviceID target result serializer.type
                    [] ++ [])).toList := by
            rintro outcome rfl
            rw [List.append_nil, deliveries_sendBuf MessageType.noConfusion, if_pos]
            · rfl
            · rw [hlength]
              decide
            · rw [hlength]
              decide
            · rw [hlength]
              decide
          have hshort : ([] : List UInt8).length < 128 := by decide
          rw [hsent, onDispatchResponse_responseCookice sessionID t.serviceID target result
            serializer.type hshort []]
          · rfl
          · simp [Transporter.otherNode, link.connected]

theorem remoteDelivery_response_some (toServiceID : UInt32) (sessionID : UInt64)
    (result : UInt32) (message : μ) (messageSerializerType : UInt8) :
    t.remoteDelivery getCoreService link
        (.response toServiceID sessionID result (some message) messageSerializerType) =
      (do
        let nToServiceID ← t.convert toServiceID
        let pMessageSerializer ← t.serializer nToServiceID messageSerializerType
        let szMessageName ← pMessageSerializer.getMessageName message
        let _ ← getCoreService nToServiceID
        (carried pMessageSerializer message
          (24 + szMessageName.chars.length)).map fun bytes => {
            nToServiceID
            packet := .response sessionID t.serviceID result pMessageSerializer.type
              szMessageName.chars.length (Base.cStr szMessageName.chars)
              bytes : Delivery }).toList := by
  have hconvert : (t.otherNode link).convert toServiceID = t.convert toServiceID := rfl
  have hserializer : ∀ target,
      (t.otherNode link).serializer target messageSerializerType =
        t.serializer target messageSerializerType := fun _ => rfl
  rw [Transporter.remoteDelivery, Transporter.call, Transporter.response, hconvert]
  cases t.convert toServiceID with
  | none => rfl
  | some target =>
      simp only [hserializer, Option.bind_eq_bind, Option.bind_some]
      cases t.serializer target messageSerializerType with
      | none => rfl
      | some serializer =>
          simp only [Option.bind_some]
          cases serializer.getMessageName message with
          | none => rfl
          | some name =>
              have hname := name.length_lt
              have hlength := length_responseCookice sessionID t.serviceID target result
                serializer.type name.chars
              rw [deliveries_appendMessage link.nSocketID .response serializer message
                (responseCookice sessionID t.serviceID target result serializer.type
                  name.chars), hlength]
              · have hdispatch : ∀ bytes, onDispatch getCoreService
                    { messageType := MessageType.response.code
                      data := responseCookice sessionID t.serviceID target result
                        serializer.type name.chars ++ bytes } = _ := fun bytes =>
                  onDispatchResponse_responseCookice sessionID t.serviceID target result
                    serializer.type hname bytes
                simp only [hdispatch, Option.bind_eq_bind, Option.pure_def,
                  Option.bind_some]
                rw [bind_bind_map]
              · exact MessageType.noConfusion
              · omega
              · simp only [sizeofBuf]
                omega
              · intro hnone
                simp [hnone, Transporter.otherNode, link.connected]
              · intro bytes hbytes
                simp [hbytes, Transporter.otherNode, link.connected]

theorem remoteDelivery_gateForward (sessionID : UInt64) (toServiceID : UInt32)
    (message : GateMessage) :
    t.remoteDelivery getCoreService link
        (.gateForward sessionID toServiceID message) =
      (do
        let _ ← getCoreService toServiceID
        guard (message.bytes ≠ [] ∧
          leNat (message.bytes.take 2) = message.bytes.length ∧
          16 + message.bytes.length ≤ maxBody)
        return {
          nToServiceID := toServiceID
          packet := .gateForward sessionID t.serviceID
            message.bytes : Delivery }).toList := by
  have hsize := message.length_lt
  have hlength := length_gateForwardCookice sessionID t.serviceID toServiceID
  have hcall : (t.otherNode link).call (.gateForward sessionID toServiceID message) =
      .remote ⟨link.nSocketID, .gateForward,
        gateForwardCookice sessionID t.serviceID toServiceID, message.bytes⟩ := by
    simp [Transporter.call, Transporter.gateForward, Transporter.otherNode,
      link.connected]
  have hdispatch : ∀ pData, onDispatch getCoreService
      { messageType := MessageType.gateForward.code, data := pData } =
        onDispatchGateForward getCoreService pData := fun _ => rfl
  rw [Transporter.remoteDelivery, hcall, deliveries_remote (by simp only; omega) hsize]
  simp only [SocketData.body, List.length_append, hlength]
  rcases Nat.lt_or_ge (16 + message.bytes.length) (2 ^ 16) with hlt | hge
  · rw [Nat.mod_eq_of_lt hlt, List.take_of_length_le (by simp),
      deliveries_sendBuf MessageType.noConfusion (by rw [List.length_append]; omega)
        (by simp only [List.length_append, hlength, sizeofBuf]; omega),
      List.length_append, hlength, hdispatch, onDispatchGateForward_gateForwardCookice]
    by_cases hne : message.bytes = []
    · simp [hne, guard]
    · by_cases hwhole : leNat (message.bytes.take 2) = message.bytes.length
      · by_cases hfits : 16 + message.bytes.length ≤ maxBody <;>
          simp [hne, hwhole, hfits, guard]
      · by_cases hfits : 16 + message.bytes.length ≤ maxBody <;>
          simp [hne, hwhole, hfits, guard]
  · have hlong : ¬ 16 + message.bytes.length ≤ maxBody := by
      simp only [maxBody, sizeofMessageHeader]
      omega
    generalize hbuf : (gateForwardCookice sessionID t.serviceID toServiceID ++
      message.bytes).take ((16 + message.bytes.length) % 2 ^ 16) = buf
    have hshort : buf.length ≤ 16 := by
      rw [← hbuf, List.length_take]
      omega
    have hnone : (Transporter.sendBuf link.nSocketID .gateForward buf).deliveries
        getCoreService = [] := by
      rcases Nat.eq_zero_or_pos buf.length with hzero | hpos
      · rw [List.length_eq_zero_iff.mp hzero, deliveries_sendBuf_nil]
      · rw [deliveries_sendBuf MessageType.noConfusion hpos
          (by simp only [sizeofBuf]; omega), hdispatch,
          onDispatchGateForward_of_length_le hshort, Option.toList_none, ite_self]
    rw [hnone]
    simp [hlong, guard]

/-- A client's message: its header and its data. -/
def clientData (m : UInt32 × List UInt8) : List UInt8 :=
  messageHeader (sizeofMessageHeader + m.2.length) m.1.toNat ++ m.2

@[simp] theorem length_clientData (m : UInt32 × List UInt8) :
    (clientData m).length = sizeofMessageHeader + m.2.length := by
  rw [clientData, List.length_append, length_messageHeader]

/-- The id and the data that a serializer makes of a message for a client. -/
def Transporter.clientMessage (t : Transporter μ)
    (pMessageSerializer : Option (MessageSerializer μ)) (message : μ)
    (serialize : MessageSerializer μ → Option (List UInt8)) :
    Option (UInt32 × List UInt8) := do
  let pMessageSerializer ← pMessageSerializer
  let szMessageName ← pMessageSerializer.getMessageName message
  let bytes ← serialize pMessageSerializer
  return (t.messageID szMessageName, bytes)

theorem clientData_ne_nil (m : UInt32 × List UInt8) : clientData m ≠ [] := by
  rw [← List.length_pos_iff, length_clientData, sizeofMessageHeader]
  omega

theorem deliveries_toGate (serializer : MessageSerializer μ) (toServiceID : UInt32)
    {messageType : MessageType} {cookice : List UInt8} (message : μ)
    (messageName : MessageName) (htype : messageType ≠ .client)
    (hhead : cookice.length + sizeofMessageHeader ≤ sizeofBuf) :
    (t.toGate serializer toServiceID messageType cookice message
        messageName).deliveries getCoreService =
      ((carried serializer message (cookice.length + sizeofMessageHeader)).bind
        fun bytes => onDispatch getCoreService
          { messageType := messageType.code
            data := cookice ++ clientData (t.messageID messageName, bytes) }).toList := by
  rw [Transporter.toGate, carried]
  cases h : serializer.serializeMessageToBuf message
      (sizeofBuf - (cookice.length + sizeofMessageHeader)) with
  | none => rfl
  | some bytes =>
      have hle := serializer.length_le h
      have hlength : (cookice ++ clientData (t.messageID messageName, bytes)).length =
          cookice.length + sizeofMessageHeader + bytes.length := by
        rw [List.length_append, length_clientData, Nat.add_assoc]
      have hpos : 0 < sizeofMessageHeader := by decide
      simp only [List.append_assoc]
      change (Transporter.sendBuf _ _
        (cookice ++ clientData (t.messageID messageName, bytes))).deliveries _ = _
      rw [deliveries_sendBuf htype (by omega) (by omega), hlength]
      by_cases hfits : cookice.length + sizeofMessageHeader + bytes.length ≤ maxBody
      · simp [hfits, Option.filter]
      · simp [hfits, Option.filter]

theorem remoteDelivery_send (sessionID : UInt64) (toServiceID : UInt32) (message : μ) :
    t.remoteDelivery getCoreService link (.send sessionID toServiceID message) =
      (do
        let _ ← getCoreService toServiceID
        (t.clientMessage t.forwardMessageSerializer message
          fun serializer => carried serializer message 18).map fun m => {
            nToServiceID := toServiceID
            packet := .toGate sessionID (clientData m) : Delivery }).toList := by
  have hforward : (t.otherNode link).forwardMessageSerializer =
      t.forwardMessageSerializer := rfl
  rw [Transporter.remoteDelivery, Transporter.call, Transporter.send, hforward,
    Transporter.clientMessage]
  simp only [Transporter.otherNode, link.connected, if_false, Bool.false_eq_true]
  cases t.forwardMessageSerializer with
  | none => cases getCoreService toServiceID <;> rfl
  | some serializer =>
      simp only [Option.bind_eq_bind, Option.bind_some]
      cases serializer.getMessageName message with
      | none => cases getCoreService toServiceID <;> rfl
      | some name =>
          have hlength := length_gateSendCookice sessionID toServiceID
          have hdispatch : ∀ m, onDispatch getCoreService
              { messageType := MessageType.toGate.code
                data := gateSendCookice sessionID toServiceID ++ clientData m } =
              (getCoreService toServiceID).bind fun _ => some {
                nToServiceID := toServiceID
                packet := .toGate sessionID (clientData m) : Delivery } := by
            intro m
            change onDispatchToGate getCoreService _ = _
            rw [onDispatchToGate_gateSendCookice]
            simp [clientData_ne_nil m]
          simp only [Option.bind_some]
          rw [deliveries_toGate serializer toServiceID message name
            MessageType.noConfusion (by rw [hlength]; decide), hlength]
          simp only [hdispatch, bind_bind_map, Option.map_bind, Option.pure_def]
          simp [sizeofMessageHeader, Option.map_eq_bind]

theorem remoteDelivery_broadcast (vecSessionID : List UInt64) (toServiceID : UInt32)
    (message : μ) :
    t.remoteDelivery getCoreService link (.broadcast vecSessionID toServiceID message) =
      (do
        guard (vecSessionID ≠ [])
        let _ ← getCoreService toServiceID
        guard (12 + 8 * vecSessionID.length < sizeofBuf)
        (t.clientMessage t.forwardMessageSerializer message fun serializer =>
            carried serializer message
              (12 + 8 * vecSessionID.length)).map fun m : UInt32 × List UInt8 => {
          nToServiceID := toServiceID
          packet := .toGateBroadcast (vecSessionID.length % 2 ^ 16)
            (8 * vecSessionID.length + (sizeofMessageHeader + m.2.length))
            (sessionBytes vecSessionID ++ clientData m) : Delivery }).toList := by
  have hlength := length_gateBroadcastCookice toServiceID vecSessionID
  have hhead : (gateBroadcastCookice toServiceID vecSessionID).length +
      sizeofMessageHeader = 12 + 8 * vecSessionID.length := by
    rw [hlength, sizeofMessageHeader]
    omega
  rw [Transporter.remoteDelivery, Transporter.call, Transporter.broadcast,
    Transporter.clientMessage]
  simp only [hhead]
  simp only [Transporter.otherNode, link.connected, if_false, Bool.false_eq_true,
    List.isEmpty_iff]
  have hdispatch : ∀ m, onDispatch getCoreService
      { messageType := MessageType.toGateBroadcast.code
        data := gateBroadcastCookice toServiceID vecSessionID ++ clientData m } =
      (getCoreService toServiceID).bind fun _ => some {
        nToServiceID := toServiceID
        packet := .toGateBroadcast (vecSessionID.length % 2 ^ 16)
          (8 * vecSessionID.length + (sizeofMessageHeader + m.2.length))
          (sessionBytes vecSessionID ++ clientData m) : Delivery } := by
    intro m
    change onDispatchToGateBroadcast getCoreService _ = _
    rw [onDispatchToGateBroadcast_gateBroadcastCookice, length_clientData]
    rfl
  by_cases hempty : vecSessionID = []
  · simp [hempty, guard, Outcome.deliveries, Outcome.socketData]
  · simp only [hempty, if_false, ne_eq, not_false_eq_true]
    cases t.forwardMessageSerializer with
    | none => cases getCoreService toServiceID <;> simp [Outcome.deliveries, Outcome.socketData]
    | some serializer =>
        simp only [Option.bind_eq_bind, Option.bind_some]
        cases serializer.getMessageName message with
        | none =>
            cases getCoreService toServiceID <;>
              simp [Outcome.deliveries, Outcome.socketData]
        | some name =>
            by_cases hroom : 12 + 8 * vecSessionID.length < sizeofBuf
            · simp only [hroom, if_true]
              rw [deliveries_toGate serializer toServiceID message name
                MessageType.noConfusion (by omega), hhead]
              simp only [hdispatch, bind_bind_map]
              simp [guard, Option.map_eq_bind, Option.bind_assoc]
            · simp only [hroom, if_false]
              cases getCoreService toServiceID <;>
                simp [Outcome.deliveries, Outcome.socketData, guard]

/-! ## The operations on one node -/

theorem localDelivery_invoke (toServiceID : UInt32) (sessionID : UInt64)
    (message : μ) (serializerType : UInt8) :
    t.sameNode.localDelivery getCoreService
        (.invoke toServiceID sessionID message serializerType) =
      (do
        let nToServiceID ← t.convert toServiceID
        let pMessageSerializer ← t.serializer nToServiceID serializerType
        let szMessageName ← pMessageSerializer.getMessageName message
        let _ ← getCoreService nToServiceID
        (pMessageSerializer.serializeMessageToBuf message sizeofBuf).map fun bytes => {
          nToServiceID
          packet := .request sessionID t.serviceID pMessageSerializer.type
            szMessageName.chars.length (Base.cStr szMessageName.chars)
            bytes : Delivery }) := by
  simp only [Transporter.localDelivery, Transporter.invokeLocal, Option.map_eq_bind]
  rfl

theorem localDelivery_response_some (toServiceID : UInt32) (sessionID : UInt64)
    (result : UInt32) (message : μ) (messageSerializerType : UInt8) :
    t.sameNode.localDelivery getCoreService
        (.response toServiceID sessionID result (some message) messageSerializerType) =
      (do
        let nToServiceID ← t.convert toServiceID
        let pMessageSerializer ← t.serializer nToServiceID messageSerializerType
        let szMessageName ← pMessageSerializer.getMessageName message
        let _ ← getCoreService nToServiceID
        (pMessageSerializer.serializeMessageToBuf message sizeofBuf).map fun bytes => {
          nToServiceID
          packet := .response sessionID t.serviceID result pMessageSerializer.type
            szMessageName.chars.length (Base.cStr szMessageName.chars)
            bytes : Delivery }) := by
  simp only [Transporter.localDelivery, Transporter.responseLocal, Option.map_eq_bind]
  rfl

theorem localDelivery_send (sessionID : UInt64) (toServiceID : UInt32) (message : μ) :
    t.sameNode.localDelivery getCoreService (.send sessionID toServiceID message) =
      (do
        let pToCoreService ← getCoreService toServiceID
        (t.clientMessage pToCoreService.forwardMessageSerializer message
          fun serializer => serializer.serializeMessageToBuf message
            (sizeofBuf - sizeofMessageHeader)).map fun m => {
              nToServiceID := toServiceID
              packet := .toGate sessionID (clientData m) : Delivery }) := by
  have hlocal : t.sameNode.isLocalService toServiceID = true := rfl
  have hid : t.sameNode.messageID = t.messageID := rfl
  simp only [Transporter.localDelivery, Transporter.sendLocal, Transporter.clientMessage,
    hlocal, hid, guard, if_true, Option.bind_eq_bind, Option.pure_def, Option.bind_some,
    Option.map_bind, Function.comp_def, Option.map_some]
  apply Option.bind_congr
  intro service hservice
  apply Option.bind_congr
  intro serializer hserializer
  apply Option.bind_congr
  intro name hname
  apply Option.bind_congr
  intro bytes hbytes
  have hle := serializer.length_le hbytes
  have hfits : (sizeofMessageHeader + bytes.length) % 2 ^ 16 =
      sizeofMessageHeader + bytes.length := by
    simp only [sizeofBuf, sizeofMessageHeader] at hle ⊢
    omega
  rw [hfits, List.take_of_length_le (by simp), clientData]

theorem localDelivery_broadcast (vecSessionID : List UInt64) (toServiceID : UInt32)
    (message : μ) :
    t.sameNode.localDelivery getCoreService
        (.broadcast vecSessionID toServiceID message) =
      (do
        guard (vecSessionID ≠ [])
        let pToCoreService ← getCoreService toServiceID
        guard (8 * vecSessionID.length % 2 ^ 32 < 2 ^ 31)
        (t.clientMessage pToCoreService.forwardMessageSerializer message
          fun serializer => serializer.serializeMessageToBuf message sizeofBuf).map
            fun m : UInt32 × List UInt8 => {
              nToServiceID := toServiceID
              packet := .toGateBroadcast (vecSessionID.length % 2 ^ 16)
                ((sizeofMessageHeader + m.2.length +
                  8 * vecSessionID.length % 2 ^ 32) % 2 ^ 16)
                ((sessionBytes vecSessionID).take (8 * vecSessionID.length % 2 ^ 32) ++
                  clientData m) : Delivery }) := by
  have hlocal : t.sameNode.isLocalService toServiceID = true := rfl
  have hid : t.sameNode.messageID = t.messageID := rfl
  by_cases hempty : vecSessionID = []
  · subst hempty
    rfl
  by_cases hlen : 8 * vecSessionID.length % 2 ^ 32 < 2 ^ 31
  · simp only [Transporter.localDelivery, Transporter.broadcastLocal,
      Transporter.clientMessage, hlocal, hid, hempty, hlen, guard, if_true,
      List.isEmpty_iff, ne_eq, not_false_eq_true, Option.bind_eq_bind, Option.pure_def,
      Option.bind_some, Option.map_bind, Function.comp_def, Option.map_some, clientData,
      List.append_assoc]
  · simp only [Transporter.localDelivery, Transporter.broadcastLocal, hlocal, hid, hempty,
      hlen, guard, if_true, if_false, List.isEmpty_iff, ne_eq, not_false_eq_true,
      Option.bind_eq_bind, Option.failure_eq_none, Option.bind_none,
      Option.bind_fun_none]

end RealtimeEx.Core
