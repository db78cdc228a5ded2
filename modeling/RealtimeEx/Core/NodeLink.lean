import RealtimeEx.Core.Transporter

/-!
# Lossless framing between nodes

A link carries the calls of any number of transporters of one node.  It is
lossless if the receiver, however the stream is cut into reads, dispatches
exactly one frame for every call, with the cookie and the message as they were
handed over, and stays ready for more.

The size field of a header has sixteen bits and counts the header, so a body
of more than 65529 bytes cannot be described by it: the field wraps below the
size of the header and the receiver closes the link, or the body itself is cut
off.  Shorter bodies always arrive.
-/

namespace RealtimeEx.Core

/-! ## One message -/

/-- The longest body whose size, header included, fits the header's
`uint16_t`. -/
def maxBody : ℕ := 2 ^ 16 - 1 - sizeofMessageHeader

/-- The frame the receiver should dispatch. -/
def SocketData.frame (d : SocketData) : Frame where
  messageType := d.messageType.code
  data := d.body

/-- The sizes the path works with do not wrap for a body that fits. -/
theorem wire_eq_of_length_le {d : SocketData}
    (htype : d.messageType ≠ .client)
    (hpos : 0 < d.body.length) (hle : d.body.length ≤ maxBody) :
    d.wire =
      messageHeader (sizeofMessageHeader + d.body.length)
        d.messageType.code.toNat ++ d.body := by
  obtain ⟨socketID, messageType, data, extra⟩ := d
  simp only [SocketData.body, List.length_append, maxBody,
    sizeofMessageHeader] at hpos hle htype
  have hdata : data.length % 2 ^ 16 = data.length := by omega
  have hextra : extra.length % 2 ^ 16 = extra.length := by omega
  have hsize : ∀ content : List UInt8, content = data ++ extra →
      coreConnectionSend messageType content
        (((16 + data.length + extra.length) % 2 ^ 32 - 16) % 2 ^ 16) =
      messageHeader (sizeofMessageHeader + (data ++ extra).length)
        messageType.code.toNat ++ (data ++ extra) := by
    rintro content rfl
    have hcount : ((16 + data.length + extra.length) % 2 ^ 32 - 16) %
        2 ^ 16 = (data ++ extra).length := by
      rw [List.length_append]
      omega
    have hne : (data ++ extra).length ≠ 0 := by
      rw [List.length_append]
      omega
    rw [hcount, coreConnectionSend_of_ne_client htype hne, List.take_length]
  simp only [SocketData.wire, SocketData.body, netRunnableSend,
    baseConnectionMgrSend, hdata, hextra, sizeofSendSocketData]
  split
  · rename_i hnil
    have hnil' := List.length_eq_zero_iff.mp hnil
    subst hnil'
    exact hsize _ (by simp)
  · exact hsize _ (by simp)

/-- A body that fits is one frame, whatever follows it. -/
theorem encodes_wire {d : SocketData}
    (htype : d.messageType ≠ .client)
    (hpos : 0 < d.body.length) (hle : d.body.length ≤ maxBody) :
    messageScanner.Encodes d.wire d.frame := by
  intro ys
  have hwire := wire_eq_of_length_le htype hpos hle
  have hlength : d.wire.length = sizeofMessageHeader + d.body.length := by
    rw [hwire, List.length_append, length_messageHeader]
  have hcode : d.messageType.code.toNat < 256 := UInt8.toNat_lt _
  simp only [maxBody, sizeofMessageHeader] at hle hlength
  have hsize : leNat ((d.wire ++ ys).take 2) = 6 + d.body.length := by
    rw [hwire, messageHeader, List.append_assoc, List.append_assoc,
      List.take_left' (length_leBytes 2 _), leNat_leBytes]
    simp only [sizeofMessageHeader]
    omega
  have htypeID : leNat (((d.wire ++ ys).drop 2).take 4) =
      d.messageType.code.toNat := by
    rw [hwire, messageHeader, List.append_assoc, List.append_assoc,
      List.drop_left' (length_leBytes 2 _),
      List.take_left' (length_leBytes 4 _), leNat_leBytes]
    omega
  refine scanMessage_eq_frame.mpr ⟨?_, ?_, ?_, ?_, ?_⟩
  · simp only [List.length_append, sizeofMessageHeader]
    omega
  · omega
  · simp only [sizeofMessageHeader]
    omega
  · simp
  · rw [htypeID, List.take_left, SocketData.frame]
    congr 1
    · simp
    · rw [hwire, List.drop_left' (length_messageHeader _ _)]

/-! ## What the transporter hands over -/

variable {μ : Type*}

theorem socketData_invoke {t : Transporter μ} {toServiceID : UInt32}
    {sessionID : UInt64} {message : μ} {serializerType : UInt8}
    {d : SocketData}
    (h : (t.invoke toServiceID sessionID message serializerType).socketData =
      some d) :
    ∃ target serializer messageName bytes,
      d = ⟨t.otherNodeSocketID target, .request,
        requestCookice sessionID t.serviceID target
          (MessageSerializer.type (μ := μ) serializer) messageName ++ bytes,
        []⟩ := by
  unfold Transporter.invoke at h
  dsimp only at h
  repeat' split at h
  all_goals
    first
    | (cases h; done)
    | exact ⟨_, _, _, _, (Option.some.inj h).symm⟩

theorem socketData_response {t : Transporter μ} {toServiceID : UInt32}
    {sessionID : UInt64} {result : UInt32} {message : Option μ}
    {messageSerializerType : UInt8} {d : SocketData}
    (h : (t.response toServiceID sessionID result message
      messageSerializerType).socketData = some d) :
    ∃ target serializer messageName bytes,
      d = ⟨t.otherNodeSocketID target, .response,
        responseCookice sessionID t.serviceID target result
          (MessageSerializer.type (μ := μ) serializer) messageName ++ bytes,
        []⟩ := by
  unfold Transporter.response at h
  dsimp only at h
  repeat' split at h
  all_goals
    first
    | (cases h; done)
    | exact ⟨_, _, _, _, (Option.some.inj h).symm⟩

theorem socketData_gateForward {t : Transporter μ} {sessionID : UInt64}
    {toServiceID : UInt32} {message : GateMessage} {d : SocketData}
    (h : (t.gateForward sessionID toServiceID message).socketData = some d) :
    d = ⟨t.otherNodeSocketID toServiceID, .gateForward,
      gateForwardCookice sessionID t.serviceID toServiceID,
      message.bytes⟩ := by
  unfold Transporter.gateForward at h
  repeat' split at h
  all_goals
    first
    | (cases h; done)
    | exact (Option.some.inj h).symm

theorem socketData_toGate {t : Transporter μ}
    {serializer : MessageSerializer μ} {toServiceID : UInt32}
    {messageType : MessageType} {cookice : List UInt8} {message : μ}
    {messageName : MessageName} {d : SocketData}
    (h : (t.toGate serializer toServiceID messageType cookice message
      messageName).socketData = some d) :
    ∃ bytes,
      d = ⟨t.otherNodeSocketID toServiceID, messageType,
        cookice ++ messageHeader (sizeofMessageHeader + bytes.length)
          (t.messageID messageName).toNat ++ bytes, []⟩ := by
  unfold Transporter.toGate at h
  dsimp only at h
  split at h
  · cases h
  · exact ⟨_, (Option.some.inj h).symm⟩

theorem socketData_send {t : Transporter μ} {sessionID : UInt64}
    {toServiceID : UInt32} {message : μ} {d : SocketData}
    (h : (t.send sessionID toServiceID message).socketData = some d) :
    ∃ serializer messageName,
      (t.toGate serializer toServiceID .toGate
        (gateSendCookice sessionID toServiceID) message
        messageName).socketData = some d := by
  unfold Transporter.send at h
  repeat' split at h
  all_goals
    first
    | cases h
    | exact ⟨_, _, h⟩

theorem socketData_broadcast {t : Transporter μ}
    {vecSessionID : List UInt64} {toServiceID : UInt32} {message : μ}
    {d : SocketData}
    (h : (t.broadcast vecSessionID toServiceID message).socketData = some d) :
    ∃ serializer messageName,
      (t.toGate serializer toServiceID .toGateBroadcast
        (gateBroadcastCookice toServiceID vecSessionID) message
        messageName).socketData = some d := by
  unfold Transporter.broadcast at h
  dsimp only at h
  repeat' split at h
  all_goals
    first
    | cases h
    | exact ⟨_, _, h⟩

/-- Every call that reaches a link hands over a non-empty body of one of the
framed message types. -/
theorem socketData_call {t : Transporter μ} {c : Call μ} {d : SocketData}
    (h : (t.call c).socketData = some d) :
    d.messageType ≠ .client ∧ 0 < d.body.length := by
  cases c with
  | invoke toServiceID sessionID message serializerType =>
      obtain ⟨_, _, _, _, rfl⟩ := socketData_invoke h
      refine ⟨nofun, ?_⟩
      simp only [SocketData.body, List.length_append, length_requestCookice]
      omega
  | response toServiceID sessionID result message messageSerializerType =>
      obtain ⟨_, _, _, _, rfl⟩ := socketData_response h
      refine ⟨nofun, ?_⟩
      simp only [SocketData.body, List.length_append, length_responseCookice]
      omega
  | gateForward sessionID toServiceID message =>
      cases socketData_gateForward h
      refine ⟨nofun, ?_⟩
      simp only [SocketData.body, List.length_append,
        length_gateForwardCookice]
      omega
  | send sessionID toServiceID message =>
      obtain ⟨_, _, hgate⟩ := socketData_send h
      obtain ⟨_, rfl⟩ := socketData_toGate hgate
      refine ⟨nofun, ?_⟩
      simp only [SocketData.body, List.length_append, length_gateSendCookice]
      omega
  | broadcast vecSessionID toServiceID message =>
      obtain ⟨_, _, hgate⟩ := socketData_broadcast h
      obtain ⟨_, rfl⟩ := socketData_toGate hgate
      refine ⟨nofun, ?_⟩
      simp only [SocketData.body, List.length_append,
        length_gateBroadcastCookice]
      omega

/-! ## A whole link -/

/-- What the calls of a node put on the link with the given socket, in order;
each call is made by the transporter of some service. -/
def linkData (socketID : UInt64) (calls : List (Transporter μ × Call μ)) :
    List SocketData :=
  (calls.filterMap fun p => (p.1.call p.2).socketData).filter
    fun d => d.socketID = socketID

/-- However the stream is cut into reads, the receiver dispatches exactly the
frames that were handed over, and neither closes the link nor keeps a rest. -/
def Lossless (link : List SocketData) : Prop :=
  ∀ chunks : List (List UInt8),
    chunks.flatten = (link.map SocketData.wire).flatten →
      messageScanner.receiveAll chunks =
        { frames := link.map SocketData.frame, pending := [], closed := false }

/-- No dispatched frame is longer than the size field can say. -/
theorem Lossless.length_le {link : List SocketData} (h : Lossless link) :
    ∀ d ∈ link, d.body.length ≤ maxBody := by
  intro d hd
  have hall := h [(link.map SocketData.wire).flatten] (by simp)
  rw [Scanner.receiveAll_eq_drain] at hall
  have hframe : d.frame ∈ (messageScanner.drain
      [(link.map SocketData.wire).flatten].flatten).frames := by
    rw [hall]
    exact List.mem_map_of_mem hd
  obtain ⟨data, n, hscan⟩ := Scanner.exists_scan_of_mem_drain hframe
  exact length_data_le_of_scan hscan

/-- A link is lossless exactly when every body on it, cookie and message
together, has at most 65529 bytes. -/
theorem lossless_linkData_iff (socketID : UInt64)
    (calls : List (Transporter μ × Call μ)) :
    Lossless (linkData socketID calls) ↔
      ∀ d ∈ linkData socketID calls, d.body.length ≤ maxBody := by
  refine ⟨Lossless.length_le, fun h chunks hchunks => ?_⟩
  rw [Scanner.receiveAll_eq_drain, hchunks]
  refine Scanner.drain_flatten fun d hd => ?_
  obtain ⟨p, -, hp⟩ := List.mem_filterMap.mp (List.mem_filter.mp hd).1
  obtain ⟨htype, hpos⟩ := socketData_call hp
  exact encodes_wire htype hpos (h d hd)

/-! ## A body that does not fit -/

/-- A buffer of 65530 to 65535 bytes makes the size field wrap below the size
of a header, and the receiver gives the link up, whatever follows. -/
theorem drain_wire_of_lt_length {d : SocketData} (ys : List UInt8)
    (htype : d.messageType ≠ .client) (hextra : d.extra = [])
    (hlt : maxBody < d.data.length) (hbuf : d.data.length ≤ sizeofBuf) :
    messageScanner.drain (d.wire ++ ys) = { closed := true } := by
  obtain ⟨socketID, messageType, data, extra⟩ := d
  simp only [maxBody, sizeofMessageHeader, sizeofBuf] at hlt hbuf htype hextra
  subst hextra
  have hdata : data.length % 2 ^ 16 = data.length := by omega
  have hcount : ((16 + data.length) % 2 ^ 32 - 16) % 2 ^ 16 =
      data.length := by omega
  have hwire : SocketData.wire ⟨socketID, messageType, data, []⟩ =
      messageHeader (sizeofMessageHeader + data.length)
        messageType.code.toNat ++ data := by
    simp only [SocketData.wire, netRunnableSend, baseConnectionMgrSend, hdata,
      sizeofSendSocketData, List.length_nil, Nat.zero_mod, if_true,
      List.take_length, hcount]
    rw [coreConnectionSend_of_ne_client htype (by omega), List.take_length]
  refine Scanner.drain_of_broken _ (scanMessage_eq_broken.mpr ⟨?_, ?_⟩)
  · simp only [hwire, List.length_append, length_messageHeader,
      sizeofMessageHeader]
    omega
  · rw [hwire, messageHeader, List.append_assoc, List.append_assoc,
      List.take_left' (length_leBytes 2 _), leNat_leBytes]
    simp only [sizeofMessageHeader]
    omega

/-- A transporter whose serializer copies bytes and whose services all live
behind one socket. -/
def plainSerializer : MessageSerializer (List UInt8) where
  type := 1
  getMessageName _ := some ⟨[109], by decide⟩
  serializeMessageToBuf message size :=
    if message.length ≤ size then some message else none
  length_le h := by
    split at h
    · cases h
      assumption
    · cases h

def plainTransporter : Transporter (List UInt8) where
  serviceID := 1
  serviceIDConverter := none
  serviceMessageSerializer _ := some plainSerializer
  serviceMessageSerializerByType _ := some plainSerializer
  forwardMessageSerializer := some plainSerializer
  isLocalService _ := false
  otherNodeSocketID _ := 9
  messageID _ := 3

/-- A request whose serialized message has the given length. -/
def plainInvoke (length : ℕ) : Transporter (List UInt8) × Call (List UInt8) :=
  (plainTransporter, .invoke 2 1 (List.replicate length 0) 1)

theorem linkData_plainInvoke {length : ℕ} (h : length ≤ 65514) :
    linkData 9 [plainInvoke length] =
      [⟨9, .request, requestCookice 1 1 2 1 ⟨[109], by decide⟩ ++
        List.replicate length 0, []⟩] := by
  have hfit : length ≤ sizeofBuf - 21 := by
    simp only [sizeofBuf]
    omega
  simp [linkData, plainInvoke, plainTransporter, plainSerializer,
    Transporter.call, Transporter.invoke, Transporter.convert,
    Transporter.serializer, Transporter.appendMessage, Transporter.sendBuf,
    Outcome.socketData, hfit]

/-- The body of `plainInvoke` has 21 bytes of cookie. -/
theorem length_plainInvoke (length : ℕ) :
    (requestCookice 1 1 2 1 ⟨[109], by decide⟩ ++
      List.replicate length (0 : UInt8)).length = 21 + length := by
  rw [List.length_append, length_requestCookice, List.length_replicate]
  rfl

theorem not_lossless_of_le {length : ℕ}
    (hle : 65509 ≤ length) (hfit : length ≤ 65514) :
    ¬ Lossless (linkData 9 [plainInvoke length]) ∧
      messageScanner.receiveAll
          ((linkData 9 [plainInvoke length]).map SocketData.wire) =
        { closed := true } := by
  have hlength := length_plainInvoke length
  rw [linkData_plainInvoke hfit]
  constructor
  · intro h
    have hbody := h.length_le _ List.mem_cons_self
    simp only [SocketData.body, List.append_nil, hlength, maxBody,
      sizeofMessageHeader] at hbody
    omega
  · rw [Scanner.receiveAll_eq_drain, List.map_singleton,
      List.flatten_singleton]
    have hdrain := drain_wire_of_lt_length (d := ⟨9, .request,
      requestCookice 1 1 2 1 ⟨[109], by decide⟩ ++
        List.replicate length 0, []⟩) [] nofun rfl
      (by simp only [hlength, maxBody, sizeofMessageHeader]; omega)
      (by simp only [hlength, sizeofBuf]; omega)
    rwa [List.append_nil] at hdrain

/-- A request of 65509 message bytes makes a body of 65530: the call returns
`true`, but the receiver closes the link without dispatching anything. -/
theorem not_lossless_plainInvoke :
    ¬ Lossless (linkData 9 [plainInvoke 65509]) ∧
      messageScanner.receiveAll
          ((linkData 9 [plainInvoke 65509]).map SocketData.wire) =
        { closed := true } :=
  not_lossless_of_le (Nat.le_refl _) (by decide)

end RealtimeEx.Core
