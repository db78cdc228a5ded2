import RealtimeEx.Core.DeliveryPaths
import RealtimeEx.Core.DispatchInFrame
import RealtimeEx.Core.NativeMessageRoundTrip
import RealtimeEx.Db.Database

/-!
# The commands of a database service

`CDbServiceMessageHandler` makes a request for `db::query` of each command another service
has sent.  A command reaches `db::query` as it was sent if and only if it fits into its
length fields and into the frame of a link, or the buffer of the transporter when both
services are on one node.
-/

namespace RealtimeEx.Db

open Base Core

/-! ## The handlers -/

/-- `SSessionInfo`, of the sender of a command. -/
structure SenderInfo where
  nFromServiceID : UInt32
  nSessionID : UInt64
  deriving DecidableEq

/-- The text of a `std::string`, a character for each byte. -/
def text (s : StdString) : String := String.ofList (s.map Char.ofUInt8)

namespace CDbServiceMessageHandler

def callCommandHandler (pCommand : CallCommand) : DbRequest :=
  .call pCommand.channelID pCommand.sql pCommand.args

def deleteCommandHandler (pCommand : DeleteCommand) : DbRequest :=
  .delete pCommand.primaryID (text pCommand.tableName)

def flushCommandHandler (_ : FlushCommand) : DbRequest := .flush

def insertCommandHandler (pCommand : InsertCommand) : DbRequest :=
  .insert (text pCommand.messageName) pCommand.messageContent

def nopCommandHandler (pCommand : NopCommand) : DbRequest := .nop pCommand.channelID

def queryCommandHandler (pCommand : QueryCommand) : DbRequest :=
  .query pCommand.channelID (text pCommand.tableName) pCommand.whereClause pCommand.args

def selectCommandHandler (pCommand : SelectCommand) : DbRequest :=
  .select pCommand.primaryID (text pCommand.tableName)

def updateCommandHandler (pCommand : UpdateCommand) : DbRequest :=
  .update (text pCommand.messageName) pCommand.messageContent

/-- The request the handler of a message hands to `db::query`; the probes of the service's
health are answered by `CCoreService`. -/
def handle : NativeMessage → Option DbRequest
  | .callCommand m => some (callCommandHandler m)
  | .deleteCommand m => some (deleteCommandHandler m)
  | .flushCommand m => some (flushCommandHandler m)
  | .insertCommand m => some (insertCommandHandler m)
  | .nopCommand m => some (nopCommandHandler m)
  | .queryCommand m => some (queryCommandHandler m)
  | .selectCommand m => some (selectCommandHandler m)
  | .updateCommand m => some (updateCommandHandler m)
  | .serviceHealthRequest _ => none
  | .serviceHealthResponse _ => none

end CDbServiceMessageHandler

/-! ## The service -/

/-- `eMST_Native`. -/
def eMST_Native : UInt8 := 3

theorem length_getMessageName_lt (message : NativeMessage) :
    message.getMessageName.length < 128 := by
  cases message <;> exact of_decide_eq_true rfl

/-- `CNativeSerializer`, for the transporter.  What it was used for before does not matter,
so it starts with a new buffer here. -/
def nativeSerializer : MessageSerializer NativeMessage where
  type := eMST_Native
  getMessageName message := some ⟨message.getMessageName, length_getMessageName_lt message⟩
  serializeMessageToBuf message nSize :=
    ((CNativeSerializer.serializeMessageToBuf message nSize).run (CWriteBuf.new uint16Max)).1
  length_le := by
    intro message size bytes h
    rw [CNativeSerializer.serializeMessageToBuf_eq] at h
    split at h
    · cases h
    · rename_i hfits
      cases h
      exact Nat.le_of_not_lt hfits

/-- The names with a handler in the service, the one of the core service included. -/
def registeredHandlers : List (List UInt8) :=
  [nativeName "select_command", nativeName "update_command", nativeName "delete_command",
    nativeName "insert_command", nativeName "call_command", nativeName "query_command",
    nativeName "flush_command", nativeName "nop_command", nativeName "service_health_request"]

/-- `CDbService`, as far as messages for it are dispatched.  No protobuf message has one of
the registered names, so the protobuf serializer does not matter. -/
def dbService : DispatchService NativeMessage where
  serviceMessageHandler szMessageName := decide (szMessageName ∈ registeredHandlers)
  serviceMessageSerializerByType nType :=
    if nType = eMST_Native then some CNativeSerializer.unserializeMessageFromBuf else none
  forwardMessageSerializer := none
  serviceForwardHandler _ := none
  bToGateMessageCallback := false
  bToGateBroadcastMessageCallback := false
  pendingResponseInfo _ := false

/-- What `db::query` gets of a packet, and who has sent it. -/
def queried (packet : DispatchPacket) : Option (SenderInfo × DbRequest) :=
  match (CMessageDispatcher.dispatch dbService packet).result
      fun i => packet.content.getD i 0 with
  | .request nSessionID nFromServiceID _ pMessage =>
      (CDbServiceMessageHandler.handle pMessage).map fun request =>
        (⟨nFromServiceID, nSessionID⟩, request)
  | _ => none

/-! ## A request of the service -/

theorem text_injective : Function.Injective text := by
  intro s t h
  refine List.map_injective_iff.mpr ?_ (String.ofList_injective h)
  intro a b hab
  exact UInt8.toNat_inj.mp (congrArg (fun c : Char => c.val.toNat) hab)

namespace CDbServiceMessageHandler

/-- No two messages become the same request. -/
theorem eq_of_handle_eq {m m' : NativeMessage} {request : DbRequest}
    (h : handle m = some request) (h' : handle m' = some request) : m = m' := by
  have hlast := h.trans h'.symm
  cases m <;> cases m' <;>
    simp only [handle, callCommandHandler, deleteCommandHandler, flushCommandHandler,
      insertCommandHandler, nopCommandHandler, queryCommandHandler, selectCommandHandler,
      updateCommandHandler, Option.some.injEq, reduceCtorEq, DbRequest.call.injEq,
      DbRequest.delete.injEq, DbRequest.insert.injEq, DbRequest.nop.injEq,
      DbRequest.query.injEq, DbRequest.select.injEq, DbRequest.update.injEq,
      text_injective.eq_iff] at h hlast
  · exact congrArg _ (CallCommand.ext hlast.1 hlast.2.1 hlast.2.2)
  · exact congrArg _ (DeleteCommand.ext hlast.1 hlast.2)
  · rfl
  · exact congrArg _ (InsertCommand.ext hlast.1 hlast.2)
  · exact congrArg _ (NopCommand.ext hlast)
  · exact congrArg _ (QueryCommand.ext hlast.1 hlast.2.1 hlast.2.2.1 hlast.2.2.2)
  · exact congrArg _ (SelectCommand.ext hlast.1 hlast.2)
  · exact congrArg _ (UpdateCommand.ext hlast.1 hlast.2)

theorem name_registered {message : NativeMessage} {request : DbRequest}
    (h : handle message = some request) :
    message.getMessageName ∈ registeredHandlers ∧
      cStr message.getMessageName = message.getMessageName := by
  cases message with
  | serviceHealthRequest m => cases h
  | serviceHealthResponse m => cases h
  | _ => exact ⟨of_decide_eq_true rfl, rfl⟩

end CDbServiceMessageHandler

open CDbServiceMessageHandler

/-! ## A command on its way -/

variable {message : NativeMessage} {request : DbRequest}

/-- What `db::query` gets when the bytes of a message arrive. -/
theorem queried_request (nSessionID : UInt64) (nFromServiceID : UInt32) (nMessageNameLen : ℕ)
    {szMessageName : List UInt8} (hname : szMessageName ∈ registeredHandlers)
    (messageData : List UInt8) :
    queried (.request nSessionID nFromServiceID eMST_Native nMessageNameLen szMessageName
        messageData) =
      ((CNativeSerializer.unserializeMessageFromBuf szMessageName messageData).bind
        handle).map fun request => (⟨nFromServiceID, nSessionID⟩, request) := by
  have hbytes : (MemoryReader.bytes 0 messageData.length).result
      (fun i => messageData.getD i 0) = messageData := by
    rw [MemoryReader.result_bytes_of_holds (MemoryReader.holds_getD messageData fun _ => 0)
      (Nat.le_of_eq (Nat.zero_add _)), List.drop_zero, List.take_length]
  have hresult : (CMessageDispatcher.dispatch dbService (.request nSessionID nFromServiceID
      eMST_Native nMessageNameLen szMessageName messageData)).result
        (fun i => messageData.getD i 0) =
      match CNativeSerializer.unserializeMessageFromBuf szMessageName messageData with
      | none => Handled.rejected
      | some pMessage => .request nSessionID nFromServiceID szMessageName pMessage := by
    have hhandler : dbService.serviceMessageHandler szMessageName = true := decide_eq_true hname
    have hnative : dbService.serviceMessageSerializerByType eMST_Native =
        some CNativeSerializer.unserializeMessageFromBuf := by
      simp [dbService]
    rw [CMessageDispatcher.dispatch, CMessageDispatcher.dispatchRequest, result_debugAst,
      if_pos hhandler, hnative]
    dsimp only
    rw [MemoryReader.result_bind, hbytes]
    cases CNativeSerializer.unserializeMessageFromBuf szMessageName messageData <;> rfl
  rw [queried]
  show (match (CMessageDispatcher.dispatch dbService _).result
    (fun i => messageData.getD i 0) with
    | .request nSessionID nFromServiceID _ pMessage => _
    | _ => _) = _
  rw [hresult]
  cases CNativeSerializer.unserializeMessageFromBuf szMessageName messageData <;> rfl

/-- The packed message becomes the request of the message that was sent if and only if that
message is short. -/
theorem queried_packed_iff (hrequest : handle message = some request) (nSessionID : UInt64)
    (nFromServiceID : UInt32) (nMessageNameLen : ℕ)
    (hfits : message.packed.length ≤ uint16Max) :
    queried (.request nSessionID nFromServiceID eMST_Native nMessageNameLen
        (cStr message.getMessageName) message.packed) =
      some (⟨nFromServiceID, nSessionID⟩, request) ↔ message.Short := by
  have hserialize : ((CNativeSerializer.serializeMessageToBuf message uint16Max).run
      (CWriteBuf.new 0)).1 = some message.packed := by
    rw [CNativeSerializer.serializeMessageToBuf_eq, if_neg (Nat.not_lt.mpr hfits)]
  obtain ⟨hname, hcstr⟩ := name_registered hrequest
  rw [← CNativeSerializer.unserialize_serialize_iff (Nat.le_refl _) hserialize, hcstr,
    queried_request nSessionID nFromServiceID nMessageNameLen hname, Option.map_eq_some_iff]
  constructor
  · rintro ⟨request', hbind, heq⟩
    cases heq
    obtain ⟨message', hmessage', hhandle⟩ := Option.bind_eq_some_iff.mp hbind
    rw [hmessage', eq_of_handle_eq hhandle hrequest]
  · intro hback
    exact ⟨request, by rw [hback, Option.bind_some, hrequest], rfl⟩

variable {t : Transporter NativeMessage} {getCoreService : CoreServiceMgr NativeMessage}

theorem serializer_native
    (hserializer : t.serviceMessageSerializerByType eMST_Native = some nativeSerializer)
    (nToServiceID : UInt32) :
    t.serializer nToServiceID eMST_Native = some nativeSerializer := by
  rw [Transporter.serializer, if_neg (by decide), hserializer]

theorem serialize_native (message : NativeMessage) (nSize : ℕ) :
    nativeSerializer.serializeMessageToBuf message nSize =
      if nSize < message.packed.length then none else some message.packed :=
  CNativeSerializer.serializeMessageToBuf_eq message nSize _

/-- A native command is carried over a link if it fits a frame behind its cookie. -/
theorem carried_native (message : NativeMessage) {head : ℕ} :
    carried nativeSerializer message head =
      if head + message.packed.length ≤ maxBody then some message.packed else none := by
  rw [carried, serialize_native]
  by_cases hfits : head + message.packed.length ≤ maxBody
  · have hsize : ¬ sizeofBuf - head < message.packed.length := by
      simp only [sizeofBuf, maxBody] at hfits ⊢
      omega
    rw [if_neg hsize, if_pos hfits]
    simp [Option.filter, hfits]
  · rw [if_neg hfits]
    split
    · rfl
    · simp [Option.filter, hfits]

/-- The command reaches `db::query` as it was sent if and only if it is short and fits: over
a link into a frame behind its cookie and name, on one node into the transporter's
buffer. -/
theorem invoke_queried_iff {toServiceID nToServiceID : UInt32} (link : Link)
    (hrequest : handle message = some request) (nSessionID : UInt64)
    (hconvert : t.convert toServiceID = some nToServiceID)
    (hserializer : t.serviceMessageSerializerByType eMST_Native = some nativeSerializer)
    (hservice : (getCoreService nToServiceID).isSome) :
    ((t.remoteDelivery getCoreService link
          (.invoke toServiceID nSessionID message eMST_Native)).map
        (fun d => (d.nToServiceID, queried d.packet)) =
        [(nToServiceID, some (⟨t.serviceID, nSessionID⟩, request))] ↔
      message.Short ∧
        20 + message.getMessageName.length + message.packed.length ≤ maxBody) ∧
    ((t.sameNode.localDelivery getCoreService
          (.invoke toServiceID nSessionID message eMST_Native)).map
        (fun d => (d.nToServiceID, queried d.packet)) =
        some (nToServiceID, some (⟨t.serviceID, nSessionID⟩, request)) ↔
      message.Short ∧ message.packed.length ≤ sizeofBuf) := by
  obtain ⟨service, hservice⟩ := Option.isSome_iff_exists.mp hservice
  have hname : nativeSerializer.getMessageName message =
      some ⟨message.getMessageName, length_getMessageName_lt message⟩ := rfl
  have hpos : message.getMessageName ≠ [] := by
    intro hempty
    have hregistered := (name_registered hrequest).1
    rw [hempty] at hregistered
    exact absurd hregistered (by decide)
  constructor
  · rw [remoteDelivery_invoke, hconvert, Option.bind_eq_bind, Option.bind_some,
      serializer_native hserializer, Option.bind_eq_bind, Option.bind_some, hname,
      Option.bind_eq_bind, Option.bind_some, hservice, Option.bind_eq_bind, Option.bind_some,
      carried_native]
    have hname' : (message.getMessageName ≠ [] ∨ message.packed ≠ []) := .inl hpos
    by_cases hfits : 20 + message.getMessageName.length + message.packed.length ≤ maxBody
    · have hsize : message.packed.length ≤ uint16Max := by
        simp only [maxBody, uint16Max] at hfits ⊢
        omega
      rw [if_pos hfits, Option.filter_some, if_pos (decide_eq_true hname'), Option.map_some,
        Option.toList_some, List.map_singleton, ← queried_packed_iff hrequest nSessionID
          t.serviceID message.getMessageName.length hsize]
      simp [hfits, nativeSerializer]
    · rw [if_neg hfits]
      simp [hfits]
  · rw [localDelivery_invoke, hconvert, Option.bind_eq_bind, Option.bind_some,
      serializer_native hserializer, Option.bind_eq_bind, Option.bind_some, hname,
      Option.bind_eq_bind, Option.bind_some, hservice, Option.bind_eq_bind, Option.bind_some,
      serialize_native]
    by_cases hfits : message.packed.length ≤ sizeofBuf
    · rw [if_neg (Nat.not_lt.mpr hfits), Option.map_some, Option.map_some,
        ← queried_packed_iff hrequest nSessionID t.serviceID message.getMessageName.length hfits]
      simp [hfits, nativeSerializer]
    · rw [if_pos (Nat.lt_of_not_le hfits)]
      simp [hfits]

/-- The transporter of service 1, whose messages for other services are native. -/
def nativeTransporter : Transporter NativeMessage where
  serviceID := 1
  serviceIDConverter := none
  serviceMessageSerializer _ := none
  serviceMessageSerializerByType nType :=
    if nType = eMST_Native then some nativeSerializer else none
  forwardMessageSerializer := none
  isLocalService _ := false
  otherNodeSocketID _ := 0
  messageID _ := 0

/-- A node with services that forward no messages. -/
def dbServices : CoreServiceMgr NativeMessage := fun _ => some ⟨none⟩

/-- A call with an argument reaches the database service 2 on either node. -/
theorem invoke_queried_callCommand :
    (nativeTransporter.remoteDelivery dbServices ⟨9, by decide⟩
        (.invoke 2 5 (.callCommand ⟨7, [99, 123], [[49]]⟩) eMST_Native)).map
      (fun d => (d.nToServiceID, queried d.packet)) =
        [(2, some (⟨1, 5⟩, .call 7 [99, 123] [[49]]))] ∧
    (nativeTransporter.sameNode.localDelivery dbServices
        (.invoke 2 5 (.callCommand ⟨7, [99, 123], [[49]]⟩) eMST_Native)).map
      (fun d => (d.nToServiceID, queried d.packet)) =
        some (2, some (⟨1, 5⟩, .call 7 [99, 123] [[49]])) := by
  have hshort : NativeMessage.Short (.callCommand ⟨7, [99, 123], [[49]]⟩) :=
    ⟨by decide, by decide, by decide⟩
  have hqueried := invoke_queried_iff (t := nativeTransporter) ⟨9, by decide⟩
    (show handle (.callCommand ⟨7, [99, 123], [[49]]⟩) = some (.call 7 [99, 123] [[49]]) from rfl)
    5 (show nativeTransporter.convert 2 = some 2 from rfl) (by simp [nativeTransporter])
    (show (dbServices 2).isSome from rfl)
  exact ⟨hqueried.1.mpr ⟨hshort, by decide⟩, hqueried.2.mpr ⟨hshort, by decide⟩⟩

end RealtimeEx.Db
