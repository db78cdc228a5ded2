import Mathlib.Algebra.Order.Ring.Int
import Mathlib.Data.List.TakeDrop
import RealtimeEx.Core.DeliveryPaths
import RealtimeEx.Core.NetRunnable

/-!
# How a broadcast is packed

`CTransporter::broadcast` packs the ids of a gate's clients, and
`CBaseConnectionMgr::broadcast` the ids of sockets.  Both write the number of ids into a
`uint16_t`, and the first one writes the ids into the transporter's buffer before it
compares their size with the buffer's.
-/

namespace RealtimeEx.Core

/-! ## Ids in memory -/

/-- The first `nCount` ids of a memory. -/
def idsAt : ℕ → List UInt8 → List UInt64
  | 0, _ => []
  | nCount + 1, pData =>
      UInt64.ofNat (leNat (pData.take 8)) :: idsAt nCount (pData.drop 8)

@[simp] theorem length_idsAt (nCount : ℕ) (pData : List UInt8) :
    (idsAt nCount pData).length = nCount := by
  induction nCount generalizing pData with
  | zero => rfl
  | succ nCount ih => rw [idsAt, List.length_cons, ih]

theorem idsAt_sessionBytes (vecID : List UInt64) (pData : List UInt8) :
    idsAt vecID.length (sessionBytes vecID ++ pData) = vecID := by
  induction vecID with
  | nil => rfl
  | cons id vecID ih =>
      have hsplit : sessionBytes (id :: vecID) ++ pData =
          leBytes 8 id.toNat ++ (sessionBytes vecID ++ pData) := by
        simp [sessionBytes]
      have hlt : id.toNat < 256 ^ 8 := id.toNat_lt
      rw [List.length_cons, idsAt, hsplit, List.take_left' (length_leBytes _ _),
        List.drop_left' (length_leBytes _ _), ih, leNat_leBytes, Nat.mod_eq_of_lt hlt,
        UInt64.ofNat_toNat]

/-! ## Clients of a gate -/

/-- What the callback of a gate is called with. -/
structure ToClients where
  vecSessionID : List UInt64
  pData : List UInt8

/-- `CMessageDispatcher::dispatch` of an `eMT_TO_GATE_BROADCAST`. -/
def DispatchPacket.toClients : DispatchPacket → Option ToClients
  | .toGateBroadcast nSessionCount nDataSize pData =>
      some
        { vecSessionID := idsAt nSessionCount pData
          pData := (pData.drop (8 * nSessionCount)).take
            ((nDataSize + 2 ^ 32 - 8 * nSessionCount) % 2 ^ 16) }
  | _ => none

/-- How a call ends, and what has been sent. -/
inductive BroadcastResult
  | returned (bResult : Bool) (deliveries : List Delivery)
  | threw

/-- A call of `CTransporter::broadcast`: the ranges of `m_szBuf` that are written, the
number of ids as it is stored, and how the call ends. -/
structure Packed where
  writes : List (ℕ × ℕ) := []
  nSessionCount : Option ℕ := none
  result : BroadcastResult

variable {μ : Type}

/-- A call that has not failed returns `true`. -/
def Outcome.result (getCoreService : CoreServiceMgr μ) : Outcome → BroadcastResult
  | .failed => .returned false []
  | outcome => .returned true (outcome.deliveries getCoreService)

namespace Transporter

variable (t : Transporter μ) (services : UInt32 → CoreService μ)

/-- `broadcast`, with the services of the node that the target is on.  For a service of
another node the cookie and the ids are in the buffer before there is a check; what is left
of the buffer holds the header and goes to the serializer. -/
def gateBroadcast (vecSessionID : List UInt64) (nToServiceID : UInt32) (message : μ) :
    Packed :=
  if vecSessionID.isEmpty then
    { result := .returned true [] }
  else if t.isLocalService nToServiceID then
    match t.clientMessage (services nToServiceID).forwardMessageSerializer message
        fun serializer => serializer.serializeMessageToBuf message sizeofBuf with
    | none => { result := .returned false [] }
    | some m =>
        match t.broadcastLocal (fun id => some (services id)) vecSessionID nToServiceID
            message with
        | none => { writes := [(0, m.2.length)], result := .threw }
        | some delivery =>
            { writes := [(0, m.2.length)]
              nSessionCount := some (vecSessionID.length % 2 ^ 16)
              result := .returned true [delivery] }
  else if t.otherNodeSocketID nToServiceID = 0 then
    { result := .returned false [] }
  else
    match t.forwardMessageSerializer.bind fun serializer =>
        serializer.getMessageName message with
    | none => { result := .returned false [] }
    | some _ =>
        { writes :=
            (0, 6) :: (6, 6 + 8 * vecSessionID.length) ::
              if 12 + 8 * vecSessionID.length < sizeofBuf then
                [(6 + 8 * vecSessionID.length, sizeofBuf)]
              else
                []
          nSessionCount := some (vecSessionID.length % 2 ^ 16)
          result := (t.broadcast vecSessionID nToServiceID message).result
            fun id => some (services id) }

/-- The client's message of a call. -/
def serialized (vecSessionID : List UInt64) (nToServiceID : UInt32) (message : μ) :
    Option (UInt32 × List UInt8) :=
  if t.isLocalService nToServiceID then
    t.clientMessage (services nToServiceID).forwardMessageSerializer message
      fun serializer => serializer.serializeMessageToBuf message sizeofBuf
  else
    t.clientMessage t.forwardMessageSerializer message
      fun serializer => serializer.serializeMessageToBuf message
        (sizeofBuf - (12 + 8 * vecSessionID.length))

/-- Nothing is written behind the buffer, the number of ids is stored whole, and the gate's
callback is called once with exactly the ids and the message, or the call has returned
`false` and sent nothing.  Without ids there is nothing to send. -/
structure GateExact (vecSessionID : List UInt64) (nToServiceID : UInt32) (message : μ) :
    Prop where
  inside : ∀ r ∈ (t.gateBroadcast services vecSessionID nToServiceID message).writes,
    r.2 ≤ sizeofBuf
  count : ∀ nSessionCount ∈
      (t.gateBroadcast services vecSessionID nToServiceID message).nSessionCount,
    nSessionCount = vecSessionID.length
  delivered :
    (t.gateBroadcast services vecSessionID nToServiceID message).result =
        .returned false [] ∨
      (vecSessionID = [] ∧
        (t.gateBroadcast services vecSessionID nToServiceID message).result =
          .returned true []) ∨
      ∃ m deliveries,
        t.serialized services vecSessionID nToServiceID message = some m ∧
          (t.gateBroadcast services vecSessionID nToServiceID message).result =
            .returned true deliveries ∧
          deliveries.map (fun d => (d.nToServiceID, d.packet.toClients)) =
            [(nToServiceID, some ⟨vecSessionID, clientData m⟩)]

/-- The calls that pack exactly.  On the same node the number of ids and the size of the
client's message are `uint16_t`s; over a link the ids fit the buffer and the whole packet
fits a frame. -/
def GateFits (vecSessionID : List UInt64) (nToServiceID : UInt32) (message : μ) : Prop :=
  vecSessionID ≠ [] →
    if t.isLocalService nToServiceID then
      ∀ m ∈ t.serialized services vecSessionID nToServiceID message,
        vecSessionID.length < 2 ^ 16 ∧ sizeofMessageHeader + m.2.length < 2 ^ 16
    else
      t.otherNodeSocketID nToServiceID ≠ 0 →
        (t.forwardMessageSerializer.bind fun serializer =>
          serializer.getMessageName message).isSome →
        6 + 8 * vecSessionID.length ≤ sizeofBuf ∧
          (12 + 8 * vecSessionID.length < sizeofBuf →
            ∀ m ∈ t.serialized services vecSessionID nToServiceID message,
              12 + 8 * vecSessionID.length + m.2.length ≤ maxBody)

variable {t services} {vecSessionID : List UInt64} {nToServiceID : UInt32} {message : μ}

/-- The packet of a broadcast, if the number of ids is stored whole. -/
theorem toClients_packet (nDataSize : ℕ) (vecSessionID : List UInt64)
    (m : UInt32 × List UInt8) (hcount : vecSessionID.length < 2 ^ 16)
    (hsize : nDataSize % 2 ^ 16 =
      (sizeofMessageHeader + m.2.length + 8 * vecSessionID.length) % 2 ^ 16) :
    (DispatchPacket.toGateBroadcast (vecSessionID.length % 2 ^ 16) nDataSize
        (sessionBytes vecSessionID ++ clientData m)).toClients =
      some ⟨vecSessionID,
        (clientData m).take ((sizeofMessageHeader + m.2.length) % 2 ^ 16)⟩ := by
  have hmod : vecSessionID.length % 2 ^ 16 = vecSessionID.length := Nat.mod_eq_of_lt hcount
  have htake : (nDataSize + 2 ^ 32 - 8 * vecSessionID.length) % 2 ^ 16 =
      (sizeofMessageHeader + m.2.length) % 2 ^ 16 := by
    omega
  rw [DispatchPacket.toClients, hmod, htake, idsAt_sessionBytes,
    List.drop_left' (length_sessionBytes vecSessionID)]

theorem take_clientData_iff (m : UInt32 × List UInt8) :
    (clientData m).take ((sizeofMessageHeader + m.2.length) % 2 ^ 16) = clientData m ↔
      sizeofMessageHeader + m.2.length < 2 ^ 16 := by
  rw [List.take_eq_self_iff, length_clientData]
  omega

/-- A serialized message fits the buffer. -/
theorem length_le_of_clientMessage {serializer? : Option (MessageSerializer μ)} {n : ℕ}
    {m : UInt32 × List UInt8}
    (h : t.clientMessage serializer? message
      (fun serializer => serializer.serializeMessageToBuf message n) = some m) :
    m.2.length ≤ n := by
  simp only [clientMessage, Option.bind_eq_bind, Option.bind_eq_some_iff, Option.pure_def,
    Option.some.injEq] at h
  obtain ⟨serializer, -, name, -, bytes, hbytes, rfl⟩ := h
  exact serializer.length_le hbytes

/-- The packet for a service of the same node. -/
theorem broadcastLocal_eq (hne : vecSessionID ≠ [])
    (hlocal : t.isLocalService nToServiceID = true) {m : UInt32 × List UInt8}
    (hm : t.clientMessage (services nToServiceID).forwardMessageSerializer message
      (fun serializer => serializer.serializeMessageToBuf message sizeofBuf) = some m) :
    t.broadcastLocal (fun id => some (services id)) vecSessionID nToServiceID message =
      if 8 * vecSessionID.length % 2 ^ 32 < 2 ^ 31 then
        some
          { nToServiceID
            packet := .toGateBroadcast (vecSessionID.length % 2 ^ 16)
              ((sizeofMessageHeader + m.2.length +
                8 * vecSessionID.length % 2 ^ 32) % 2 ^ 16)
              ((sessionBytes vecSessionID).take (8 * vecSessionID.length % 2 ^ 32) ++
                clientData m) }
      else
        none := by
  have hsame : t.broadcastLocal (fun id => some (services id)) vecSessionID nToServiceID
      message = t.sameNode.localDelivery (fun id => some (services id))
        (.broadcast vecSessionID nToServiceID message) := by
    simp only [localDelivery, broadcastLocal, sameNode, hlocal]
  rw [hsame, localDelivery_broadcast]
  by_cases hlen : 8 * vecSessionID.length % 2 ^ 32 < 2 ^ 31
  · rw [if_pos hlen]
    simp only [guard, hne, hlen, hm, ne_eq, not_false_eq_true, if_true, Option.pure_def,
      Option.bind_eq_bind, Option.bind_some, Option.map_some]
  · rw [if_neg hlen]
    simp only [guard, hne, hlen, ne_eq, not_false_eq_true, if_true, if_false,
      Option.failure_eq_none, Option.pure_def, Option.bind_eq_bind, Option.bind_some,
      Option.bind_none]

/-- A call that fails before it has written anything. -/
theorem gateExact_of_failed
    (hpacked : t.gateBroadcast services vecSessionID nToServiceID message =
      { result := .returned false [] }) :
    t.GateExact services vecSessionID nToServiceID message := by
  refine ⟨?_, ?_, .inl (by rw [hpacked])⟩
  · rw [hpacked]
    rintro r ⟨⟩
  · rw [hpacked]
    rintro n ⟨⟩

theorem gateExact_local_iff (hne : vecSessionID ≠ [])
    (hlocal : t.isLocalService nToServiceID = true) :
    t.GateExact services vecSessionID nToServiceID message ↔
      t.GateFits services vecSessionID nToServiceID message := by
  have hempty : vecSessionID.isEmpty = false := List.isEmpty_eq_false_iff.mpr hne
  have hserialized : t.serialized services vecSessionID nToServiceID message =
      t.clientMessage (services nToServiceID).forwardMessageSerializer message
        fun serializer => serializer.serializeMessageToBuf message sizeofBuf := by
    rw [serialized, if_pos hlocal]
  cases hm : t.clientMessage (services nToServiceID).forwardMessageSerializer message
      fun serializer => serializer.serializeMessageToBuf message sizeofBuf with
  | none =>
      have hpacked : t.gateBroadcast services vecSessionID nToServiceID message =
          { result := .returned false [] } := by
        simp only [gateBroadcast, hempty, hlocal, hm, Bool.false_eq_true, if_false, if_true]
      refine iff_of_true (gateExact_of_failed hpacked) fun _ => ?_
      rw [if_pos hlocal, hserialized, hm]
      rintro m ⟨⟩
  | some m =>
      have hdelivery := broadcastLocal_eq hne hlocal hm
      by_cases hcount : vecSessionID.length < 2 ^ 16
      · have hlen : 8 * vecSessionID.length % 2 ^ 32 = 8 * vecSessionID.length := by omega
        rw [hlen, if_pos (by omega), List.take_of_length_le (by simp)] at hdelivery
        have hpacked : t.gateBroadcast services vecSessionID nToServiceID message =
            { writes := [(0, m.2.length)]
              nSessionCount := some (vecSessionID.length % 2 ^ 16)
              result := .returned true [
                { nToServiceID
                  packet := .toGateBroadcast (vecSessionID.length % 2 ^ 16)
                    ((sizeofMessageHeader + m.2.length + 8 * vecSessionID.length) % 2 ^ 16)
                    (sessionBytes vecSessionID ++ clientData m) }] } := by
          simp only [gateBroadcast, hempty, hlocal, hm, hdelivery, Bool.false_eq_true,
            if_false, if_true]
        have hclients := toClients_packet _ vecSessionID m hcount (Nat.mod_mod
          (sizeofMessageHeader + m.2.length + 8 * vecSessionID.length) (2 ^ 16))
        constructor
        · intro h _
          rw [if_pos hlocal, hserialized, hm]
          rintro m' ⟨⟩
          refine ⟨hcount, ?_⟩
          obtain hfailed | ⟨hnil, -⟩ | ⟨m', deliveries, hm', hresult, hmap⟩ := h.delivered
          · rw [hpacked] at hfailed
            cases hfailed
          · exact absurd hnil hne
          · rw [hserialized, hm] at hm'
            obtain rfl := Option.some.inj hm'
            rw [hpacked] at hresult
            cases hresult
            rw [List.map_singleton, hclients] at hmap
            have hclient := Option.some.inj (Prod.mk.inj (List.singleton_inj.mp hmap)).2
            exact (take_clientData_iff m).mp (ToClients.mk.inj hclient).2
        · intro h
          have hfits := h hne
          rw [if_pos hlocal, hserialized, hm] at hfits
          have hsize := (hfits m rfl).2
          refine ⟨?_, ?_, .inr (.inr ⟨m, _, hserialized.trans hm, by rw [hpacked], ?_⟩)⟩
          · rw [hpacked]
            intro r hr
            rw [List.mem_singleton.mp hr]
            exact length_le_of_clientMessage hm
          · rw [hpacked]
            rintro n ⟨⟩
            exact Nat.mod_eq_of_lt hcount
          · rw [List.map_singleton, hclients, (take_clientData_iff m).mpr hsize]
      · refine iff_of_false (fun h => ?_) fun h => ?_
        · by_cases hlen : 8 * vecSessionID.length % 2 ^ 32 < 2 ^ 31
          · rw [if_pos hlen] at hdelivery
            have hstored : (t.gateBroadcast services vecSessionID nToServiceID
                message).nSessionCount = some (vecSessionID.length % 2 ^ 16) := by
              simp only [gateBroadcast, hempty, hlocal, hm, hdelivery, Bool.false_eq_true,
                if_false, if_true]
            have hwhole := h.count _ hstored
            omega
          · rw [if_neg hlen] at hdelivery
            have hthrew : (t.gateBroadcast services vecSessionID nToServiceID
                message).result = .threw := by
              simp only [gateBroadcast, hempty, hlocal, hm, hdelivery, Bool.false_eq_true,
                if_false, if_true]
            obtain hresult | ⟨-, hresult⟩ | ⟨m', deliveries, -, hresult, -⟩ := h.delivered
            · rw [hthrew] at hresult
              cases hresult
            · rw [hthrew] at hresult
              cases hresult
            · rw [hthrew] at hresult
              cases hresult
        · have hfits := h hne
          rw [if_pos hlocal, hserialized, hm] at hfits
          exact hcount (hfits m rfl).1

/-- A call for a service of another node whose ids fit the buffer, up to the serializer. -/
theorem broadcast_eq_toGate (hne : vecSessionID ≠ [])
    (hlocal : t.isLocalService nToServiceID = false)
    (hsocket : t.otherNodeSocketID nToServiceID ≠ 0)
    (hroom : 12 + 8 * vecSessionID.length < sizeofBuf)
    {serializer : MessageSerializer μ} {messageName : MessageName}
    (hserializer : t.forwardMessageSerializer = some serializer)
    (hname : serializer.getMessageName message = some messageName) :
    t.broadcast vecSessionID nToServiceID message =
      t.toGate serializer nToServiceID .toGateBroadcast
        (gateBroadcastCookice nToServiceID vecSessionID) message messageName := by
  have hempty : vecSessionID.isEmpty = false := List.isEmpty_eq_false_iff.mpr hne
  have hcookice : (gateBroadcastCookice nToServiceID vecSessionID).length +
      sizeofMessageHeader < sizeofBuf := by
    rw [length_gateBroadcastCookice, sizeofMessageHeader]
    omega
  simp only [broadcast, hempty, hlocal, hsocket, hserializer, hname, hcookice,
    Bool.false_eq_true, if_false, if_true]

theorem broadcast_result_none (services : UInt32 → CoreService μ) (hne : vecSessionID ≠ [])
    (hlocal : t.isLocalService nToServiceID = false)
    (hsocket : t.otherNodeSocketID nToServiceID ≠ 0)
    (hroom : 12 + 8 * vecSessionID.length < sizeofBuf)
    {serializer : MessageSerializer μ} {messageName : MessageName}
    (hserializer : t.forwardMessageSerializer = some serializer)
    (hname : serializer.getMessageName message = some messageName)
    (hbytes : serializer.serializeMessageToBuf message
      (sizeofBuf - (12 + 8 * vecSessionID.length)) = none) :
    (t.broadcast vecSessionID nToServiceID message).result
      (fun id => some (services id)) = .returned false [] := by
  have hhead : (gateBroadcastCookice nToServiceID vecSessionID).length +
      sizeofMessageHeader = 12 + 8 * vecSessionID.length := by
    rw [length_gateBroadcastCookice, sizeofMessageHeader]
    omega
  rw [broadcast_eq_toGate hne hlocal hsocket hroom hserializer hname, toGate, hhead, hbytes]
  rfl

/-- The packet that arrives over a link, if it fits a frame. -/
theorem broadcast_result_some (services : UInt32 → CoreService μ) (hne : vecSessionID ≠ [])
    (hlocal : t.isLocalService nToServiceID = false)
    (hsocket : t.otherNodeSocketID nToServiceID ≠ 0)
    (hroom : 12 + 8 * vecSessionID.length < sizeofBuf)
    {serializer : MessageSerializer μ} {messageName : MessageName} {bytes : List UInt8}
    (hserializer : t.forwardMessageSerializer = some serializer)
    (hname : serializer.getMessageName message = some messageName)
    (hbytes : serializer.serializeMessageToBuf message
      (sizeofBuf - (12 + 8 * vecSessionID.length)) = some bytes) :
    (t.broadcast vecSessionID nToServiceID message).result
        (fun id => some (services id)) =
      .returned true
        (if 12 + 8 * vecSessionID.length + bytes.length ≤ maxBody then
          [{ nToServiceID
             packet := .toGateBroadcast (vecSessionID.length % 2 ^ 16)
              (8 * vecSessionID.length + (sizeofMessageHeader + bytes.length))
              (sessionBytes vecSessionID ++
                clientData (t.messageID messageName, bytes)) }]
        else
          []) := by
  have hhead : (gateBroadcastCookice nToServiceID vecSessionID).length +
      sizeofMessageHeader = 12 + 8 * vecSessionID.length := by
    rw [length_gateBroadcastCookice, sizeofMessageHeader]
    omega
  have htoGate := broadcast_eq_toGate hne hlocal hsocket hroom hserializer hname
  have hsent : ∃ data, t.broadcast vecSessionID nToServiceID message = .remote data := by
    rw [htoGate, toGate, hhead, hbytes]
    exact ⟨_, rfl⟩
  have hresult : (t.broadcast vecSessionID nToServiceID message).result
      (fun id => some (services id)) =
        .returned true ((t.broadcast vecSessionID nToServiceID message).deliveries
          fun id => some (services id)) := by
    obtain ⟨data, hdata⟩ := hsent
    rw [hdata]
    rfl
  have hdispatch : onDispatch (fun id => some (services id))
      { messageType := MessageType.toGateBroadcast.code
        data := gateBroadcastCookice nToServiceID vecSessionID ++
          clientData (t.messageID messageName, bytes) } =
      some
        { nToServiceID
          packet := .toGateBroadcast (vecSessionID.length % 2 ^ 16)
            (8 * vecSessionID.length + (sizeofMessageHeader + bytes.length))
            (sessionBytes vecSessionID ++
              clientData (t.messageID messageName, bytes)) } := by
    have hbranch : ∀ pData, onDispatch (fun id => some (services id))
        { messageType := MessageType.toGateBroadcast.code, data := pData } =
          onDispatchToGateBroadcast (fun id => some (services id)) pData := fun _ => rfl
    rw [hbranch, onDispatchToGateBroadcast_gateBroadcastCookice, length_clientData]
    rfl
  rw [hresult, htoGate, deliveries_toGate serializer nToServiceID message messageName
    MessageType.noConfusion (by omega), carried, hhead, hbytes, Option.filter_some]
  by_cases hfits : 12 + 8 * vecSessionID.length + bytes.length ≤ maxBody
  · rw [if_pos (decide_eq_true hfits), if_pos hfits, Option.bind_some, hdispatch]
    rfl
  · rw [if_neg (by simpa using hfits), if_neg hfits]
    rfl

theorem gateExact_remote_iff (hne : vecSessionID ≠ [])
    (hlocal : t.isLocalService nToServiceID = false) :
    t.GateExact services vecSessionID nToServiceID message ↔
      t.GateFits services vecSessionID nToServiceID message := by
  have hempty : vecSessionID.isEmpty = false := List.isEmpty_eq_false_iff.mpr hne
  have hnot : ¬ t.isLocalService nToServiceID = true := by
    rw [hlocal]
    decide
  by_cases hsocket : t.otherNodeSocketID nToServiceID = 0
  · have hpacked : t.gateBroadcast services vecSessionID nToServiceID message =
        { result := .returned false [] } := by
      simp only [gateBroadcast, hempty, hlocal, hsocket, Bool.false_eq_true, if_false,
        if_true]
    refine iff_of_true (gateExact_of_failed hpacked) fun _ => ?_
    rw [if_neg hnot]
    exact fun h => absurd hsocket h
  cases hname : t.forwardMessageSerializer.bind fun serializer =>
      serializer.getMessageName message with
  | none =>
      have hpacked : t.gateBroadcast services vecSessionID nToServiceID message =
          { result := .returned false [] } := by
        simp only [gateBroadcast, hempty, hlocal, hsocket, hname, Bool.false_eq_true,
          if_false]
      refine iff_of_true (gateExact_of_failed hpacked) fun _ => ?_
      rw [if_neg hnot, hname]
      rintro - ⟨⟩
  | some messageName =>
      obtain ⟨serializer, hserializer, hmessageName⟩ := Option.bind_eq_some_iff.mp hname
      have hserialized : t.serialized services vecSessionID nToServiceID message =
          (serializer.serializeMessageToBuf message
            (sizeofBuf - (12 + 8 * vecSessionID.length))).map fun bytes =>
              (t.messageID messageName, bytes) := by
        rw [serialized, if_neg hnot, clientMessage, hserializer]
        simp only [Option.bind_eq_bind, Option.bind_some, hmessageName, Option.pure_def,
          Option.map_eq_bind, Function.comp_def]
      have hpacked : t.gateBroadcast services vecSessionID nToServiceID message =
          { writes := (0, 6) :: (6, 6 + 8 * vecSessionID.length) ::
              if 12 + 8 * vecSessionID.length < sizeofBuf then
                [(6 + 8 * vecSessionID.length, sizeofBuf)]
              else
                []
            nSessionCount := some (vecSessionID.length % 2 ^ 16)
            result := (t.broadcast vecSessionID nToServiceID message).result
              fun id => some (services id) } := by
        simp only [gateBroadcast, hempty, hlocal, hsocket, hname, Bool.false_eq_true,
          if_false]
      have hfits : t.GateFits services vecSessionID nToServiceID message ↔
          6 + 8 * vecSessionID.length ≤ sizeofBuf ∧
            (12 + 8 * vecSessionID.length < sizeofBuf →
              ∀ m ∈ t.serialized services vecSessionID nToServiceID message,
                12 + 8 * vecSessionID.length + m.2.length ≤ maxBody) := by
        rw [GateFits, if_neg hnot, hname]
        exact ⟨fun h => h hne hsocket rfl, fun h _ _ _ => h⟩
      rw [hfits]
      have hbuf : sizeofBuf = 65535 := rfl
      constructor
      · intro h
        have hids : 6 + 8 * vecSessionID.length ≤ sizeofBuf := by
          have hinside := h.inside
          rw [hpacked] at hinside
          exact hinside (6, 6 + 8 * vecSessionID.length) (by simp)
        refine ⟨hids, fun hroom m hm => ?_⟩
        rw [hserialized] at hm
        obtain ⟨bytes, hbytes, rfl⟩ := Option.map_eq_some_iff.mp hm
        have hresult := broadcast_result_some services hne hlocal hsocket hroom
          hserializer hmessageName hbytes
        by_contra hlong
        rw [if_neg hlong] at hresult
        obtain hfailed | ⟨hnil, -⟩ | ⟨m', deliveries, -, hsent, hmap⟩ := h.delivered
        · rw [hpacked, hresult] at hfailed
          cases hfailed
        · exact hne hnil
        · rw [hpacked, hresult] at hsent
          cases hsent
          cases hmap
      · rintro ⟨hids, hframe⟩
        have hcount : vecSessionID.length < 2 ^ 16 := by omega
        refine ⟨?_, ?_, ?_⟩
        · rw [hpacked]
          intro r hr
          by_cases hroom : 12 + 8 * vecSessionID.length < sizeofBuf
          · simp only [hroom, if_true, List.mem_cons, List.not_mem_nil, or_false] at hr
            obtain rfl | rfl | rfl := hr
            · decide
            · exact hids
            · exact Nat.le_refl _
          · simp only [hroom, if_false, List.mem_cons, List.not_mem_nil, or_false] at hr
            obtain rfl | rfl := hr
            · decide
            · exact hids
        · rw [hpacked]
          rintro n ⟨⟩
          exact Nat.mod_eq_of_lt hcount
        · rw [hpacked]
          by_cases hroom : 12 + 8 * vecSessionID.length < sizeofBuf
          · cases hbytes : serializer.serializeMessageToBuf message
                (sizeofBuf - (12 + 8 * vecSessionID.length)) with
            | none =>
                exact .inl (broadcast_result_none services hne hlocal hsocket hroom hserializer
                  hmessageName hbytes)
            | some bytes =>
                have hm : t.serialized services vecSessionID nToServiceID message =
                    some (t.messageID messageName, bytes) := by
                  rw [hserialized, hbytes, Option.map_some]
                have hlong : 12 + 8 * vecSessionID.length + bytes.length ≤ maxBody :=
                  hframe hroom _ hm
                have hresult := broadcast_result_some services hne hlocal
                  hsocket hroom hserializer hmessageName hbytes
                rw [if_pos hlong] at hresult
                have hclients := toClients_packet
                  (8 * vecSessionID.length + (sizeofMessageHeader + bytes.length))
                  vecSessionID (t.messageID messageName, bytes) hcount (by
                    rw [Nat.add_comm])
                have hsize : sizeofMessageHeader + bytes.length < 2 ^ 16 := by
                  rw [maxBody] at hlong
                  omega
                refine .inr (.inr ⟨_, _, hm, hresult, ?_⟩)
                rw [List.map_singleton, hclients, (take_clientData_iff _).mpr hsize]
          · refine .inl ?_
            have hcookice : ¬ (gateBroadcastCookice nToServiceID vecSessionID).length +
                sizeofMessageHeader < sizeofBuf := by
              rw [length_gateBroadcastCookice, sizeofMessageHeader]
              omega
            simp only [broadcast, hempty, hlocal, hsocket, hserializer, hmessageName,
              hcookice, Bool.false_eq_true, if_false, Outcome.result]

/-- `CTransporter::broadcast` packs exactly if and only if the call fits. -/
theorem gateExact_iff : t.GateExact services vecSessionID nToServiceID message ↔
    t.GateFits services vecSessionID nToServiceID message := by
  by_cases hne : vecSessionID = []
  · subst hne
    have hpacked : t.gateBroadcast services [] nToServiceID message =
        { result := .returned true [] } := rfl
    refine iff_of_true ⟨?_, ?_, .inr (.inl ⟨rfl, by rw [hpacked]⟩)⟩
      fun h => absurd rfl h
    · rw [hpacked]
      rintro r ⟨⟩
    · rw [hpacked]
      rintro n ⟨⟩
  · cases hlocal : t.isLocalService nToServiceID with
    | true => exact gateExact_local_iff hne hlocal
    | false => exact gateExact_remote_iff hne hlocal

end Transporter

/-! ## Sockets -/

/-- `sizeof(SMCT_BROADCAST_SOCKET_DATA1)`. -/
def sizeofBroadcastSocketData1 : ℕ := 4

/-- The `SMessagePacket` of an `eMCT_BROADCAST_SOCKET_DATA1`; `content` is what follows the
`SMCT_BROADCAST_SOCKET_DATA1`. -/
structure BroadcastPacket where
  nMessageType : MessageType
  nSocketIDCount : ℕ
  nDataSize : ℕ
  content : List UInt8

/-- `memcpy` to an offset of a memory. -/
def overwrite (memory : List UInt8) (nOffset : ℕ) (pData : List UInt8) : List UInt8 :=
  memory.take nOffset ++ pData ++ memory.drop (nOffset + pData.length)

/-- The data of a message, whose size is a `uint16_t`. -/
abbrev SocketBytes : Type := { pData : List UInt8 // pData.length < 2 ^ 16 }

namespace CBaseConnectionMgr

/-- `broadcast` to a list of sockets.  The memory is allocated for all ids, and the message
is copied behind as many as have been counted. -/
def broadcast (vecSocketID : List UInt64) (nMessageType : MessageType)
    (pData : SocketBytes) : Option BroadcastPacket :=
  if vecSocketID.isEmpty then
    none
  else
    let nSocketIDCount := vecSocketID.length % 2 ^ 16
    some
      { nMessageType
        nSocketIDCount
        nDataSize := (sizeofBroadcastSocketData1 + pData.1.length +
          8 * vecSocketID.length) % 2 ^ 32
        content := overwrite
          (sessionBytes vecSocketID ++ List.replicate pData.1.length 0)
          (8 * nSocketIDCount) pData.1 }

end CBaseConnectionMgr

/-- What `CNetRunnable::onProcess` reads out of the packet. -/
def BroadcastPacket.command (packet : BroadcastPacket) : NetCommand :=
  .broadcastSocketData1 packet.nMessageType
    (idsAt packet.nSocketIDCount packet.content)
    ((packet.content.drop (8 * packet.nSocketIDCount)).take
      ((packet.nDataSize + 2 ^ 64 - sizeofBroadcastSocketData1 -
        8 * packet.nSocketIDCount) % 2 ^ 16))

namespace CBaseConnectionMgr

/-- The number of ids is stored whole, and the network thread reads exactly the ids and the
message.  Without ids nothing is sent. -/
def SocketsExact (vecSocketID : List UInt64) (nMessageType : MessageType)
    (pData : SocketBytes) : Prop :=
  (vecSocketID = [] ∧ broadcast vecSocketID nMessageType pData = none) ∨
    ∃ packet, broadcast vecSocketID nMessageType pData = some packet ∧
      packet.nSocketIDCount = vecSocketID.length ∧
      packet.command = .broadcastSocketData1 nMessageType vecSocketID pData.1

theorem socketsExact_iff (vecSocketID : List UInt64) (nMessageType : MessageType)
    (pData : SocketBytes) :
    SocketsExact vecSocketID nMessageType pData ↔ vecSocketID.length < 2 ^ 16 := by
  by_cases hne : vecSocketID = []
  · subst hne
    exact iff_of_true (.inl ⟨rfl, rfl⟩) (by decide)
  have hempty : vecSocketID.isEmpty = false := List.isEmpty_eq_false_iff.mpr hne
  constructor
  · rintro (⟨hnil, -⟩ | ⟨packet, hpacket, hcount, -⟩)
    · exact absurd hnil hne
    · rw [broadcast, hempty, if_neg (by decide)] at hpacket
      obtain rfl := Option.some.inj hpacket
      have hwhole : vecSocketID.length % 2 ^ 16 = vecSocketID.length := hcount
      omega
  · intro hlt
    have hcount : vecSocketID.length % 2 ^ 16 = vecSocketID.length := Nat.mod_eq_of_lt hlt
    have hdata := pData.2
    have hcontent : overwrite (sessionBytes vecSocketID ++ List.replicate pData.1.length 0)
        (8 * vecSocketID.length) pData.1 = sessionBytes vecSocketID ++ pData.1 := by
      rw [overwrite, List.take_left' (length_sessionBytes vecSocketID),
        List.drop_eq_nil_of_le (by simp), List.append_nil]
    have hsize : ((sizeofBroadcastSocketData1 + pData.1.length +
        8 * vecSocketID.length) % 2 ^ 32 + 2 ^ 64 - sizeofBroadcastSocketData1 -
          8 * vecSocketID.length) % 2 ^ 16 = pData.1.length := by
      rw [sizeofBroadcastSocketData1]
      omega
    refine .inr ⟨_, by rw [broadcast, hempty, if_neg (by decide)], hcount, ?_⟩
    simp only [BroadcastPacket.command, hcount, hcontent, hsize, idsAt_sessionBytes,
      List.drop_left' (length_sessionBytes vecSocketID), List.take_length]

end CBaseConnectionMgr

/-! ## Both -/

/-- A call of one of the two broadcasts. -/
inductive BroadcastCall (μ : Type)
  | gate (vecSessionID : List UInt64) (nToServiceID : UInt32) (message : μ)
  | sockets (vecSocketID : List UInt64) (nMessageType : MessageType) (pData : SocketBytes)

namespace Transporter

variable (t : Transporter μ) (services : UInt32 → CoreService μ)

def BroadcastExact : BroadcastCall μ → Prop
  | .gate vecSessionID nToServiceID message =>
      t.GateExact services vecSessionID nToServiceID message
  | .sockets vecSocketID nMessageType pData =>
      CBaseConnectionMgr.SocketsExact vecSocketID nMessageType pData

def BroadcastFits : BroadcastCall μ → Prop
  | .gate vecSessionID nToServiceID message =>
      t.GateFits services vecSessionID nToServiceID message
  | .sockets vecSocketID _ _ => vecSocketID.length < 2 ^ 16

/-- A broadcast reaches exactly its recipients, or nobody, if and only if it fits. -/
theorem broadcastExact_iff_fits (c : BroadcastCall μ) :
    t.BroadcastExact services c ↔ t.BroadcastFits services c := by
  cases c with
  | gate vecSessionID nToServiceID message => exact gateExact_iff
  | sockets vecSocketID nMessageType pData =>
      exact CBaseConnectionMgr.socketsExact_iff vecSocketID nMessageType pData

/-- A message without content, and a gate on another node. -/
def toOtherNode : Transporter Unit where
  serviceID := 1
  serviceIDConverter := none
  serviceMessageSerializer := fun _ => none
  serviceMessageSerializerByType := fun _ => none
  forwardMessageSerializer := some
    { type := 1
      getMessageName := fun _ => some ⟨[77], by decide⟩
      serializeMessageToBuf := fun _ _ => some []
      length_le := by
        intro message size bytes h
        cases h
        exact Nat.zero_le _ }
  isLocalService := fun _ => false
  otherNodeSocketID := fun _ => 1
  messageID := fun _ => 7

/-- The ids of 8192 clients end seven bytes behind the buffer. -/
theorem not_broadcastExact_clients :
    ¬ toOtherNode.BroadcastExact (fun _ => ⟨none⟩) (.gate (List.replicate 8192 1) 2 ()) := by
  intro h
  have hwrites : ∀ vecSessionID : List UInt64, vecSessionID.isEmpty = false →
      (6, 6 + 8 * vecSessionID.length) ∈
        (toOtherNode.gateBroadcast (fun _ => ⟨none⟩) vecSessionID 2 ()).writes := by
    intro vecSessionID hempty
    simp [gateBroadcast, hempty, toOtherNode]
  have hle := GateExact.inside h _ (hwrites (List.replicate 8192 1) (by simp))
  rw [List.length_replicate] at hle
  exact absurd hle (by decide)

end Transporter

end RealtimeEx.Core
