import RealtimeEx.Core.DeliveryPaths

/-!
# Local and remote delivery

When does the target's dispatcher get the same packet on the sender's node as on
another one?  The two parts of each operation leave the message different room in
the buffer, a frame holds less than the buffer, `onDispatch` drops a request
without name and data, and `send` and `broadcast` take the forward serializer of the
target in one part and of the sender in the other.
-/

namespace RealtimeEx.Core

variable {μ : Type} {getCoreService : CoreServiceMgr μ} {t : Transporter μ}
  {link : Link}

/-! ## Comparing optional values -/

theorem toList_eq_toList_iff {α : Type} {x y : Option α} :
    x.toList = y.toList ↔ x = y := by
  cases x with
  | none => rw [Option.toList_none, eq_comm, Option.toList_eq_nil_iff, eq_comm]
  | some a =>
      rw [Option.toList_some, eq_comm, Option.toList_eq_singleton_iff, eq_comm]

theorem bind_eq_bind_iff {α β : Type} {x : Option α} {f g : α → Option β} :
    x.bind f = x.bind g ↔ ∀ a, x = some a → f a = g a := by
  cases x with
  | none => simp
  | some a => simp

theorem map_eq_map_iff {α γ : Type} {x y : Option α} {f g : α → γ}
    (h : ∀ a b, x = some a → y = some b → (f a = g b ↔ a = b)) :
    x.map f = y.map g ↔ x = y := by
  cases x with
  | none => cases y <;> simp
  | some a =>
      cases y with
      | none => simp
      | some b => simpa using h a b rfl rfl

/-! ## The messages that get through alike -/

/-- What `invoke`, `response` and `gate_forward` need for the link to make the same
of a message as the queue, and `send` and `broadcast` of both forward serializers. -/
def Transporter.Carries (t : Transporter μ) (getCoreService : CoreServiceMgr μ) :
    Call μ → Prop
  | .invoke toServiceID _ message serializerType =>
      ∀ nToServiceID pMessageSerializer szMessageName,
        t.convert toServiceID = some nToServiceID →
        t.serializer nToServiceID serializerType = some pMessageSerializer →
        pMessageSerializer.getMessageName message = some szMessageName →
        (getCoreService nToServiceID).isSome →
        pMessageSerializer.serializeMessageToBuf message sizeofBuf =
          (carried pMessageSerializer message
            (20 + szMessageName.chars.length)).filter
              fun bytes => szMessageName.chars ≠ [] ∨ bytes ≠ []
  | .response _ _ _ none _ => True
  | .response toServiceID _ _ (some message) messageSerializerType =>
      ∀ nToServiceID pMessageSerializer szMessageName,
        t.convert toServiceID = some nToServiceID →
        t.serializer nToServiceID messageSerializerType = some pMessageSerializer →
        pMessageSerializer.getMessageName message = some szMessageName →
        (getCoreService nToServiceID).isSome →
        pMessageSerializer.serializeMessageToBuf message sizeofBuf =
          carried pMessageSerializer message (24 + szMessageName.chars.length)
  | .gateForward _ toServiceID message =>
      (getCoreService toServiceID).isSome →
        message.bytes ≠ [] ∧ leNat (message.bytes.take 2) = message.bytes.length ∧
          16 + message.bytes.length ≤ maxBody
  | .send _ toServiceID message =>
      ∀ pToCoreService, getCoreService toServiceID = some pToCoreService →
        t.clientMessage pToCoreService.forwardMessageSerializer message
          (fun serializer => serializer.serializeMessageToBuf message
            (sizeofBuf - sizeofMessageHeader)) =
        t.clientMessage t.forwardMessageSerializer message
          fun serializer => carried serializer message 18
  | .broadcast vecSessionID toServiceID message =>
      vecSessionID ≠ [] →
      ∀ pToCoreService, getCoreService toServiceID = some pToCoreService →
        (if 8 * vecSessionID.length % 2 ^ 32 < 2 ^ 31 then
          t.clientMessage pToCoreService.forwardMessageSerializer message
            fun serializer => serializer.serializeMessageToBuf message sizeofBuf
        else none) =
        if 12 + 8 * vecSessionID.length < sizeofBuf then
          t.clientMessage t.forwardMessageSerializer message fun serializer =>
            carried serializer message (12 + 8 * vecSessionID.length)
        else none

/-! ## Each operation -/

theorem invoke_agrees_iff {toServiceID : UInt32} {sessionID : UInt64} {message : μ}
    {serializerType : UInt8} :
    t.remoteDelivery getCoreService link
        (.invoke toServiceID sessionID message serializerType) =
      (t.sameNode.localDelivery getCoreService
        (.invoke toServiceID sessionID message serializerType)).toList ↔
    t.Carries getCoreService (.invoke toServiceID sessionID message serializerType) := by
  rw [remoteDelivery_invoke, localDelivery_invoke, toList_eq_toList_iff]
  simp only [Option.bind_eq_bind, bind_eq_bind_iff, Transporter.Carries]
  constructor
  · intro h target serializer name htarget hserializer hname hservice
    obtain ⟨service, hservice⟩ := Option.isSome_iff_exists.mp hservice
    have hmap := h target htarget serializer hserializer name hname service hservice
    rw [map_eq_map_iff (by simp)] at hmap
    exact hmap.symm
  · intro h target htarget serializer hserializer name hname service hservice
    rw [h target serializer name htarget hserializer hname
      (Option.isSome_of_eq_some hservice)]

theorem response_agrees_iff {toServiceID : UInt32} {sessionID : UInt64}
    {result : UInt32} {message : Option μ} {messageSerializerType : UInt8} :
    t.remoteDelivery getCoreService link
        (.response toServiceID sessionID result message messageSerializerType) =
      (t.sameNode.localDelivery getCoreService
        (.response toServiceID sessionID result message messageSerializerType)).toList ↔
    t.Carries getCoreService
      (.response toServiceID sessionID result message messageSerializerType) := by
  cases message with
  | none =>
      rw [remoteDelivery_response_none]
      exact iff_of_true rfl trivial
  | some message =>
      rw [remoteDelivery_response_some, localDelivery_response_some,
        toList_eq_toList_iff]
      simp only [Option.bind_eq_bind, bind_eq_bind_iff, Transporter.Carries]
      constructor
      · intro h target serializer name htarget hserializer hname hservice
        obtain ⟨service, hservice⟩ := Option.isSome_iff_exists.mp hservice
        have hmap := h target htarget serializer hserializer name hname service hservice
        rw [map_eq_map_iff (by simp)] at hmap
        exact hmap.symm
      · intro h target htarget serializer hserializer name hname service hservice
        rw [h target serializer name htarget hserializer hname
          (Option.isSome_of_eq_some hservice)]

theorem gateForward_agrees_iff {sessionID : UInt64} {toServiceID : UInt32}
    {message : GateMessage} :
    t.remoteDelivery getCoreService link (.gateForward sessionID toServiceID message) =
      (t.sameNode.localDelivery getCoreService
        (.gateForward sessionID toServiceID message)).toList ↔
    t.Carries getCoreService (.gateForward sessionID toServiceID message) := by
  rw [remoteDelivery_gateForward, toList_eq_toList_iff, Transporter.localDelivery,
    Transporter.gateForwardLocal]
  have hlocal : t.sameNode.isLocalService toServiceID = true := rfl
  have hserviceID : t.sameNode.serviceID = t.serviceID := rfl
  cases h : getCoreService toServiceID with
  | none => simp [Transporter.Carries, h, hlocal]
  | some service =>
      simp only [Transporter.Carries, h, hlocal, hserviceID, guard, if_true,
        Option.bind_eq_bind, Option.bind_some, Option.pure_def, Option.isSome_some,
        true_imp_iff]
      by_cases hwhole : message.bytes ≠ [] ∧
          leNat (message.bytes.take 2) = message.bytes.length ∧
            16 + message.bytes.length ≤ maxBody
      · rw [if_pos hwhole]
        exact iff_of_true rfl hwhole
      · rw [if_neg hwhole]
        exact iff_of_false (by simp) hwhole

theorem leBytes_toNat_inj {a b : UInt32} : leBytes 4 a.toNat = leBytes 4 b.toNat ↔ a = b := by
  constructor
  · intro h
    have hnat := congrArg leNat h
    rw [leNat_leBytes, leNat_leBytes] at hnat
    have ha := a.toNat_lt
    have hb := b.toNat_lt
    exact UInt32.toNat_inj.mp (by omega)
  · rintro rfl
    rfl

theorem clientData_inj {a b : UInt32 × List UInt8} : clientData a = clientData b ↔ a = b := by
  constructor
  · intro h
    have hheader := List.append_inj h (by simp)
    have hid := List.append_inj hheader.1 (by simp)
    exact Prod.ext (leBytes_toNat_inj.mp hid.2) hheader.2
  · rintro rfl
    rfl

theorem send_agrees_iff {sessionID : UInt64} {toServiceID : UInt32} {message : μ} :
    t.remoteDelivery getCoreService link (.send sessionID toServiceID message) =
      (t.sameNode.localDelivery getCoreService
        (.send sessionID toServiceID message)).toList ↔
    t.Carries getCoreService (.send sessionID toServiceID message) := by
  rw [remoteDelivery_send, localDelivery_send, toList_eq_toList_iff]
  simp only [Option.bind_eq_bind, bind_eq_bind_iff, Transporter.Carries]
  constructor
  · intro h service hservice
    have hmap := h service hservice
    rw [map_eq_map_iff (by simp [clientData_inj])] at hmap
    exact hmap.symm
  · intro h service hservice
    rw [h service hservice]

theorem length_le_of_clientMessage_carried
    {pMessageSerializer : Option (MessageSerializer μ)} {message : μ} {head : ℕ}
    {m : UInt32 × List UInt8}
    (h : t.clientMessage pMessageSerializer message
      (fun serializer => carried serializer message head) = some m) :
    head + m.2.length ≤ maxBody := by
  simp only [Transporter.clientMessage, carried, Option.bind_eq_bind,
    Option.bind_eq_some_iff, Option.filter_eq_some_iff, decide_eq_true_eq] at h
  obtain ⟨serializer, -, name, -, bytes, ⟨-, hfits⟩, hm⟩ := h
  cases hm
  exact hfits

theorem broadcast_agrees_iff {vecSessionID : List UInt64} {toServiceID : UInt32}
    {message : μ} :
    t.remoteDelivery getCoreService link (.broadcast vecSessionID toServiceID message) =
      (t.sameNode.localDelivery getCoreService
        (.broadcast vecSessionID toServiceID message)).toList ↔
    t.Carries getCoreService (.broadcast vecSessionID toServiceID message) := by
  rw [remoteDelivery_broadcast, localDelivery_broadcast, toList_eq_toList_iff]
  by_cases hempty : vecSessionID = []
  · simp [hempty, Transporter.Carries]
  simp only [Transporter.Carries, ne_eq, hempty, not_false_eq_true, true_imp_iff, guard,
    if_true, Option.bind_eq_bind, Option.pure_def, Option.bind_some, bind_eq_bind_iff]
  apply forall_congr'
  intro service
  apply imp_congr_right
  intro hservice
  by_cases hroom : 12 + 8 * vecSessionID.length < sizeofBuf
  · have hroom' : 12 + 8 * vecSessionID.length < 65535 := hroom
    have hsmall : 8 * vecSessionID.length % 2 ^ 32 < 2 ^ 31 := by omega
    have hlen : 8 * vecSessionID.length % 2 ^ 32 = 8 * vecSessionID.length := by omega
    simp only [hroom, hsmall, if_true, Option.bind_some]
    rw [map_eq_map_iff, eq_comm]
    intro a b ha hb
    have hfits := length_le_of_clientMessage_carried ha
    simp only [maxBody, sizeofMessageHeader] at hfits
    rw [hlen, List.take_of_length_le (by simp)]
    simp only [Delivery.mk.injEq, DispatchPacket.toGateBroadcast.injEq, true_and,
      List.append_cancel_left_eq, clientData_inj, sizeofMessageHeader,
      and_iff_right_iff_imp]
    rintro rfl
    omega
  · simp only [hroom, if_false, Option.failure_eq_none, Option.bind_none]
    by_cases hsmall : 8 * vecSessionID.length % 2 ^ 32 < 2 ^ 31
    · simp only [hsmall, if_true, Option.bind_some]
      rw [eq_comm, Option.map_eq_none_iff]
    · simp only [hsmall, if_false, Option.bind_none]

/-- A call reaches the dispatcher of a target on another node with the packet that a
target on the same node gets exactly if the link carries its message. -/
theorem remoteDelivery_eq_localDelivery_iff (t : Transporter μ)
    (getCoreService : CoreServiceMgr μ) (link : Link) (c : Call μ) :
    t.remoteDelivery getCoreService link c =
      (t.sameNode.localDelivery getCoreService c).toList ↔
    t.Carries getCoreService c := by
  cases c with
  | invoke toServiceID sessionID message serializerType => exact invoke_agrees_iff
  | response toServiceID sessionID result message messageSerializerType =>
      exact response_agrees_iff
  | gateForward sessionID toServiceID message => exact gateForward_agrees_iff
  | send sessionID toServiceID message => exact send_agrees_iff
  | broadcast vecSessionID toServiceID message => exact broadcast_agrees_iff

/-! ## A message that only the queue takes -/

/-- A node whose services forward with the plain serializer. -/
def plainService : CoreServiceMgr (List UInt8) := fun _ =>
  some { forwardMessageSerializer := some plainSerializer }

/-- The buffer holds 65514 bytes behind the cookie of such a request. -/
theorem remoteDelivery_ne_localDelivery_of_lt_length {message : List UInt8}
    (hlt : 65514 < message.length) (hle : message.length ≤ sizeofBuf) :
    plainTransporter.remoteDelivery plainService link (.invoke 2 1 message 1) ≠
      (plainTransporter.sameNode.localDelivery plainService
        (.invoke 2 1 message 1)).toList := by
  intro h
  have hcarries := invoke_agrees_iff.mp h 2 plainSerializer ⟨[109], by decide⟩ rfl rfl
    rfl rfl
  have hqueue : plainSerializer.serializeMessageToBuf message sizeofBuf = some message :=
    if_pos hle
  have hlink : plainSerializer.serializeMessageToBuf message (sizeofBuf - 21) = none :=
    if_neg (Nat.not_le_of_lt hlt)
  have hnone : carried plainSerializer message 21 = none := by
    rw [carried, hlink, Option.filter_none]
  rw [hqueue] at hcarries
  change some message = Option.filter _ (carried plainSerializer message 21) at hcarries
  rw [hnone] at hcarries
  exact Option.some_ne_none _ hcarries

/-- A request of 65520 bytes is delivered on the sender's own node only. -/
theorem remoteDelivery_ne_localDelivery_plainInvoke :
    plainTransporter.remoteDelivery plainService ⟨9, by decide⟩
        (.invoke 2 1 (List.replicate 65520 0) 1) ≠
      (plainTransporter.sameNode.localDelivery plainService
        (.invoke 2 1 (List.replicate 65520 0) 1)).toList := by
  have hlength : (List.replicate 65520 (0 : UInt8)).length = 65520 :=
    List.length_replicate
  apply remoteDelivery_ne_localDelivery_of_lt_length
  · rw [hlength]
    decide
  · rw [hlength]
    decide

end RealtimeEx.Core
