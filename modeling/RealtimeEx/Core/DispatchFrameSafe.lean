import Mathlib.Algebra.Order.Ring.Int
import RealtimeEx.Core.DispatchInFrame

/-!
# Frames that the dispatchers do not leave

The readers of `DispatchInFrame` have the results that the functions of
`CoreConnectionDispatch` have on the bytes of a frame, as long as they stay inside it.
Whether they do, and whether a frame that is too short for its fields is rejected, depends
on the frame for two types of messages only.
-/

namespace RealtimeEx.Core

open Base MemoryReader

/-! ## Fields -/

theorem fieldAt_one {data : List UInt8} {offset : ℕ} (h : offset < data.length) :
    fieldAt data offset 1 = data[offset].toNat := by
  rw [fieldAt, List.drop_eq_getElem_cons h]
  exact Nat.add_zero _

theorem getElem?_eq_some_zero_iff {data : List UInt8} {offset : ℕ} (h : offset < data.length) :
    data[offset]? = some 0 ↔ fieldAt data offset 1 = 0 := by
  rw [fieldAt_one h, List.getElem?_eq_getElem h, Option.some_inj]
  exact (UInt8.toNat_inj (b := 0)).symm

section

variable {frame : List UInt8} {m : Memory} (hm : Holds frame m) {nOffset nSize : ℕ}
include hm

theorem result_readField (hle : nOffset + nSize ≤ frame.length) :
    (readField nOffset nSize).result m = fieldAt frame nOffset nSize :=
  result_number_of_holds hm hle

/-- Reading the rest of a frame. -/
theorem result_bytes_rest (hsize : nOffset + nSize = frame.length) :
    (bytes nOffset nSize).result m = frame.drop nOffset := by
  rw [result_bytes_of_holds hm hsize.le]
  apply List.take_of_length_le
  rw [List.length_drop]
  omega

end

theorem inside_readField_bind_iff {α : Type} {frame : List UInt8} {nOffset nSize : ℕ}
    (hsize : nSize ≠ 0) {next : ℕ → MemoryReader α} :
    (readField nOffset nSize >>= next).Inside frame ↔
      nOffset + nSize ≤ frame.length ∧ (next (fieldAt frame nOffset nSize)).Inside frame :=
  inside_number_bind_iff hsize

/-! ## The bytes that `onDispatch` reads -/

namespace CCoreConnection

variable {μ : Type} {getCoreService : UInt32 → Option (DispatchService μ)}

variable {frame : List UInt8}

theorem inside_onDispatchRequest :
    (onDispatchRequest getCoreService frame.length).Inside frame := by
  rw [onDispatchRequest, inside_debugAst_iff]
  intro hsize
  rw [inside_readField_bind_iff (by decide), inside_debugAst_iff]
  refine ⟨by omega, fun hname => ?_⟩
  simp only [inside_debugAst_iff, inside_readField_bind_iff, inside_bytes_bind_iff, ne_eq,
    OfNat.ofNat_ne_zero, one_ne_zero, not_false_eq_true]
  refine ⟨by omega, fun _ => ⟨by omega, fun _ => ⟨by omega, by omega, by omega, ?_⟩⟩⟩
  exact ⟨.inr (by omega), .inr (by omega), inside_pure _ frame⟩

theorem inside_onDispatchResponse :
    (onDispatchResponse getCoreService frame.length).Inside frame := by
  rw [onDispatchResponse, inside_debugAst_iff]
  intro hsize
  rw [inside_readField_bind_iff (by decide), inside_debugAst_iff]
  refine ⟨by omega, fun hname => ?_⟩
  simp only [inside_debugAst_iff, inside_readField_bind_iff, inside_bytes_bind_iff, ne_eq,
    OfNat.ofNat_ne_zero, one_ne_zero, not_false_eq_true]
  refine ⟨by omega, fun _ => ⟨by omega, fun _ => ⟨by omega, by omega, by omega, by omega, ?_⟩⟩⟩
  exact ⟨.inr (by omega), .inr (by omega), inside_pure _ frame⟩

/-- The size in the header is read when only its first byte has been checked. -/
theorem inside_onDispatchGateForward_iff :
    (onDispatchGateForward getCoreService frame.length).Inside frame ↔
      (16 < frame.length →
        getCoreService (UInt32.ofNat (fieldAt frame 12 4)) ≠ none → 18 ≤ frame.length) := by
  simp only [onDispatchGateForward, inside_debugAst_iff, inside_readField_bind_iff,
    inside_bytes_bind_iff, ne_eq, OfNat.ofNat_ne_zero, not_false_eq_true]
  constructor
  · intro h hsize hservice
    exact ((h hsize).2 hservice).1
  · intro h hsize
    refine ⟨by omega, fun hservice => ⟨h hsize hservice, fun hwhole => ?_⟩⟩
    exact ⟨by omega, by omega, .inr (by omega), inside_pure _ frame⟩

theorem inside_onDispatchToGate :
    (onDispatchToGate getCoreService frame.length).Inside frame := by
  rw [onDispatchToGate, inside_debugAst_iff]
  intro hsize
  simp only [inside_debugAst_iff, inside_readField_bind_iff, inside_bytes_bind_iff, ne_eq,
    OfNat.ofNat_ne_zero, not_false_eq_true]
  exact ⟨by omega, fun _ => ⟨by omega, .inr (by omega), inside_pure _ frame⟩⟩

/-- Nothing is checked; a frame that ends in the cookie makes the size of the data wrap. -/
theorem inside_onDispatchToGateBroadcast_iff (hlt : frame.length < 2 ^ 16) :
    (onDispatchToGateBroadcast getCoreService frame.length).Inside frame ↔
      4 ≤ frame.length ∧
        (getCoreService (UInt32.ofNat (fieldAt frame 0 4)) ≠ none → 6 ≤ frame.length) := by
  simp only [onDispatchToGateBroadcast, inside_debugAst_iff, inside_readField_bind_iff,
    inside_bytes_bind_iff, ne_eq, OfNat.ofNat_ne_zero, not_false_eq_true]
  constructor
  · intro h
    exact ⟨h.1, fun hservice => (h.2 hservice).1⟩
  · intro h
    refine ⟨h.1, fun hservice => ?_⟩
    have hle := h.2 hservice
    exact ⟨hle, .inr (by omega), inside_pure _ frame⟩

end CCoreConnection

/-! ## The results of `onDispatch` -/

/-- What comes out of a function on the bytes of the frame. -/
def deliveredAs (delivery : Option Delivery) : Received :=
  delivery.elim .dropped .service

namespace CCoreConnection

variable {μ : Type} {getCoreService : UInt32 → Option (DispatchService μ)}

section

variable {ν : Type} {mgr : CoreServiceMgr ν} {m : Memory} {next : MemoryReader Received}
  {rest : Option Delivery}

/-- An assertion of the reader and a guard of the function. -/
theorem result_debugAst_guard {bExp bExp' : Prop} [Decidable bExp] [Decidable bExp']
    (hiff : bExp ↔ bExp') (hnext : bExp → next.result m = deliveredAs rest) :
    (debugAst bExp .dropped next).result m = deliveredAs (guard bExp' >>= fun _ => rest) := by
  rw [result_debugAst]
  by_cases h : bExp
  · rw [if_pos h, hnext h, guard, if_pos (hiff.mp h)]
    rfl
  · rw [if_neg h, guard, if_neg (mt hiff.mpr h)]
    rfl

variable (hsame : ∀ nServiceID, mgr nServiceID = none ↔ getCoreService nServiceID = none)
include hsame

theorem result_debugAst_getCoreService {nServiceID : UInt32}
    (hnext : getCoreService nServiceID ≠ none → next.result m = deliveredAs rest) :
    (debugAst (getCoreService nServiceID ≠ none) .dropped next).result m =
      deliveredAs (mgr nServiceID >>= fun _ => rest) := by
  rw [result_debugAst]
  cases hservice : mgr nServiceID with
  | none =>
    rw [if_neg (not_not.mpr ((hsame nServiceID).mp hservice))]
    rfl
  | some service =>
    have hfound : getCoreService nServiceID ≠ none := by
      rw [ne_eq, ← hsame, hservice]
      exact Option.some_ne_none service
    rw [if_pos hfound]
    exact hnext hfound

variable {frame : List UInt8} (hm : Holds frame m)
include hm

theorem result_onDispatchRequest :
    (onDispatchRequest getCoreService frame.length).result m =
      deliveredAs (Core.onDispatchRequest mgr frame) := by
  refine result_debugAst_guard Iff.rfl fun hsize => ?_
  rw [result_bind, result_readField hm (by omega)]
  refine result_debugAst_guard Iff.rfl fun hname => ?_
  rw [result_bind, result_readField hm (by omega)]
  refine result_debugAst_guard (getElem?_eq_some_zero_iff (by omega)).symm fun _ => ?_
  rw [result_bind, result_readField hm (by omega)]
  refine result_debugAst_getCoreService hsame fun _ => ?_
  simp only [result_bind]
  rw [result_readField hm (by omega), result_readField hm (by omega),
    result_readField hm (by omega), result_bytes_of_holds hm (by omega),
    result_bytes_rest hm (by omega)]
  rfl

theorem result_onDispatchResponse :
    (onDispatchResponse getCoreService frame.length).result m =
      deliveredAs (Core.onDispatchResponse mgr frame) := by
  refine result_debugAst_guard Iff.rfl fun hsize => ?_
  rw [result_bind, result_readField hm (by omega)]
  refine result_debugAst_guard Iff.rfl fun hname => ?_
  rw [result_bind, result_readField hm (by omega)]
  refine result_debugAst_guard (getElem?_eq_some_zero_iff (by omega)).symm fun _ => ?_
  rw [result_bind, result_readField hm (by omega)]
  refine result_debugAst_getCoreService hsame fun _ => ?_
  simp only [result_bind]
  rw [result_readField hm (by omega), result_readField hm (by omega),
    result_readField hm (by omega), result_readField hm (by omega),
    result_bytes_of_holds hm (by omega), result_bytes_rest hm (by omega)]
  rfl

theorem result_onDispatchGateForward
    (hinside : (onDispatchGateForward getCoreService frame.length).Inside frame) :
    (onDispatchGateForward getCoreService frame.length).result m =
      deliveredAs (Core.onDispatchGateForward mgr frame) := by
  refine result_debugAst_guard Iff.rfl fun hsize => ?_
  rw [result_bind, result_readField hm (by omega)]
  refine result_debugAst_getCoreService hsame fun hfound => ?_
  have hle := inside_onDispatchGateForward_iff.mp hinside hsize hfound
  rw [result_bind, result_readField hm (by omega)]
  refine result_debugAst_guard Iff.rfl fun hwhole => ?_
  simp only [result_bind]
  rw [result_readField hm (by omega), result_readField hm (by omega),
    result_bytes_of_holds hm (by omega)]
  rfl

theorem result_onDispatchToGate :
    (onDispatchToGate getCoreService frame.length).result m =
      deliveredAs (Core.onDispatchToGate mgr frame) := by
  refine result_debugAst_guard Iff.rfl fun hsize => ?_
  rw [result_bind, result_readField hm (by omega)]
  refine result_debugAst_getCoreService hsame fun _ => ?_
  simp only [result_bind]
  rw [result_readField hm (by omega), result_bytes_rest hm (by omega)]
  rfl

theorem result_onDispatchToGateBroadcast (hlt : frame.length < 2 ^ 16)
    (hinside : (onDispatchToGateBroadcast getCoreService frame.length).Inside frame) :
    (onDispatchToGateBroadcast getCoreService frame.length).result m =
      deliveredAs (Core.onDispatchToGateBroadcast mgr frame) := by
  obtain ⟨hcookie, hservice⟩ := (inside_onDispatchToGateBroadcast_iff hlt).mp hinside
  rw [onDispatchToGateBroadcast, result_bind, result_readField hm (by omega)]
  refine result_debugAst_getCoreService hsame fun hfound => ?_
  have hle := hservice hfound
  have hsize : (frame.length + 2 ^ 16 - 6) % 2 ^ 16 = frame.length - 6 := by omega
  rw [hsize]
  simp only [result_bind]
  rw [result_readField hm (by omega), result_bytes_rest hm (by omega)]
  rfl

end

end CCoreConnection

/-! ## The bytes that `dispatch` reads -/

namespace CMessageDispatcher

variable {μ : Type} {service : DispatchService μ}

theorem inside_dispatchRequest {nSessionID : UInt64} {nFromServiceID : UInt32}
    {nMessageSerializerType : UInt8} {szMessageName messageData : List UInt8} :
    (dispatchRequest service nSessionID nFromServiceID nMessageSerializerType szMessageName
      messageData.length).Inside messageData := by
  rw [dispatchRequest, inside_debugAst_iff]
  intro _
  split
  · exact inside_pure _ _
  · rw [inside_bytes_bind_iff]
    refine ⟨.inr (by omega), ?_⟩
    split
    · exact inside_pure _ _
    · exact inside_pure _ _

theorem inside_dispatchResponse {nSessionID : UInt64} {nResult : UInt32}
    {nMessageSerializerType : UInt8} {nMessageNameLen : ℕ}
    {szMessageName messageData : List UInt8} :
    (dispatchResponse service nSessionID nResult nMessageSerializerType nMessageNameLen
      szMessageName messageData.length).Inside messageData := by
  rw [dispatchResponse, inside_debugAst_iff]
  intro _
  split
  · exact inside_debugAst_iff.mpr fun _ => inside_pure _ _
  · split
    · exact inside_pure _ _
    · rw [inside_bytes_bind_iff]
      refine ⟨.inr (by omega), ?_⟩
      split
      · exact inside_pure _ _
      · exact inside_debugAst_iff.mpr fun _ => inside_pure _ _

/-- The id of the message is read whatever the size in its header is. -/
theorem inside_dispatchGateForward_iff {nSessionID : UInt64} {nFromServiceID : UInt32}
    {header : List UInt8} (hwhole : fieldAt header 0 2 = header.length) :
    (dispatchGateForward service nSessionID nFromServiceID).Inside header ↔
      (service.forwardMessageSerializer ≠ none → 6 ≤ header.length) := by
  rw [dispatchGateForward]
  split
  · rename_i hnone
    exact iff_of_true (inside_pure _ _) fun hsome => absurd hnone hsome
  · rename_i unserializeMessageFromBuf hsome
    rw [hsome, inside_readField_bind_iff (by decide)]
    constructor
    · intro h _
      exact h.1
    · intro h
      have hlength : 6 ≤ header.length := h (Option.some_ne_none _)
      refine ⟨hlength, ?_⟩
      split
      · exact inside_pure _ _
      · rw [inside_readField_bind_iff (by decide), inside_bytes_bind_iff, hwhole,
          sizeofMessageHeader]
        refine ⟨by omega, .inr (by omega), ?_⟩
        split
        · exact inside_pure _ _
        · exact inside_pure _ _

end CMessageDispatcher

/-! ## Both dispatchers -/

section

variable {μ : Type} (getCoreService : UInt32 → Option (DispatchService μ))

/-- Both dispatchers stay inside the frame, and unless it fits nothing comes of it. -/
structure SafeWith (r : MemoryReader Received) (fits : Prop) (frame : List UInt8) : Prop where
  inside_onDispatch : r.Inside frame
  inside_dispatch : ∀ m, Holds frame m → ∀ delivery, r.result m = .service delivery →
    ∀ service, getCoreService delivery.nToServiceID = some service →
      (CMessageDispatcher.dispatch service delivery.packet).Inside delivery.packet.content
  rejected : ¬ fits → ∀ m, Holds frame m → ∀ delivery, r.result m = .service delivery →
    ∀ service, getCoreService delivery.nToServiceID = some service →
      ∀ m', Holds delivery.packet.content m' →
        (CMessageDispatcher.dispatch service delivery.packet).result m' = .rejected

/-- The cookie of a frame, its name, the header of its message and its session ids fit
its size. -/
def Fits (nMessageType : UInt8) (frame : List UInt8) : Prop :=
  if nMessageType = MessageType.request.code then
    20 ≤ frame.length ∧ 20 + fieldAt frame 17 2 ≤ frame.length
  else if nMessageType = MessageType.response.code then
    24 ≤ frame.length ∧ 24 + fieldAt frame 21 2 ≤ frame.length
  else if nMessageType = MessageType.gateForward.code then
    22 ≤ frame.length ∧ 16 + fieldAt frame 16 2 = frame.length
  else if nMessageType = MessageType.toGate.code then
    12 ≤ frame.length
  else if nMessageType = MessageType.toGateBroadcast.code then
    6 ≤ frame.length ∧ 6 + 8 * fieldAt frame 4 2 ≤ frame.length
  else
    True

/-- The dispatchers of a node link stay inside a frame, and reject it if it does not fit. -/
def FrameSafe (nMessageType : UInt8) (frame : List UInt8) : Prop :=
  SafeWith getCoreService (CCoreConnection.onDispatch getCoreService nMessageType frame.length)
    (Fits nMessageType frame) frame

/-- A forwarded message has the header that is read, and a broadcast its cookie and its
session ids. -/
structure InFrame (nMessageType : UInt8) (frame : List UInt8) : Prop where
  gateForward : nMessageType = MessageType.gateForward.code → 16 < frame.length →
    ∀ service, getCoreService (UInt32.ofNat (fieldAt frame 12 4)) = some service →
      18 ≤ frame.length ∧
        (16 + fieldAt frame 16 2 = frame.length →
          service.forwardMessageSerializer ≠ none → 22 ≤ frame.length)
  toGateBroadcast : nMessageType = MessageType.toGateBroadcast.code →
    4 ≤ frame.length ∧
      ∀ service, getCoreService (UInt32.ofNat (fieldAt frame 0 4)) = some service →
        6 ≤ frame.length ∧
          (service.bToGateBroadcastMessageCallback = true →
            6 + 8 * fieldAt frame 4 2 ≤ frame.length)

/-- The services, as `onDispatch` asks for them. -/
def knownServices : CoreServiceMgr μ := fun nServiceID =>
  (getCoreService nServiceID).map fun _ => { forwardMessageSerializer := none }

end

section

variable {μ ν : Type} {getCoreService : UInt32 → Option (DispatchService μ)}
  {mgr : CoreServiceMgr ν} {frame : List UInt8} {delivery : Delivery}

theorem knownServices_eq_none_iff (nServiceID : UInt32) :
    knownServices getCoreService nServiceID = none ↔ getCoreService nServiceID = none :=
  Option.map_eq_none_iff

theorem received_eq_service_iff {o : Option Delivery} :
    deliveredAs o = .service delivery ↔ o = some delivery := by
  cases o with
  | none => exact iff_of_false (by simp [deliveredAs]) (Option.some_ne_none delivery).symm
  | some d => simp [deliveredAs]

theorem guard_eq_some {bExp : Prop} [Decidable bExp] {u : Unit} :
    (guard bExp : Option Unit) = some u ↔ bExp := by
  rw [guard]
  split
  · rename_i h
    exact iff_of_true rfl h
  · rename_i h
    exact iff_of_false (Option.some_ne_none u).symm h

theorem of_onDispatchRequest (h : onDispatchRequest mgr frame = some delivery) :
    20 + fieldAt frame 17 2 ≤ frame.length ∧
      ∃ nSessionID nFromServiceID nType nNameLen szName data,
        delivery.packet = .request nSessionID nFromServiceID nType nNameLen szName data := by
  simp only [onDispatchRequest, Option.bind_eq_bind, Option.bind_eq_some_iff, guard_eq_some,
    Option.pure_def, Option.some_inj] at h
  obtain ⟨_, _, _, hname, _, _, _, _, rfl⟩ := h
  exact ⟨hname, _, _, _, _, _, _, rfl⟩

theorem of_onDispatchResponse (h : onDispatchResponse mgr frame = some delivery) :
    24 + fieldAt frame 21 2 ≤ frame.length ∧
      ∃ nSessionID nFromServiceID nResult nType nNameLen szName data,
        delivery.packet =
          .response nSessionID nFromServiceID nResult nType nNameLen szName data := by
  simp only [onDispatchResponse, Option.bind_eq_bind, Option.bind_eq_some_iff, guard_eq_some,
    Option.pure_def, Option.some_inj] at h
  obtain ⟨_, _, _, hname, _, _, _, _, rfl⟩ := h
  exact ⟨hname, _, _, _, _, _, _, _, rfl⟩

theorem onDispatchGateForward_eq_some_iff :
    onDispatchGateForward mgr frame = some delivery ↔
      16 < frame.length ∧ mgr (UInt32.ofNat (fieldAt frame 12 4)) ≠ none ∧
        16 + fieldAt frame 16 2 = frame.length ∧
        { nToServiceID := UInt32.ofNat (fieldAt frame 12 4)
          packet := .gateForward (UInt64.ofNat (fieldAt frame 0 8))
            (UInt32.ofNat (fieldAt frame 8 4))
            ((frame.drop 16).take (fieldAt frame 16 2)) } = delivery := by
  simp only [onDispatchGateForward, Option.bind_eq_bind, Option.bind_eq_some_iff, guard_eq_some,
    Option.pure_def, Option.some_inj, exists_and_left, exists_and_right, exists_const,
    Option.ne_none_iff_exists']

theorem of_onDispatchToGate (h : onDispatchToGate mgr frame = some delivery) :
    12 < frame.length ∧ ∃ nSessionID pData, delivery.packet = .toGate nSessionID pData := by
  simp only [onDispatchToGate, Option.bind_eq_bind, Option.bind_eq_some_iff, guard_eq_some,
    Option.pure_def, Option.some_inj] at h
  obtain ⟨_, hsize, _, _, rfl⟩ := h
  exact ⟨hsize, _, _, rfl⟩

theorem onDispatchToGateBroadcast_eq_some_iff :
    onDispatchToGateBroadcast mgr frame = some delivery ↔
      mgr (UInt32.ofNat (fieldAt frame 0 4)) ≠ none ∧
        { nToServiceID := UInt32.ofNat (fieldAt frame 0 4)
          packet := .toGateBroadcast (fieldAt frame 4 2) (frame.length - 6)
            (frame.drop 6) } = delivery := by
  simp only [onDispatchToGateBroadcast, Option.bind_eq_bind, Option.bind_eq_some_iff,
    Option.pure_def, Option.some_inj, exists_and_right, Option.ne_none_iff_exists']

/-- Frames that a branch drops unless they fit. -/
theorem safeWith_of_delivered {r : MemoryReader Received} {fits : Prop} (hr : r.Inside frame)
    (hdelivered : ∀ m, Holds frame m → ∀ delivery, r.result m = .service delivery →
      fits ∧ ∀ service : DispatchService μ,
        (CMessageDispatcher.dispatch service delivery.packet).Inside delivery.packet.content) :
    SafeWith getCoreService r fits frame where
  inside_onDispatch := hr
  inside_dispatch m hm delivery h service _ := (hdelivered m hm delivery h).2 service
  rejected hfits m hm delivery h := absurd (hdelivered m hm delivery h).1 hfits

theorem safeWith_onDispatchRequest :
    SafeWith getCoreService (CCoreConnection.onDispatchRequest getCoreService frame.length)
      (20 ≤ frame.length ∧ 20 + fieldAt frame 17 2 ≤ frame.length) frame := by
  apply safeWith_of_delivered CCoreConnection.inside_onDispatchRequest
  intro m hm delivery h
  rw [CCoreConnection.result_onDispatchRequest knownServices_eq_none_iff hm,
    received_eq_service_iff] at h
  obtain ⟨hname, _, _, _, _, _, _, hpacket⟩ := of_onDispatchRequest h
  refine ⟨⟨by omega, hname⟩, fun service => ?_⟩
  rw [hpacket]
  exact CMessageDispatcher.inside_dispatchRequest

theorem safeWith_onDispatchResponse :
    SafeWith getCoreService (CCoreConnection.onDispatchResponse getCoreService frame.length)
      (24 ≤ frame.length ∧ 24 + fieldAt frame 21 2 ≤ frame.length) frame := by
  apply safeWith_of_delivered CCoreConnection.inside_onDispatchResponse
  intro m hm delivery h
  rw [CCoreConnection.result_onDispatchResponse knownServices_eq_none_iff hm,
    received_eq_service_iff] at h
  obtain ⟨hname, _, _, _, _, _, _, _, hpacket⟩ := of_onDispatchResponse h
  refine ⟨⟨by omega, hname⟩, fun service => ?_⟩
  rw [hpacket]
  exact CMessageDispatcher.inside_dispatchResponse

theorem safeWith_onDispatchToGate :
    SafeWith getCoreService (CCoreConnection.onDispatchToGate getCoreService frame.length)
      (12 ≤ frame.length) frame := by
  apply safeWith_of_delivered CCoreConnection.inside_onDispatchToGate
  intro m hm delivery h
  rw [CCoreConnection.result_onDispatchToGate knownServices_eq_none_iff hm,
    received_eq_service_iff] at h
  obtain ⟨hsize, _, _, hpacket⟩ := of_onDispatchToGate h
  refine ⟨hsize.le, fun service => ?_⟩
  rw [hpacket]
  exact inside_debugAst_iff.mpr fun _ => inside_pure _ _

theorem fieldAt_take {offset size width nMessageSize : ℕ} (h : size + width ≤ nMessageSize) :
    fieldAt ((frame.drop offset).take nMessageSize) size width =
      fieldAt frame (offset + size) width := by
  rw [fieldAt, List.drop_take, List.take_take, List.drop_drop, Nat.min_eq_left (by omega), fieldAt]

/-- The header of a forwarded message that is delivered. -/
theorem inside_dispatch_gateForward_iff {service : DispatchService μ} {nSessionID : UInt64}
    {nFromServiceID : UInt32} (hle : 18 ≤ frame.length)
    (hwhole : 16 + fieldAt frame 16 2 = frame.length) :
    (CMessageDispatcher.dispatchGateForward service nSessionID nFromServiceID).Inside
        ((frame.drop 16).take (fieldAt frame 16 2)) ↔
      (service.forwardMessageSerializer ≠ none → 22 ≤ frame.length) := by
  have hlength : ((frame.drop 16).take (fieldAt frame 16 2)).length = fieldAt frame 16 2 := by
    rw [List.length_take, List.length_drop]
    omega
  rw [CMessageDispatcher.inside_dispatchGateForward_iff, hlength]
  · exact imp_congr_right fun _ => by omega
  · rw [hlength, fieldAt_take (by omega)]

theorem safeWith_onDispatchGateForward_iff :
    SafeWith getCoreService (CCoreConnection.onDispatchGateForward getCoreService frame.length)
        (22 ≤ frame.length ∧ 16 + fieldAt frame 16 2 = frame.length) frame ↔
      (16 < frame.length →
        ∀ service, getCoreService (UInt32.ofNat (fieldAt frame 12 4)) = some service →
          18 ≤ frame.length ∧
            (16 + fieldAt frame 16 2 = frame.length →
              service.forwardMessageSerializer ≠ none → 22 ≤ frame.length)) := by
  constructor
  · intro hsafe hsize service hservice
    have hfound : getCoreService (UInt32.ofNat (fieldAt frame 12 4)) ≠ none := by
      rw [hservice]
      exact Option.some_ne_none service
    have hle : 18 ≤ frame.length :=
      CCoreConnection.inside_onDispatchGateForward_iff.mp hsafe.inside_onDispatch hsize hfound
    refine ⟨hle, fun hwhole => ?_⟩
    have hm := holds_getD frame fun _ => 0
    have hdelivered := received_eq_service_iff.mpr (onDispatchGateForward_eq_some_iff.mpr
      ⟨hsize, mt (knownServices_eq_none_iff _).mp hfound, hwhole, rfl⟩)
    rw [← CCoreConnection.result_onDispatchGateForward knownServices_eq_none_iff hm
      hsafe.inside_onDispatch] at hdelivered
    exact (inside_dispatch_gateForward_iff hle hwhole).mp
      (hsafe.inside_dispatch _ hm _ hdelivered service hservice)
  · intro h
    have hinside := CCoreConnection.inside_onDispatchGateForward_iff.mpr fun hsize hfound =>
      (h hsize _ (Option.ne_none_iff_exists'.mp hfound).choose_spec).1
    -- what a memory behind the frame can make of it
    have hdelivered : ∀ m, Holds frame m → ∀ delivery,
        (CCoreConnection.onDispatchGateForward getCoreService frame.length).result m =
          .service delivery →
        ∀ service, getCoreService delivery.nToServiceID = some service →
          18 ≤ frame.length ∧ 16 + fieldAt frame 16 2 = frame.length ∧
            (service.forwardMessageSerializer ≠ none → 22 ≤ frame.length) ∧
              delivery.packet = .gateForward (UInt64.ofNat (fieldAt frame 0 8))
                (UInt32.ofNat (fieldAt frame 8 4))
                ((frame.drop 16).take (fieldAt frame 16 2)) := by
      intro m hm delivery hresult service hservice
      rw [CCoreConnection.result_onDispatchGateForward knownServices_eq_none_iff hm hinside,
        received_eq_service_iff] at hresult
      obtain ⟨hsize, _, hwhole, rfl⟩ := onDispatchGateForward_eq_some_iff.mp hresult
      obtain ⟨hle, hserializer⟩ := h hsize service hservice
      exact ⟨hle, hwhole, hserializer hwhole, rfl⟩
    refine ⟨hinside, ?_, ?_⟩
    · intro m hm delivery hresult service hservice
      obtain ⟨hle, hwhole, hserializer, hpacket⟩ :=
        hdelivered m hm delivery hresult service hservice
      rw [hpacket]
      exact (inside_dispatch_gateForward_iff hle hwhole).mpr hserializer
    · intro hfits m hm delivery hresult service hservice m' _
      obtain ⟨hle, hwhole, hserializer, hpacket⟩ :=
        hdelivered m hm delivery hresult service hservice
      have hnone : service.forwardMessageSerializer = none :=
        by_contra fun hsome => hfits ⟨hserializer hsome, hwhole⟩
      rw [hpacket, CMessageDispatcher.dispatch, CMessageDispatcher.dispatchGateForward, hnone]
      rfl

theorem safeWith_onDispatchToGateBroadcast_iff (hlt : frame.length < 2 ^ 16) :
    SafeWith getCoreService
        (CCoreConnection.onDispatchToGateBroadcast getCoreService frame.length)
        (6 ≤ frame.length ∧ 6 + 8 * fieldAt frame 4 2 ≤ frame.length) frame ↔
      4 ≤ frame.length ∧
        ∀ service, getCoreService (UInt32.ofNat (fieldAt frame 0 4)) = some service →
          6 ≤ frame.length ∧
            (service.bToGateBroadcastMessageCallback = true →
              6 + 8 * fieldAt frame 4 2 ≤ frame.length) := by
  constructor
  · intro hsafe
    obtain ⟨hcookie, hcount⟩ :=
      (CCoreConnection.inside_onDispatchToGateBroadcast_iff hlt).mp hsafe.inside_onDispatch
    refine ⟨hcookie, fun service hservice => ?_⟩
    have hfound : getCoreService (UInt32.ofNat (fieldAt frame 0 4)) ≠ none := by
      rw [hservice]
      exact Option.some_ne_none service
    refine ⟨hcount hfound, fun hcallback => ?_⟩
    by_contra hfits
    have hm := holds_getD frame fun _ => 0
    have hdelivered := received_eq_service_iff.mpr (onDispatchToGateBroadcast_eq_some_iff.mpr
      ⟨mt (knownServices_eq_none_iff _).mp hfound, rfl⟩)
    rw [← CCoreConnection.result_onDispatchToGateBroadcast knownServices_eq_none_iff hm hlt
      hsafe.inside_onDispatch] at hdelivered
    have hrejected := hsafe.rejected (fun h => hfits h.2) _ hm _ hdelivered service hservice _
      (holds_getD _ fun _ => 0)
    rw [CMessageDispatcher.dispatch, result_debugAst, if_pos hcallback] at hrejected
    cases hrejected
  · rintro ⟨hcookie, h⟩
    have hinside := (CCoreConnection.inside_onDispatchToGateBroadcast_iff hlt).mpr
      ⟨hcookie, fun hfound => (h _ (Option.ne_none_iff_exists'.mp hfound).choose_spec).1⟩
    have hdelivered : ∀ m, Holds frame m → ∀ delivery,
        (CCoreConnection.onDispatchToGateBroadcast getCoreService frame.length).result m =
          .service delivery →
        ∀ service, getCoreService delivery.nToServiceID = some service →
          (service.bToGateBroadcastMessageCallback = true →
            6 ≤ frame.length ∧ 6 + 8 * fieldAt frame 4 2 ≤ frame.length) ∧
            delivery.packet = .toGateBroadcast (fieldAt frame 4 2) (frame.length - 6)
              (frame.drop 6) := by
      intro m hm delivery hresult service hservice
      rw [CCoreConnection.result_onDispatchToGateBroadcast knownServices_eq_none_iff hm hlt
        hinside, received_eq_service_iff] at hresult
      obtain ⟨_, rfl⟩ := onDispatchToGateBroadcast_eq_some_iff.mp hresult
      obtain ⟨hle, hcount⟩ := h service hservice
      exact ⟨fun hcallback => ⟨hle, hcount hcallback⟩, rfl⟩
    refine ⟨hinside, ?_, ?_⟩
    · intro m hm delivery hresult service hservice
      rw [(hdelivered m hm delivery hresult service hservice).2]
      exact inside_debugAst_iff.mpr fun _ => inside_pure _ _
    · intro hfits m hm delivery hresult service hservice m' _
      obtain ⟨hcount, hpacket⟩ := hdelivered m hm delivery hresult service hservice
      rw [hpacket, CMessageDispatcher.dispatch, result_debugAst, if_neg (mt hcount hfits)]

theorem inFrame_of_ne {nMessageType : UInt8}
    (hforward : nMessageType ≠ MessageType.gateForward.code)
    (hbroadcast : nMessageType ≠ MessageType.toGateBroadcast.code) :
    InFrame getCoreService nMessageType frame :=
  ⟨fun heq => absurd heq hforward, fun heq => absurd heq hbroadcast⟩

theorem inFrame_gateForward_iff :
    InFrame getCoreService MessageType.gateForward.code frame ↔
      (16 < frame.length →
        ∀ service, getCoreService (UInt32.ofNat (fieldAt frame 12 4)) = some service →
          18 ≤ frame.length ∧
            (16 + fieldAt frame 16 2 = frame.length →
              service.forwardMessageSerializer ≠ none → 22 ≤ frame.length)) :=
  ⟨fun h => h.gateForward rfl, fun h => ⟨fun _ => h, fun heq => absurd heq (by decide)⟩⟩

theorem inFrame_toGateBroadcast_iff :
    InFrame getCoreService MessageType.toGateBroadcast.code frame ↔
      4 ≤ frame.length ∧
        ∀ service, getCoreService (UInt32.ofNat (fieldAt frame 0 4)) = some service →
          6 ≤ frame.length ∧
            (service.bToGateBroadcastMessageCallback = true →
              6 + 8 * fieldAt frame 4 2 ≤ frame.length) :=
  ⟨fun h => h.toGateBroadcast rfl, fun h => ⟨fun heq => absurd heq (by decide), fun _ => h⟩⟩

/-- A heartbeat, and the messages for the connection's own queue. -/
theorem frameSafe_of_other {nMessageType : UInt8}
    (hrequest : nMessageType ≠ MessageType.request.code)
    (hresponse : nMessageType ≠ MessageType.response.code)
    (hforward : nMessageType ≠ MessageType.gateForward.code)
    (htoGate : nMessageType ≠ MessageType.toGate.code)
    (hbroadcast : nMessageType ≠ MessageType.toGateBroadcast.code) :
    FrameSafe getCoreService nMessageType frame := by
  rw [FrameSafe, CCoreConnection.onDispatch, if_neg hrequest, if_neg hresponse, if_neg hforward,
    if_neg htoGate, if_neg hbroadcast]
  split
  · apply safeWith_of_delivered (inside_pure _ frame)
    intro m _ delivery hdelivered
    cases hdelivered
  · apply safeWith_of_delivered
    · rw [inside_bytes_bind_iff]
      exact ⟨.inr (Nat.zero_add _).le, inside_pure _ frame⟩
    · intro m _ delivery hdelivered
      cases hdelivered

/-- What is behind the header of a frame, whose size is a `uint16_t`. -/
structure Payload where
  bytes : List UInt8
  length_lt : bytes.length < 2 ^ 16

/-- The dispatchers stay inside exactly the frames whose forwarded message has a header and
whose broadcast its ids. -/
theorem frameSafe_iff (getCoreService : UInt32 → Option (DispatchService μ))
    (nMessageType : UInt8) (payload : Payload) :
    FrameSafe getCoreService nMessageType payload.bytes ↔
      InFrame getCoreService nMessageType payload.bytes := by
  by_cases hforward : nMessageType = MessageType.gateForward.code
  · rw [hforward, inFrame_gateForward_iff]
    exact safeWith_onDispatchGateForward_iff
  by_cases hbroadcast : nMessageType = MessageType.toGateBroadcast.code
  · rw [hbroadcast, inFrame_toGateBroadcast_iff]
    exact safeWith_onDispatchToGateBroadcast_iff payload.length_lt
  refine iff_of_true ?_ (inFrame_of_ne hforward hbroadcast)
  by_cases hrequest : nMessageType = MessageType.request.code
  · rw [hrequest]
    exact safeWith_onDispatchRequest
  by_cases hresponse : nMessageType = MessageType.response.code
  · rw [hresponse]
    exact safeWith_onDispatchResponse
  by_cases htoGate : nMessageType = MessageType.toGate.code
  · rw [htoGate]
    exact safeWith_onDispatchToGate
  exact frameSafe_of_other hrequest hresponse hforward htoGate hbroadcast

end

/-- A node with one service, which has set the callback for broadcasts. -/
def gateOnly (nServiceID : UInt32) : Option (DispatchService Unit) :=
  if nServiceID = 1 then
    some {
      serviceMessageHandler := fun _ => false
      serviceMessageSerializerByType := fun _ => none
      forwardMessageSerializer := none
      serviceForwardHandler := fun _ => none
      bToGateMessageCallback := true
      bToGateBroadcastMessageCallback := true
      pendingResponseInfo := fun _ => false }
  else
    none

/-- A broadcast to one session that ends behind its cookie. -/
theorem not_frameSafe_gateOnly :
    ¬ FrameSafe gateOnly MessageType.toGateBroadcast.code [1, 0, 0, 0, 1, 0] := by
  intro hsafe
  obtain ⟨_, hservice⟩ := (safeWith_onDispatchToGateBroadcast_iff (by decide)).mp hsafe
  exact absurd ((hservice _ rfl).2 rfl) (by decide)

end RealtimeEx.Core
