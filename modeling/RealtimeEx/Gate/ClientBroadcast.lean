import RealtimeEx.Core.BroadcastPacking
import RealtimeEx.Gate.GateBroadcast
import RealtimeEx.Support.Grouping

/-!
# A broadcast to clients of several gates

`CServiceInvoker::broadcast` groups the clients by their gates and calls
`CTransporter::broadcast` once for each gate; the gate sends the message to its clients.
-/

namespace RealtimeEx.Gate

open Core Login

/-- `SClientSessionInfo`. -/
structure SClientSessionInfo where
  nGateServiceID : UInt32
  nSessionID : UInt64
  deriving DecidableEq

namespace CServiceInvoker

variable {μ : Type} (t : Transporter μ) (services : UInt32 → CoreService μ) (message : μ)

/-- `mapClientSessionInfo`. -/
def mapClientSessionInfo (vecClientSessionInfo : List SClientSessionInfo) :
    StdMap UInt32 (List UInt64) :=
  StdMap.group (·.nGateServiceID) (·.nSessionID) vecClientSessionInfo

/-- The loop of `broadcast`: what it returns, unless a call throws, and what has been sent. -/
def broadcastLoop : List (UInt32 × List UInt64) → Option Bool × List Delivery
  | [] => (some true, [])
  | (nGateServiceID, vecSessionID) :: rest =>
      match (t.gateBroadcast services vecSessionID nGateServiceID message).result with
      | .threw => (none, [])
      | .returned bResult deliveries =>
          let (bRet, later) := broadcastLoop rest
          (bRet.map (bResult && ·), deliveries ++ later)

/-- `broadcast` to a list of clients. -/
def broadcast (vecClientSessionInfo : List SClientSessionInfo) : Option Bool × List Delivery :=
  broadcastLoop t services message (mapClientSessionInfo vecClientSessionInfo).toList

/-- What a gate sends on when a packet has come. -/
def sendOn (gates : UInt32 → CGateService) (delivery : Delivery) : List (UInt32 × ToClient) :=
  match delivery.packet.toClients with
  | none => []
  | some clients =>
      ((gates delivery.nToServiceID).onToGateBroadcastMessage clients.pData
        clients.vecSessionID).map (delivery.nToServiceID, ·)

/-- What the clients of all gates get of a broadcast. -/
def received (gates : UInt32 → CGateService) (vecClientSessionInfo : List SClientSessionInfo) :
    List (UInt32 × ToClient) :=
  (broadcast t services message vecClientSessionInfo).2.flatMap (sendOn gates)

/-! ## One gate -/

/-- The clients of a gate, in the order of the list. -/
def clientsOf (vecClientSessionInfo : List SClientSessionInfo) (nGateServiceID : UInt32) :
    List UInt64 :=
  (vecClientSessionInfo.filter (·.nGateServiceID = nGateServiceID)).map (·.nSessionID)

/-- The call for a gate returns `true`. -/
def served (vecSessionID : List UInt64) (nGateServiceID : UInt32) : Bool :=
  match (t.gateBroadcast services vecSessionID nGateServiceID message).result with
  | .threw => false
  | .returned bResult _ => bResult

/-- The message as it is packed for the clients of a gate. -/
def packed (vecSessionID : List UInt64) (nGateServiceID : UInt32) : List UInt8 :=
  ((t.serialized services vecSessionID nGateServiceID message).map clientData).getD []

/-- What the clients of a gate get of the call for it. -/
def ofGate (gates : UInt32 → CGateService) (e : UInt32 × List UInt64) :
    List (UInt32 × ToClient) :=
  if served t services message e.2 e.1 then
    ((gates e.1).onToGateBroadcastMessage (packed t services message e.2 e.1) e.2).map
      (e.1, ·)
  else
    []

variable {t services message} {gates : UInt32 → CGateService}

variable (gates) in
/-- A call that fits does not throw, and the gate gets exactly its clients and the message. -/
theorem sendOn_gateBroadcast {vecSessionID : List UInt64} {nGateServiceID : UInt32}
    (hfits : t.GateFits services vecSessionID nGateServiceID message) :
    ∃ deliveries,
      (t.gateBroadcast services vecSessionID nGateServiceID message).result =
        .returned (served t services message vecSessionID nGateServiceID) deliveries ∧
      deliveries.flatMap (sendOn gates) =
        ofGate t services message gates (nGateServiceID, vecSessionID) := by
  rw [ofGate, served]
  obtain hfailed | ⟨hnil, hsent⟩ | ⟨m, deliveries, hm, hsent, hclients⟩ :=
    (Transporter.gateExact_iff.mpr hfits).delivered
  · exact ⟨[], by rw [hfailed], by rw [hfailed]; rfl⟩
  · exact ⟨[], by rw [hsent], by rw [hsent, hnil]; rfl⟩
  · refine ⟨deliveries, by rw [hsent], ?_⟩
    obtain ⟨delivery, rfl⟩ : ∃ delivery, deliveries = [delivery] := by
      refine List.length_eq_one_iff.mp ?_
      simpa using congrArg List.length hclients
    have hclient := List.singleton_inj.mp hclients
    rw [Prod.mk.injEq] at hclient
    rw [hsent, packed, hm, List.flatMap_singleton, sendOn, hclient.1, hclient.2]
    rfl

/-! ## All gates -/

variable (gates) in
theorem broadcastLoop_eq {es : List (UInt32 × List UInt64)}
    (hfits : ∀ e ∈ es, t.GateFits services e.2 e.1 message) :
    (broadcastLoop t services message es).1 =
        some (es.all fun e => served t services message e.2 e.1) ∧
      (broadcastLoop t services message es).2.flatMap (sendOn gates) =
        es.flatMap (ofGate t services message gates) := by
  induction es with
  | nil => exact ⟨rfl, rfl⟩
  | cons e es ih =>
      obtain ⟨hret, hsent⟩ := ih fun d hd => hfits d (List.mem_cons_of_mem e hd)
      obtain ⟨deliveries, hresult, hfirst⟩ :=
        sendOn_gateBroadcast gates (hfits e List.mem_cons_self)
      rw [broadcastLoop, hresult]
      dsimp only
      rw [hret, List.flatMap_append, hfirst, hsent]
      exact ⟨rfl, rfl⟩

theorem mem_toList_mapClientSessionInfo {vecClientSessionInfo : List SClientSessionInfo}
    {e : UInt32 × List UInt64} :
    e ∈ (mapClientSessionInfo vecClientSessionInfo).toList ↔
      (∃ info ∈ vecClientSessionInfo, info.nGateServiceID = e.1) ∧
        e.2 = clientsOf vecClientSessionInfo e.1 := by
  rw [Std.ExtTreeMap.mem_toList_iff_getElem?_eq_some, mapClientSessionInfo,
    StdMap.getElem?_group]
  split
  · rename_i hmem
    rw [Option.some.injEq, eq_comm]
    exact (and_iff_right hmem).symm
  · rename_i hnot
    exact iff_of_false (Option.some_ne_none _ ∘ Eq.symm) fun h => hnot h.1

variable {vecClientSessionInfo : List SClientSessionInfo}

theorem gateFits_of_mem
    (hfits : ∀ nGateServiceID, t.GateFits services
      (clientsOf vecClientSessionInfo nGateServiceID) nGateServiceID message) :
    ∀ e ∈ (mapClientSessionInfo vecClientSessionInfo).toList,
      t.GateFits services e.2 e.1 message := by
  intro e he
  rw [(mem_toList_mapClientSessionInfo.mp he).2]
  exact hfits e.1

/-- What the clients of one gate get. -/
theorem filter_received
    (hfits : ∀ nGateServiceID, t.GateFits services
      (clientsOf vecClientSessionInfo nGateServiceID) nGateServiceID message)
    (nGateServiceID : UInt32) :
    (received t services message gates vecClientSessionInfo).filter (·.1 = nGateServiceID) =
      ofGate t services message gates
        (nGateServiceID, clientsOf vecClientSessionInfo nGateServiceID) := by
  have hkey : ∀ e ∈ (mapClientSessionInfo vecClientSessionInfo).toList,
      ∀ r ∈ ofGate t services message gates e, r.1 = e.1 := by
    intro e _ r hr
    rw [ofGate] at hr
    split at hr
    · obtain ⟨_, _, rfl⟩ := List.mem_map.mp hr
      rfl
    · cases hr
  rw [received, broadcast, (broadcastLoop_eq gates (gateFits_of_mem hfits)).2, StdMap.filter_flatMap_toList hkey,
    mapClientSessionInfo, StdMap.getElem?_group]
  split
  · rfl
  · rename_i hnot
    have hnone : clientsOf vecClientSessionInfo nGateServiceID = [] := by
      rw [clientsOf, List.map_eq_nil_iff, List.filter_eq_nil_iff]
      intro info hinfo heq
      exact hnot ⟨info, hinfo, of_decide_eq_true heq⟩
    rw [hnone, ofGate]
    split <;> rfl

/-- A broadcast whose packets fit returns whether the call of every gate did.  At a gate whose
call did, a client gets the message as often as it is listed in front of the first client that
the gate does not find online, and at the other gates nobody gets it. -/
theorem received_broadcast
    (hfits : ∀ nGateServiceID, t.GateFits services
      (clientsOf vecClientSessionInfo nGateServiceID) nGateServiceID message) :
    (broadcast t services message vecClientSessionInfo).1 =
        some (decide (∀ info ∈ vecClientSessionInfo,
          served t services message (clientsOf vecClientSessionInfo info.nGateServiceID)
            info.nGateServiceID = true)) ∧
      ∀ nGateServiceID nSessionID,
        ((received t services message gates vecClientSessionInfo).filter
            (·.1 = nGateServiceID)).filter (·.2.nSessionID = nSessionID) =
          if served t services message (clientsOf vecClientSessionInfo nGateServiceID)
              nGateServiceID then
            (List.replicate
              (((gates nGateServiceID).reached
                (clientsOf vecClientSessionInfo nGateServiceID)).count nSessionID)
              ((gates nGateServiceID).onToGateMessage
                (packed t services message (clientsOf vecClientSessionInfo nGateServiceID)
                  nGateServiceID) nSessionID)).flatten.map (nGateServiceID, ·)
          else
            [] := by
  constructor
  · have hret := (broadcastLoop_eq (fun _ => {}) (gateFits_of_mem hfits)).1
    rw [broadcast, hret, Option.some.injEq, Bool.eq_iff_iff, List.all_eq_true,
      decide_eq_true_eq]
    constructor
    · intro h info hinfo
      exact h (info.nGateServiceID, _)
        (mem_toList_mapClientSessionInfo.mpr ⟨⟨info, hinfo, rfl⟩, rfl⟩)
    · intro h e he
      obtain ⟨⟨info, hinfo, hgate⟩, hclients⟩ := mem_toList_mapClientSessionInfo.mp he
      rw [hclients, ← hgate]
      exact h info hinfo
  · intro nGateServiceID nSessionID
    rw [filter_received hfits, ofGate]
    split
    · rw [List.filter_map, ← CGateService.filter_flatMap_onToGateMessage nSessionID
        fun _ => CGateService.online_of_mem_reached,
        ← CGateService.onToGateBroadcastMessage_eq]
      rfl
    · rfl

/-- Of two clients of a gate the first one is online. -/
theorem received_broadcast_oneClient :
    ((received Transporter.toOtherNode (fun _ => ⟨none⟩) () (fun _ => CGateService.oneClient)
        [⟨2, 1⟩, ⟨3, 1⟩, ⟨2, 5⟩]).filter (·.1 = 2)).filter (·.2.nSessionID = 1) =
      [(2, { nSessionID := 1, nSocketID := 11, pData := clientData (7, []) })] := by
  have hclients : ∀ nGateServiceID,
      (clientsOf [⟨2, 1⟩, ⟨3, 1⟩, ⟨2, 5⟩] nGateServiceID).length ≤ 3 := by
    intro nGateServiceID
    rw [clientsOf, List.length_map]
    exact List.length_filter_le _ _
  have hfits : ∀ nGateServiceID, Transporter.toOtherNode.GateFits (fun _ => ⟨none⟩)
      (clientsOf [⟨2, 1⟩, ⟨3, 1⟩, ⟨2, 5⟩] nGateServiceID) nGateServiceID () := by
    intro nGateServiceID _ _ _
    have hlength := hclients nGateServiceID
    refine ⟨?_, fun _ m hm => ?_⟩
    · rw [sizeofBuf]
      omega
    · obtain rfl := Option.some.inj hm
      rw [maxBody, List.length_nil, sizeofMessageHeader]
      omega
  have honline : CGateService.oneClient.Online 1 := ⟨_, rfl, rfl, rfl⟩
  have hoffline : ¬ CGateService.oneClient.Online 5 := by
    rintro ⟨session, hsession, -, -⟩
    cases hsession
  have hcount : (CGateService.oneClient.reached [1, 5]).count 1 = 1 := by
    rw [CGateService.reached, List.takeWhile_cons_of_pos (by simpa using honline),
      List.takeWhile_cons_of_neg (by simpa using hoffline), List.count_cons_self, List.count_nil]
  have hlisted : clientsOf [⟨2, 1⟩, ⟨3, 1⟩, ⟨2, 5⟩] 2 = [1, 5] := by decide
  have hserved : served Transporter.toOtherNode (fun _ => ⟨none⟩) () [1, 5] 2 = true := by
    decide
  have hsent : CGateService.oneClient.onToGateMessage (clientData (7, [])) 1 =
      [{ nSessionID := 1, nSocketID := 11, pData := clientData (7, []) }] := by
    decide
  rw [(received_broadcast hfits).2, hlisted, if_pos hserved, hcount]
  exact congrArg (fun sent => (List.replicate 1 sent).flatten.map (2, ·)) hsent

end CServiceInvoker

end RealtimeEx.Gate
