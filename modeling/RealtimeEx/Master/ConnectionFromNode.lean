import RealtimeEx.Core.ProtoSystemRoundTrip
import RealtimeEx.Master.ServiceRegistryIndex

/-!
# `CConnectionFromNode`

What a master does with the registration of a node, and the messages that it sends
then.
-/

namespace RealtimeEx.Master

open Base RealtimeEx.Core

namespace CServiceRegistry

variable {r r' : CServiceRegistry} {n : UInt32} {info other : SNodeProxyInfo}

theorem mem_others : other ∈ r.others n ↔
    ∃ k : UInt32, r.mapNodeProxyInfo[k]? = some other ∧ other.sNodeBaseInfo.nID ≠ n := by
  rw [others, List.mem_filter, List.mem_map]
  constructor
  · rintro ⟨⟨e, hmem, rfl⟩, hne⟩
    exact ⟨e.1, Std.ExtTreeMap.mem_toList_iff_getElem?_eq_some.mp hmem, by simpa using hne⟩
  · rintro ⟨k, hget, hne⟩
    exact ⟨⟨(k, other), Std.ExtTreeMap.mem_toList_iff_getElem?_eq_some.mpr hget, rfl⟩,
      by simpa using hne⟩

/-- The messages of a registration. -/
def announcements (r : CServiceRegistry) (sNodeProxyInfo : SNodeProxyInfo)
    (sNodeBaseInfo : SNodeBaseInfo) (vecServiceBaseInfo : List SServiceBaseInfo) :
    List Send :=
  (sNodeProxyInfo.nSocketID,
      .syncAllNodeBaseInfo (r.syncAllNodeBaseInfo sNodeProxyInfo sNodeBaseInfo)) ::
    ((r.others sNodeBaseInfo.nID).filter fun info => info.nSocketID != 0).map fun info =>
      (info.nSocketID,
        .syncNodeBaseInfo
          (r.syncNodeBaseInfo sNodeProxyInfo sNodeBaseInfo vecServiceBaseInfo info))

theorem announce_eq (r : CServiceRegistry) (info : SNodeProxyInfo) (base : SNodeBaseInfo)
    (vec : List SServiceBaseInfo) :
    r.announce info base vec =
      (r.enter base.nID info vec, (r.enter base.nID info vec).announcements info base vec) :=
  rfl

/-- `CConnectionFromNode::onDispatch` of a registration: the message is what `unpack`
restores of the node's. -/
def onRegister (r : CServiceRegistry) (nSocketID : UInt64) (m : SmtRegisterNodeBaseInfo) :
    Option (CServiceRegistry × List Send) :=
  match SystemMessage.received (.registerNodeBaseInfo m) with
  | .registerNodeBaseInfo netMsg =>
      r.addNode nSocketID netMsg.sNodeBaseInfo netMsg.vecServiceBaseInfo
        netMsg.setConnectServiceName netMsg.setConnectServiceType
  | _ => none

/-- The entry that a new node gets. -/
def newEntry (nSocketID : UInt64) (m : SmtRegisterNodeBaseInfo) : SNodeProxyInfo where
  sNodeBaseInfo := m.sNodeBaseInfo
  mapServiceBaseInfo := ∅
  vecServiceBaseInfo := m.vecServiceBaseInfo
  setConnectServiceName := m.setConnectServiceName ∪ m.setConnectServiceType
  setConnectServiceType := ∅
  nSocketID := nSocketID

/-- What an accepted registration does: a new node gets an entry, a known one that is
not connected keeps what it had. -/
inductive Accepts (r : CServiceRegistry) (nSocketID : UInt64) (m : SmtRegisterNodeBaseInfo) :
    SNodeProxyInfo → Prop
  | new (hinfo : r.mapNodeProxyInfo[m.sNodeBaseInfo.nID]? = none)
      (hdup : ∀ s ∈ m.vecServiceBaseInfo,
        s.nID ∉ r.setServiceID ∧ s.szName ∉ r.mapServiceName) :
      Accepts r nSocketID m (newEntry nSocketID m)
  | again {old : SNodeProxyInfo}
      (hinfo : r.mapNodeProxyInfo[m.sNodeBaseInfo.nID]? = some old)
      (hsocket : old.nSocketID = 0) :
      Accepts r nSocketID m { old with nSocketID }

theorem onRegister_spec {nSocketID : UInt64} {m : SmtRegisterNodeBaseInfo}
    {sends : List Send} (h : r.onRegister nSocketID m = some (r', sends)) :
    ∃ info, Accepts r nSocketID m info ∧
      r' = r.enter m.sNodeBaseInfo.nID info m.vecServiceBaseInfo ∧
      sends = r'.announcements info m.sNodeBaseInfo m.vecServiceBaseInfo := by
  have hadd : r.addNode nSocketID m.sNodeBaseInfo m.vecServiceBaseInfo
      (m.setConnectServiceName ∪ m.setConnectServiceType) ∅ = some (r', sends) := h
  rw [addNode] at hadd
  split at hadd
  · rename_i old hinfo
    split at hadd
    · cases hadd
    · rename_i hsocket
      rw [announce_eq] at hadd
      cases hadd
      exact ⟨_, .again hinfo (not_not.mp hsocket), rfl, rfl⟩
  · rename_i hinfo
    dsimp only at hadd
    split at hadd
    · cases hadd
    · rename_i hdup
      rw [announce_eq] at hadd
      cases hadd
      refine ⟨newEntry nSocketID m, .new hinfo fun s hs => ?_, rfl, rfl⟩
      simp only [List.any_eq_true, not_exists, not_and] at hdup
      have hfree := hdup s hs
      simp [isDup] at hfree
      exact ⟨by simpa using hfree.2, by simpa using hfree.1⟩

/-! ## The table after a call -/

section Table

variable {a : UInt32}

theorem getElem?_enter_of_ne {vec : List SServiceBaseInfo} (hne : a ≠ n) :
    (r.enter n info vec).mapNodeProxyInfo[a]? = r.mapNodeProxyInfo[a]? := by
  rw [getElem?_enter, if_neg hne.symm]

theorem getElem?_enter_self {vec : List SServiceBaseInfo} :
    (r.enter n info vec).mapNodeProxyInfo[n]? = some info := by
  rw [getElem?_enter, if_pos rfl]

theorem delNode_of_none (hn : r.mapNodeProxyInfo[n]? = none) : r.delNode n = (r, []) := by
  rw [delNode, hn]

theorem delNode_fst_of_some (hn : r.mapNodeProxyInfo[n]? = some info) :
    (r.delNode n).1 =
      { info.vecServiceBaseInfo.foldl unindexService r with
        mapNodeProxyInfo := r.mapNodeProxyInfo.erase n } := by
  simp only [delNode, hn,
    mapNodeProxyInfo_foldl_unindexService]

theorem getElem?_delNode (r : CServiceRegistry) (n a : UInt32) :
    (r.delNode n).1.mapNodeProxyInfo[a]? =
      if n = a then none else r.mapNodeProxyInfo[a]? := by
  rcases hn : r.mapNodeProxyInfo[n]? with _ | info
  · rw [delNode_of_none hn]
    split
    · rename_i heq
      rw [← heq, hn]
    · rfl
  · rw [delNode_fst_of_some hn]
    exact StdMap.getElem?_erase

theorem disconnectNode_of_some (hn : r.mapNodeProxyInfo[n]? = some info) :
    r.disconnectNode n = r.enter n { info with nSocketID := 0 } [] := by
  rw [disconnectNode, hn]
  rfl

end Table

end CServiceRegistry

end RealtimeEx.Master
