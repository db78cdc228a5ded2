import RealtimeEx.Core.BaseConnectionOtherNode

/-!
# The stored sockets of the node table

What each call of the proxy registry does to the socket that is stored for a node and to
the services of the nodes.
-/

namespace RealtimeEx.Core

open Base

namespace CGlobalServiceRegistryProxy

variable {p p' : CGlobalServiceRegistryProxy} {nNodeID n : UInt32} {nSocketID : UInt64}

/-- The ids of the services of a node. -/
def serviceIDsOf (p : CGlobalServiceRegistryProxy) (nNodeID : UInt32) : List UInt32 :=
  ((p.getServiceBaseInfoByNodeID nNodeID).getD []).map SServiceBaseInfo.nID

theorem mem_serviceIDsOf {id : UInt32} :
    id ∈ p.serviceIDsOf nNodeID ↔ ∃ s, p.Knows nNodeID s ∧ s.nID = id := by
  rw [serviceIDsOf, getServiceBaseInfoByNodeID, List.mem_map]
  cases hinfo : p.mapNodeProxyInfo[nNodeID]? with
  | none =>
      simp [Knows, hinfo]
  | some info =>
      simp [Knows, hinfo]

theorem Held.eq_of_mem_serviceIDsOf (h : p.Held) {id : UInt32}
    (hid : id ∈ p.serviceIDsOf nNodeID) (hid' : id ∈ p.serviceIDsOf n) : nNodeID = n := by
  obtain ⟨s, hs, rfl⟩ := mem_serviceIDsOf.mp hid
  obtain ⟨s', hs', heq⟩ := mem_serviceIDsOf.mp hid'
  exact h.apart hs hs' heq.symm

/-- The services of every node have distinct ids. -/
def DistinctServices (p : CGlobalServiceRegistryProxy) : Prop :=
  ∀ nNodeID, (p.serviceIDsOf nNodeID).Nodup

/-- A service of a node with a stored socket. -/
def Up (p : CGlobalServiceRegistryProxy) (id : UInt32) : Prop :=
  ∃ nNodeID, p.socketID nNodeID ≠ 0 ∧ id ∈ p.serviceIDsOf nNodeID

/-- The node table of `p'` as far as sockets are stored in it is that of `p`. -/
structure SameSockets (p p' : CGlobalServiceRegistryProxy) : Prop where
  socket : ∀ n, p'.socketID n = p.socketID n
  services : ∀ n, p.socketID n ≠ 0 → p'.serviceIDsOf n = p.serviceIDsOf n

theorem SameSockets.refl (p : CGlobalServiceRegistryProxy) : SameSockets p p :=
  ⟨fun _ => rfl, fun _ _ => rfl⟩

theorem SameSockets.up_iff (h : SameSockets p p') {id : UInt32} : p'.Up id ↔ p.Up id := by
  constructor
  · rintro ⟨n, hn, hid⟩
    rw [h.socket] at hn
    rw [h.services n hn] at hid
    exact ⟨n, hn, hid⟩
  · rintro ⟨n, hn, hid⟩
    refine ⟨n, ?_, ?_⟩
    · rw [h.socket]
      exact hn
    · rw [h.services n hn]
      exact hid

/-! ## A socket is stored or reset -/

theorem socketID_setSocketID {info : SNodeProxyInfo} :
    (p.setSocketID nNodeID info nSocketID).socketID n =
      if nNodeID = n then nSocketID else p.socketID n := by
  rw [socketID, mapNodeProxyInfo_setSocketID, StdMap.getElem?_insert]
  split
  · rfl
  · rfl

theorem serviceIDsOf_setSocketID {info : SNodeProxyInfo}
    (hinfo : p.mapNodeProxyInfo[nNodeID]? = some info) :
    (p.setSocketID nNodeID info nSocketID).serviceIDsOf n = p.serviceIDsOf n := by
  rw [serviceIDsOf, serviceIDsOf, getServiceBaseInfoByNodeID, getServiceBaseInfoByNodeID,
    mapNodeProxyInfo_setSocketID, StdMap.getElem?_insert]
  split
  · rename_i hn
    subst hn
    rw [hinfo]
    rfl
  · rfl

/-- `setOtherNodeSocketIDByNodeID` succeeds for a known node unless there is a socket
already. -/
theorem setOtherNodeSocketIDByNodeID_fst :
    (p.setOtherNodeSocketIDByNodeID nNodeID nSocketID).1 = true ↔
      (p.getServiceBaseInfoByNodeID nNodeID).isSome ∧
        (nSocketID = 0 ∨ p.socketID nNodeID = 0) := by
  rw [setOtherNodeSocketIDByNodeID, getServiceBaseInfoByNodeID, socketID]
  cases hinfo : p.mapNodeProxyInfo[nNodeID]? with
  | none => simp
  | some info =>
      by_cases hdup : nSocketID ≠ 0 ∧ info.nSocketID ≠ 0
      · simp [hdup]
      · simp only [if_neg hdup, Option.map_some, Option.isSome_some, Option.getD_some,
          true_and, true_iff]
        by_cases hs : nSocketID = 0
        · exact .inl hs
        · exact .inr (Classical.not_not.mp fun hinfo0 => hdup ⟨hs, hinfo0⟩)

theorem setOtherNodeSocketIDByNodeID_snd_of_false
    (h : (p.setOtherNodeSocketIDByNodeID nNodeID nSocketID).1 = false) :
    (p.setOtherNodeSocketIDByNodeID nNodeID nSocketID).2 = p := by
  rw [setOtherNodeSocketIDByNodeID] at h ⊢
  split at h
  · rfl
  · rename_i info hinfo
    split at h
    · rename_i hdup
      simp only [if_pos hdup]
    · cases h

theorem exists_setSocketID_of_true
    (h : (p.setOtherNodeSocketIDByNodeID nNodeID nSocketID).1 = true) :
    ∃ info : SNodeProxyInfo, p.mapNodeProxyInfo[nNodeID]? = some info ∧
      (p.setOtherNodeSocketIDByNodeID nNodeID nSocketID).2 =
        p.setSocketID nNodeID info nSocketID := by
  rw [setOtherNodeSocketIDByNodeID] at h ⊢
  split at h
  · cases h
  · rename_i info hinfo
    refine ⟨info, hinfo, ?_⟩
    split at h
    · cases h
    · rename_i hdup
      simp only [if_neg hdup]

theorem socketID_setOtherNodeSocketIDByNodeID
    (h : (p.setOtherNodeSocketIDByNodeID nNodeID nSocketID).1 = true) :
    (p.setOtherNodeSocketIDByNodeID nNodeID nSocketID).2.socketID n =
      if nNodeID = n then nSocketID else p.socketID n := by
  obtain ⟨info, -, heq⟩ := exists_setSocketID_of_true h
  rw [heq, socketID_setSocketID]

theorem serviceIDsOf_setOtherNodeSocketIDByNodeID :
    (p.setOtherNodeSocketIDByNodeID nNodeID nSocketID).2.serviceIDsOf n =
      p.serviceIDsOf n := by
  cases h : (p.setOtherNodeSocketIDByNodeID nNodeID nSocketID).1 with
  | false => rw [setOtherNodeSocketIDByNodeID_snd_of_false h]
  | true =>
      obtain ⟨info, hinfo, heq⟩ := exists_setSocketID_of_true h
      rw [heq, serviceIDsOf_setSocketID hinfo]

/-- Resetting the socket leaves 0, whether the node is known or not. -/
theorem socketID_setOtherNodeSocketIDByNodeID_zero :
    (p.setOtherNodeSocketIDByNodeID nNodeID 0).2.socketID n =
      if nNodeID = n then 0 else p.socketID n := by
  cases h : (p.setOtherNodeSocketIDByNodeID nNodeID 0).1 with
  | true => exact socketID_setOtherNodeSocketIDByNodeID h
  | false =>
      rw [setOtherNodeSocketIDByNodeID_snd_of_false h]
      have hunknown : (p.getServiceBaseInfoByNodeID nNodeID).isSome = false := by
        rw [← Bool.not_eq_true]
        intro hknown
        rw [← Bool.not_eq_true, setOtherNodeSocketIDByNodeID_fst] at h
        exact h ⟨hknown, .inl rfl⟩
      split
      · rename_i hn
        subst hn
        rw [getServiceBaseInfoByNodeID, Option.isSome_map, Option.isSome_eq_false_iff,
          Option.isNone_iff_eq_none] at hunknown
        rw [socketID, hunknown]
        rfl
      · rfl

theorem DistinctServices.setOtherNodeSocketIDByNodeID (h : p.DistinctServices) :
    (p.setOtherNodeSocketIDByNodeID nNodeID nSocketID).2.DistinctServices := by
  intro n
  rw [serviceIDsOf_setOtherNodeSocketIDByNodeID]
  exact h n

theorem Held.setOtherNodeSocketIDByNodeID (h : p.Held) :
    (p.setOtherNodeSocketIDByNodeID nNodeID nSocketID).2.Held :=
  (changes_setOtherNodeSocketIDByNodeID (fun _ => False) (fun _ => False) p nNodeID
    nSocketID).held h

/-! ## Nodes come and go -/

theorem getElem?_mapNodeProxyInfo_delNodeProxyInfo :
    (p.delNodeProxyInfo nNodeID).mapNodeProxyInfo[n]? =
      if nNodeID = n then none else p.mapNodeProxyInfo[n]? := by
  cases hinfo : p.mapNodeProxyInfo[nNodeID]? with
  | none =>
      simp only [delNodeProxyInfo, hinfo]
      split
      · rename_i hn
        rw [← hn, hinfo]
      · rfl
  | some info =>
      rw [delNodeProxyInfo_eq hinfo, mapNodeProxyInfo_updateActiveServiceID,
        getElem?_mapNodeProxyInfo_withoutNode]
      split
      · rfl
      · rename_i hn
        split
        · rw [mapNodeProxyInfo_setSocketID, StdMap.getElem?_insert, if_neg hn]
        · rfl

theorem socketID_delNodeProxyInfo :
    (p.delNodeProxyInfo nNodeID).socketID n =
      if nNodeID = n then 0 else p.socketID n := by
  rw [socketID, getElem?_mapNodeProxyInfo_delNodeProxyInfo]
  split
  · rfl
  · rfl

theorem serviceIDsOf_delNodeProxyInfo :
    (p.delNodeProxyInfo nNodeID).serviceIDsOf n =
      if nNodeID = n then [] else p.serviceIDsOf n := by
  rw [serviceIDsOf, getServiceBaseInfoByNodeID, getElem?_mapNodeProxyInfo_delNodeProxyInfo]
  split
  · rfl
  · rfl

theorem Held.delNodeProxyInfo (h : p.Held) : (p.delNodeProxyInfo nNodeID).Held :=
  (changes_delNodeProxyInfo (fun _ => False) p nNodeID).held h

theorem DistinctServices.delNodeProxyInfo (h : p.DistinctServices) :
    (p.delNodeProxyInfo nNodeID).DistinctServices := by
  intro n
  rw [serviceIDsOf_delNodeProxyInfo]
  split
  · exact List.nodup_nil
  · exact h n

/-- A node that is added has no socket yet. -/
theorem sameSockets_addNodeProxyInfo (base : SNodeBaseInfo) (vec : List SServiceBaseInfo)
    (bExcludeConnect : Bool) :
    SameSockets p (p.addNodeProxyInfo base vec bExcludeConnect) := by
  cases haccepts : p.accepts base vec with
  | false =>
      rw [addNodeProxyInfo_of_not_accepts haccepts]
      exact .refl p
  | true =>
      obtain ⟨info, rfl, hsocket, hnew, -, heq⟩ :=
        addNodeProxyInfo_of_accepts bExcludeConnect haccepts
      have hget : ∀ n, (p.addNodeProxyInfo base info.vecServiceBaseInfo
          bExcludeConnect).mapNodeProxyInfo[n]? =
            if base.nID = n then some info else p.mapNodeProxyInfo[n]? := by
        intro n
        rw [heq, mapNodeProxyInfo_updateActiveServiceID, getElem?_mapNodeProxyInfo_withNode]
      constructor
      · intro n
        rw [socketID, hget]
        split
        · rename_i hn
          rw [← hn, socketID, hnew, Option.map_some, Option.getD_some, hsocket]
          rfl
        · rfl
      · intro n hn
        rw [serviceIDsOf, getServiceBaseInfoByNodeID, hget, if_neg]
        · rfl
        · rintro rfl
          rw [socketID, hnew] at hn
          exact hn rfl

theorem Held.addNodeProxyInfo (h : p.Held) (base : SNodeBaseInfo)
    (vec : List SServiceBaseInfo) (bExcludeConnect : Bool) :
    (p.addNodeProxyInfo base vec bExcludeConnect).Held :=
  (changes_addNodeProxyInfo (fun _ => False) p base vec bExcludeConnect).held h

theorem DistinctServices.addNodeProxyInfo (h : p.DistinctServices) (base : SNodeBaseInfo)
    {vec : List SServiceBaseInfo} (bExcludeConnect : Bool)
    (hvec : (vec.map SServiceBaseInfo.nID).Nodup) :
    (p.addNodeProxyInfo base vec bExcludeConnect).DistinctServices := by
  cases haccepts : p.accepts base vec with
  | false =>
      rw [addNodeProxyInfo_of_not_accepts haccepts]
      exact h
  | true =>
      obtain ⟨info, rfl, -, -, -, heq⟩ := addNodeProxyInfo_of_accepts bExcludeConnect haccepts
      intro n
      rw [serviceIDsOf, getServiceBaseInfoByNodeID, heq,
        mapNodeProxyInfo_updateActiveServiceID, getElem?_mapNodeProxyInfo_withNode]
      split
      · exact hvec
      · exact h n

end CGlobalServiceRegistryProxy

end RealtimeEx.Core
