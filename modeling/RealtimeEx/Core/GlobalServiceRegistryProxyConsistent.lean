import RealtimeEx.Core.GlobalServiceRegistryProxyInvariant

/-!
# Histories of the proxy registry

The proxy is consistent after every call of a history exactly when the services
of the node itself and every list of services that it takes in are coherent.
-/

namespace RealtimeEx.Core

open Base

namespace CGlobalServiceRegistryProxy

variable {own : List SServiceBaseInfo} {p : CGlobalServiceRegistryProxy}
  {nNodeID : UInt32} {info : SNodeProxyInfo}

/-- The two parts of the invariant between calls. -/
structure Settled (own : List SServiceBaseInfo) (p : CGlobalServiceRegistryProxy) :
    Prop where
  kept : Kept own p
  types : TypesOk (fun _ => False) p

theorem Settled.consistent (h : Settled own p) : Consistent own p :=
  { h.kept.toLinked with types := h.types }

/-! ## A node leaves -/

section DelService

variable (vec : List SServiceBaseInfo) (p : CGlobalServiceRegistryProxy)

@[simp] theorem mapNodeProxyInfo_foldl_delService :
    (vec.foldl delService p).mapNodeProxyInfo = p.mapNodeProxyInfo := by
  induction vec generalizing p with
  | nil => rfl
  | cons s vec ih => exact ih _

theorem mapServiceNameByID_foldl_delService :
    (vec.foldl delService p).mapServiceNameByID =
      vec.foldl (fun m s => m.erase s.szName) p.mapServiceNameByID :=
  (List.foldl_hom mapServiceNameByID fun _ _ => rfl).symm

theorem mapServiceIDByName_foldl_delService :
    (vec.foldl delService p).mapServiceIDByName =
      vec.foldl (fun m s => m.erase s.nID) p.mapServiceIDByName :=
  (List.foldl_hom mapServiceIDByName fun _ _ => rfl).symm

theorem mapServiceProxyInfo_foldl_delService :
    (vec.foldl delService p).mapServiceProxyInfo =
      vec.foldl (fun m s => m.erase s.nID) p.mapServiceProxyInfo :=
  (List.foldl_hom mapServiceProxyInfo fun _ _ => rfl).symm

variable {vec p}

theorem mem_serviceIDs_foldl_delService {t : StdString} {id : UInt32} :
    id ∈ (vec.foldl delService p).serviceIDs t ↔
      id ∈ p.serviceIDs t ∧ ∀ s ∈ vec, s.szType = t → s.nID ≠ id := by
  induction vec generalizing p with
  | nil => simp
  | cons s vec ih =>
      rw [List.foldl_cons, ih, delService, mem_serviceIDs_eraseServiceID]
      show (id ∈ p.serviceIDs t ∧ _) ∧ _ ↔ _
      rw [List.forall_mem_cons, and_assoc]

theorem TypesOk.foldl_delService {Stale : StdString → Prop} (h : TypesOk Stale p)
    (vec : List SServiceBaseInfo) :
    TypesOk (fun t => Stale t ∨ ∃ s ∈ vec, s.szType = t) (vec.foldl delService p) := by
  induction vec generalizing p Stale with
  | nil => exact h.mono fun _ => .inl
  | cons s vec ih =>
      have herase : TypesOk (fun t => Stale t ∨ s.szType = t) (delService p s) :=
        TypesOk.erase (p := { p with
          mapServiceNameByID := p.mapServiceNameByID.erase s.szName
          mapServiceIDByName := p.mapServiceIDByName.erase s.nID
          mapServiceProxyInfo := p.mapServiceProxyInfo.erase s.nID }) h s
      refine (ih herase).mono fun t ht => ?_
      rcases ht with (ht | ht) | ⟨s', hs', ht⟩
      · exact .inl ht
      · exact .inr ⟨s, List.mem_cons_self, ht⟩
      · exact .inr ⟨s', List.mem_cons_of_mem s hs', ht⟩

end DelService

/-- The end of `delNodeProxyInfo` up to the vectors. -/
def withoutNode (p : CGlobalServiceRegistryProxy) (nNodeID : UInt32)
    (vec : List SServiceBaseInfo) : CGlobalServiceRegistryProxy :=
  { vec.foldl delService p with
    mapNodeProxyInfo := p.mapNodeProxyInfo.erase nNodeID }

section WithoutNode

variable {vec : List SServiceBaseInfo}

theorem getElem?_mapNodeProxyInfo_withoutNode {n : UInt32} :
    (p.withoutNode nNodeID vec).mapNodeProxyInfo[n]? =
      if nNodeID = n then none else p.mapNodeProxyInfo[n]? := by
  rw [withoutNode, StdMap.getElem?_erase]

theorem knows_withoutNode {n : UInt32} {s : SServiceBaseInfo} :
    (p.withoutNode nNodeID vec).Knows n s ↔ nNodeID ≠ n ∧ p.Knows n s := by
  simp only [Knows, getElem?_mapNodeProxyInfo_withoutNode]
  split
  · rename_i hn
    simp [hn]
  · rename_i hn
    simp [hn]

theorem getElem?_mapServiceProxyInfo_withoutNode (id : UInt32) :
    (p.withoutNode nNodeID vec).mapServiceProxyInfo[id]? =
      if id ∈ vec.map SServiceBaseInfo.nID then none
      else p.mapServiceProxyInfo[id]? := by
  show (vec.foldl delService p).mapServiceProxyInfo[id]? = _
  rw [mapServiceProxyInfo_foldl_delService, StdMap.getElem?_foldl_erase]

/-- What is still announced shares neither name nor id with the services of the
node that leaves. -/
theorem Kept.apart_of_withoutNode (h : Kept own p)
    (hinfo : p.mapNodeProxyInfo[nNodeID]? = some info) {s s' : SServiceBaseInfo}
    (hs : (p.withoutNode nNodeID info.vecServiceBaseInfo).Announced own s)
    (hs' : s' ∈ info.vecServiceBaseInfo) :
    s.nID ≠ s'.nID ∧ s.szName ≠ s'.szName := by
  rcases hs with hs | ⟨n, hs⟩
  · exact h.ownApart hs ⟨info, hinfo, hs'⟩
  · obtain ⟨hn, hs⟩ := knows_withoutNode.mp hs
    have hne := h.apart ⟨info, hinfo, hs'⟩ hs
    exact ⟨fun heq => hn (hne (.inl heq.symm)), fun heq => hn (hne (.inr heq.symm))⟩

/-- The services of the node that leaves, and only these, are no longer
announced. -/
theorem announced_withoutNode (h : Kept own p)
    (hinfo : p.mapNodeProxyInfo[nNodeID]? = some info) (s : SServiceBaseInfo) :
    (p.withoutNode nNodeID info.vecServiceBaseInfo).Announced own s ↔
      p.Announced own s ∧ s ∉ info.vecServiceBaseInfo := by
  constructor
  · intro hs
    refine ⟨?_, fun hmem => (h.apart_of_withoutNode hinfo hs hmem).1 rfl⟩
    exact hs.imp_right fun ⟨n, hs⟩ => ⟨n, (knows_withoutNode.mp hs).2⟩
  · rintro ⟨hs | ⟨n, hs⟩, hnot⟩
    · exact .inl hs
    · refine .inr ⟨n, knows_withoutNode.mpr ⟨?_, hs⟩⟩
      rintro rfl
      obtain ⟨info', hinfo', hs⟩ := hs
      obtain rfl := Option.some.inj (hinfo.symm.trans hinfo')
      exact hnot hs

theorem Kept.withoutNode (h : Kept own p)
    (hinfo : p.mapNodeProxyInfo[nNodeID]? = some info) :
    Kept own (p.withoutNode nNodeID info.vecServiceBaseInfo) := by
  refine { names := ?_, ids := ?_, sockets := ?_, remote := ?_,
           typed := ?_, apart := ?_, ownApart := ?_ }
  · intro szName id
    show (info.vecServiceBaseInfo.foldl delService p).mapServiceNameByID[szName]? =
      _ ↔ _
    rw [mapServiceNameByID_foldl_delService]
    exact StdMap.getElem?_foldl_erase_eq_some h.names
      (announced_withoutNode h hinfo)
      fun s s' hs hs' => (h.apart_of_withoutNode hinfo hs hs').2
  · intro id szName
    show (info.vecServiceBaseInfo.foldl delService p).mapServiceIDByName[id]? =
      _ ↔ _
    simp only [and_comm (a := SServiceBaseInfo.szName _ = szName)]
    rw [mapServiceIDByName_foldl_delService]
    refine StdMap.getElem?_foldl_erase_eq_some (fun id szName => ?_)
      (announced_withoutNode h hinfo)
      fun s s' hs hs' => (h.apart_of_withoutNode hinfo hs hs').1
    rw [h.ids]
    simp only [and_comm]
  · intro n info' s hinfo' hs
    rw [getElem?_mapNodeProxyInfo_withoutNode] at hinfo'
    rw [getElem?_mapServiceProxyInfo_withoutNode]
    split at hinfo'
    · simp at hinfo'
    · rename_i hn
      rw [if_neg (h.notMem_ids hinfo ⟨info', hinfo', hs⟩ hn)]
      exact h.sockets hinfo' hs
  · intro id q hq
    rw [getElem?_mapServiceProxyInfo_withoutNode] at hq
    split at hq
    · simp at hq
    · rename_i hmem
      obtain ⟨n, info₀, hinfo₀, hs, rfl, hsocket⟩ := h.remote hq
      have hn : nNodeID ≠ n := by
        rintro rfl
        obtain rfl := Option.some.inj (hinfo.symm.trans hinfo₀)
        exact hmem (List.mem_map_of_mem hs)
      refine ⟨n, info₀, ?_, hs, rfl, hsocket⟩
      rw [getElem?_mapNodeProxyInfo_withoutNode, if_neg hn, hinfo₀]
  · intro id q hq
    rw [getElem?_mapServiceProxyInfo_withoutNode] at hq
    show _ ∈ (info.vecServiceBaseInfo.foldl delService p).serviceIDs _
    rw [mem_serviceIDs_foldl_delService]
    split at hq
    · simp at hq
    · rename_i hmem
      refine ⟨h.typed hq, fun s hs _ heq => hmem ?_⟩
      obtain ⟨n, info₀, hinfo₀, -, hid, -⟩ := h.remote hq
      rw [← hid, ← heq]
      exact List.mem_map_of_mem hs
  · intro n n' s s' hs hs'
    exact h.apart (knows_withoutNode.mp hs).2 (knows_withoutNode.mp hs').2
  · intro n s s' hs hs'
    exact h.ownApart hs (knows_withoutNode.mp hs').2

end WithoutNode

/-! ## Calls -/

/-- The types of the services that come or go with a node are updated. -/
theorem TypesOk.updateActive_withNode (h : TypesOk (fun _ => False) p) (nNodeID : UInt32)
    (info : SNodeProxyInfo) :
    TypesOk (fun _ => False) ((p.withNode nNodeID info).updateActiveServiceID
      (serviceTypes info.vecServiceBaseInfo)) := by
  apply TypesOk.updateActive
  have htypes := TypesOk.foldl_addService
    (p := { p with mapNodeProxyInfo := p.mapNodeProxyInfo.insert nNodeID info })
    h info.vecServiceBaseInfo
  refine TypesOk.mono htypes fun t ht => ?_
  exact mem_serviceTypes.mpr (ht.resolve_left id)

theorem TypesOk.updateActive_withoutNode (h : TypesOk (fun _ => False) p) (nNodeID : UInt32)
    (vec : List SServiceBaseInfo) :
    TypesOk (fun _ => False)
      ((p.withoutNode nNodeID vec).updateActiveServiceID (serviceTypes vec)) := by
  apply TypesOk.updateActive
  have htypes := h.foldl_delService vec
  refine TypesOk.mono htypes fun t ht => ?_
  exact mem_serviceTypes.mpr (ht.resolve_left id)

theorem Settled.setSocketID (h : Settled own p)
    (hinfo : p.mapNodeProxyInfo[nNodeID]? = some info) (nSocketID : UInt64) :
    Settled own (p.setSocketID nNodeID info nSocketID) := by
  rw [setSocketID_eq]
  refine ⟨(h.kept.withSocketID nSocketID hinfo).updateActive _, ?_⟩
  have htypes : TypesOk (· ∈ (∅ : StdSet StdString)) p :=
    h.types.mono fun _ => False.elim
  exact TypesOk.updateActive (typesOk_foldl_setServiceSocketID nSocketID
    info.vecServiceBaseInfo h.kept.typed htypes)

theorem Settled.setOtherNodeSocketIDByNodeID (h : Settled own p) (nNodeID : UInt32)
    (nSocketID : UInt64) :
    Settled own (p.setOtherNodeSocketIDByNodeID nNodeID nSocketID).2 := by
  rw [CGlobalServiceRegistryProxy.setOtherNodeSocketIDByNodeID]
  split
  · exact h
  · rename_i info hinfo
    split
    · exact h
    · exact h.setSocketID hinfo nSocketID

theorem Settled.withoutNode (h : Settled own p)
    (hinfo : p.mapNodeProxyInfo[nNodeID]? = some info) :
    Settled own ((p.withoutNode nNodeID info.vecServiceBaseInfo).updateActiveServiceID
      (serviceTypes info.vecServiceBaseInfo)) :=
  ⟨(h.kept.withoutNode hinfo).updateActive _, h.types.updateActive_withoutNode nNodeID _⟩

/-- `delNodeProxyInfo` of a known node. -/
theorem delNodeProxyInfo_eq (hinfo : p.mapNodeProxyInfo[nNodeID]? = some info) :
    p.delNodeProxyInfo nNodeID =
      ((if info.nSocketID ≠ 0 then p.setSocketID nNodeID info 0 else p).withoutNode
        nNodeID info.vecServiceBaseInfo).updateActiveServiceID
          (serviceTypes info.vecServiceBaseInfo) := by
  simp only [delNodeProxyInfo, hinfo, CGlobalServiceRegistryProxy.withoutNode,
    CGlobalServiceRegistryProxy.setOtherNodeSocketIDByNodeID]
  simp

theorem mapNodeProxyInfo_setSocketID (nSocketID : UInt64) :
    (p.setSocketID nNodeID info nSocketID).mapNodeProxyInfo =
      p.mapNodeProxyInfo.insert nNodeID { info with nSocketID } := by
  rw [setSocketID_eq, mapNodeProxyInfo_updateActiveServiceID]
  rfl

theorem getElem?_setSocketID_self (nSocketID : UInt64) :
    (p.setSocketID nNodeID info nSocketID).mapNodeProxyInfo[nNodeID]? =
      some { info with nSocketID } := by
  rw [mapNodeProxyInfo_setSocketID, StdMap.getElem?_insert, if_pos rfl]

theorem Settled.delNodeProxyInfo (h : Settled own p) (nNodeID : UInt32) :
    Settled own (p.delNodeProxyInfo nNodeID) := by
  cases hinfo : p.mapNodeProxyInfo[nNodeID]? with
  | none =>
      simp only [CGlobalServiceRegistryProxy.delNodeProxyInfo, hinfo]
      exact h
  | some info =>
      rw [delNodeProxyInfo_eq hinfo]
      split
      · have hleft := (h.setSocketID hinfo 0).withoutNode (getElem?_setSocketID_self 0)
        exact hleft
      · exact h.withoutNode hinfo

/-- Whether `addNodeProxyInfo` takes the node in. -/
def accepts (p : CGlobalServiceRegistryProxy) (sNodeBaseInfo : SNodeBaseInfo)
    (vecServiceBaseInfo : List SServiceBaseInfo) : Bool :=
  !p.mapNodeProxyInfo.contains sNodeBaseInfo.nID && vecServiceBaseInfo.all p.isFree

theorem addNodeProxyInfo_of_not_accepts {base : SNodeBaseInfo}
    {vec : List SServiceBaseInfo} {bExcludeConnect : Bool}
    (hno : p.accepts base vec = false) :
    p.addNodeProxyInfo base vec bExcludeConnect = p := by
  rw [accepts, Bool.and_eq_false_iff] at hno
  rw [addNodeProxyInfo]
  split
  · rfl
  · rename_i hnew
    rcases hno with hno | hno
    · simp only [Bool.not_eq_false'] at hno
      exact absurd hno hnew
    · rw [hno]
      rfl

/-- A node that is taken in. -/
theorem addNodeProxyInfo_of_accepts {base : SNodeBaseInfo}
    {vec : List SServiceBaseInfo} (bExcludeConnect : Bool)
    (hyes : p.accepts base vec = true) :
    ∃ info : SNodeProxyInfo, info.vecServiceBaseInfo = vec ∧ info.nSocketID = 0 ∧
      p.mapNodeProxyInfo[base.nID]? = none ∧ (∀ s ∈ vec, p.isFree s = true) ∧
      p.addNodeProxyInfo base vec bExcludeConnect =
        (p.withNode base.nID info).updateActiveServiceID (serviceTypes vec) := by
  rw [accepts, Bool.and_eq_true, Bool.not_eq_true', List.all_eq_true] at hyes
  obtain ⟨hnew, hfree⟩ := hyes
  refine ⟨{ sNodeBaseInfo := base
            vecServiceBaseInfo := vec
            nSocketID := 0
            bConnect := p.isConnect vec && !bExcludeConnect &&
              !base.szHost.isEmpty && base.nPort != 0 }, rfl, rfl,
    Std.ExtTreeMap.getElem?_eq_none_of_contains_eq_false hnew, hfree, ?_⟩
  rw [addNodeProxyInfo, if_neg (by rw [hnew]; exact Bool.false_ne_true), if_neg]
  · rfl
  · rw [List.all_eq_true.mpr hfree]
    exact Bool.false_ne_true

theorem Settled.addNodeProxyInfo (h : Settled own p) {base : SNodeBaseInfo}
    {vec : List SServiceBaseInfo} (bExcludeConnect : Bool)
    (hvec : p.accepts base vec = true → Coherent vec) :
    Settled own (p.addNodeProxyInfo base vec bExcludeConnect) := by
  cases haccepts : p.accepts base vec with
  | false =>
      rw [addNodeProxyInfo_of_not_accepts haccepts]
      exact h
  | true =>
      obtain ⟨info, rfl, hsocket, hnew, hfree, heq⟩ :=
        addNodeProxyInfo_of_accepts bExcludeConnect haccepts
      rw [heq]
      exact ⟨(h.kept.withNode hnew hfree (hvec haccepts) hsocket).updateActive _,
        h.types.updateActive_withNode base.nID info⟩

/-- Services that are announced together in a consistent registry are
coherent. -/
theorem Linked.coherent (h : p.Linked own) {vec : List SServiceBaseInfo}
    (hvec : ∀ s ∈ vec, p.Announced own s) : Coherent vec := by
  intro s hs s' hs'
  constructor
  · intro hid
    have hget := (h.ids s.nID s.szName).mpr ⟨s, hvec s hs, rfl, rfl⟩
    have hget' := (h.ids s'.nID s'.szName).mpr ⟨s', hvec s' hs', rfl, rfl⟩
    rw [← hid, hget] at hget'
    exact Option.some.inj hget'
  · intro hname
    have hget := (h.names s.szName s.nID).mpr ⟨s, hvec s hs, rfl, rfl⟩
    have hget' := (h.names s'.szName s'.nID).mpr ⟨s', hvec s' hs', rfl, rfl⟩
    rw [← hname, hget] at hget'
    exact Option.some.inj hget'

theorem Linked.coherent_of_known (h : p.Linked own)
    (hinfo : p.mapNodeProxyInfo[nNodeID]? = some info) :
    Coherent info.vecServiceBaseInfo :=
  h.coherent fun _ hs => .inr ⟨nNodeID, info, hinfo, hs⟩

/-! ## Histories -/

/-- One round of the second loop of `setNodeProxyInfo`. -/
def addUnknown (setExcludeConnectNodeID : StdSet UInt32)
    (p : CGlobalServiceRegistryProxy) (e : UInt32 × SNodeInfo) :
    CGlobalServiceRegistryProxy :=
  if p.mapNodeProxyInfo.contains e.1 then
    p
  else
    p.addNodeProxyInfo e.2.sNodeBaseInfo e.2.vecServiceBaseInfo
      (setExcludeConnectNodeID.contains e.2.sNodeBaseInfo.nID)

/-- The node is taken in by `addUnknown`. -/
def takesIn (p : CGlobalServiceRegistryProxy) (e : UInt32 × SNodeInfo) : Bool :=
  !p.mapNodeProxyInfo.contains e.1 &&
    p.accepts e.2.sNodeBaseInfo e.2.vecServiceBaseInfo

/-- Every list of services that the second loop of `setNodeProxyInfo` takes in is
coherent. -/
def TakesAllCoherent (setExcludeConnectNodeID : StdSet UInt32) :
    CGlobalServiceRegistryProxy → List (UInt32 × SNodeInfo) → Prop
  | _, [] => True
  | p, e :: es =>
      (p.takesIn e = true → Coherent e.2.vecServiceBaseInfo) ∧
        TakesAllCoherent setExcludeConnectNodeID
          (p.addUnknown setExcludeConnectNodeID e) es

/-- Every list of services that the call takes in is coherent. -/
def TakesCoherent (p : CGlobalServiceRegistryProxy) : Call → Prop
  | .addNodeProxyInfo base vec _ => p.accepts base vec = true → Coherent vec
  | .setNodeProxyInfo mapNodeInfo setExcludeConnectNodeID =>
      TakesAllCoherent setExcludeConnectNodeID
        ((p.missingNodes mapNodeInfo).foldl delNodeProxyInfo p) mapNodeInfo.toList
  | _ => True

theorem Settled.addUnknown (h : Settled own p) (setExcludeConnectNodeID : StdSet UInt32)
    {e : UInt32 × SNodeInfo} (he : p.takesIn e = true → Coherent e.2.vecServiceBaseInfo) :
    Settled own (p.addUnknown setExcludeConnectNodeID e) := by
  rw [CGlobalServiceRegistryProxy.addUnknown]
  split
  · exact h
  · rename_i hnew
    refine h.addNodeProxyInfo _ fun haccepts => he ?_
    rw [takesIn, haccepts, Bool.and_true, Bool.not_eq_true', ← Bool.not_eq_true]
    exact hnew

theorem Settled.foldl_addUnknown (h : Settled own p)
    (setExcludeConnectNodeID : StdSet UInt32) {es : List (UInt32 × SNodeInfo)}
    (hes : TakesAllCoherent setExcludeConnectNodeID p es) :
    Settled own
      (es.foldl (CGlobalServiceRegistryProxy.addUnknown setExcludeConnectNodeID) p) := by
  induction es generalizing p with
  | nil => exact h
  | cons e es ih => exact ih (h.addUnknown setExcludeConnectNodeID hes.1) hes.2

theorem Settled.foldl_delNodeProxyInfo (h : Settled own p) (ids : List UInt32) :
    Settled own (ids.foldl CGlobalServiceRegistryProxy.delNodeProxyInfo p) := by
  induction ids generalizing p with
  | nil => exact h
  | cons id ids ih => exact ih (h.delNodeProxyInfo id)

/-- One call keeps the invariant when it takes in coherent lists only. -/
theorem Settled.exec (h : Settled own p) {call : Call} (hcall : p.TakesCoherent call) :
    Settled own (p.exec call) := by
  cases call with
  | addNodeProxyInfo base vec bExcludeConnect =>
      exact h.addNodeProxyInfo bExcludeConnect hcall
  | setNodeProxyInfo mapNodeInfo setExcludeConnectNodeID =>
      exact (h.foldl_delNodeProxyInfo _).foldl_addUnknown setExcludeConnectNodeID hcall
  | delNodeProxyInfo nNodeID => exact h.delNodeProxyInfo nNodeID
  | setOtherNodeSocketIDByNodeID nNodeID nSocketID =>
      exact h.setOtherNodeSocketIDByNodeID nNodeID nSocketID
  | onNodeConnect nNodeID => exact h
  | onNodeDisconnect nNodeID => exact h

/-- One round of the loop of `init`. -/
def addOwn (p : CGlobalServiceRegistryProxy) (s : SServiceBaseInfo) :
    CGlobalServiceRegistryProxy :=
  addServiceID s (addServiceName s p)

theorem foldl_addOwn_parts (vec : List SServiceBaseInfo)
    (p : CGlobalServiceRegistryProxy) :
    (vec.foldl addOwn p).mapNodeProxyInfo = p.mapNodeProxyInfo ∧
      (vec.foldl addOwn p).mapServiceProxyInfo = p.mapServiceProxyInfo ∧
      (vec.foldl addOwn p).mapServiceNameByID =
        vec.foldl (fun m s => m.insert s.szName s.nID) p.mapServiceNameByID ∧
      (vec.foldl addOwn p).mapServiceIDByName =
        vec.foldl (fun m s => m.insert s.nID s.szName) p.mapServiceIDByName := by
  induction vec generalizing p with
  | nil => exact ⟨rfl, rfl, rfl, rfl⟩
  | cons s vec ih => exact ih (addOwn p s)

theorem TypesOk.foldl_addOwn {Stale : StdString → Prop} (h : TypesOk Stale p)
    (vec : List SServiceBaseInfo) :
    TypesOk (fun t => Stale t ∨ ∃ s ∈ vec, s.szType = t) (vec.foldl addOwn p) := by
  induction vec generalizing p Stale with
  | nil => exact h.mono fun _ => .inl
  | cons s vec ih =>
      have hadd : TypesOk (fun t => Stale t ∨ s.szType = t) (addOwn p s) :=
        TypesOk.add (p := addServiceName s p) h s
      refine (ih hadd).mono fun t ht => ?_
      rcases ht with (ht | ht) | ⟨s', hs', ht⟩
      · exact .inl ht
      · exact .inr ⟨s, List.mem_cons_self, ht⟩
      · exact .inr ⟨s', List.mem_cons_of_mem s hs', ht⟩

section Init

variable (setConnectServiceName setConnectServiceType : StdSet StdString)

theorem mapNodeProxyInfo_init :
    (init setConnectServiceName setConnectServiceType own).mapNodeProxyInfo = ∅ := by
  rw [init, mapNodeProxyInfo_updateActiveServiceID]
  exact (foldl_addOwn_parts own _).1

theorem mapServiceProxyInfo_init :
    (init setConnectServiceName setConnectServiceType own).mapServiceProxyInfo =
      ∅ := by
  rw [init, mapServiceProxyInfo_updateActiveServiceID]
  exact (foldl_addOwn_parts own _).2.1

theorem mapServiceNameByID_init :
    (init setConnectServiceName setConnectServiceType own).mapServiceNameByID =
      own.foldl (fun m s => m.insert s.szName s.nID) ∅ := by
  rw [init, mapServiceNameByID_updateActiveServiceID]
  exact (foldl_addOwn_parts own _).2.2.1

theorem mapServiceIDByName_init :
    (init setConnectServiceName setConnectServiceType own).mapServiceIDByName =
      own.foldl (fun m s => m.insert s.nID s.szName) ∅ := by
  rw [init, mapServiceIDByName_updateActiveServiceID]
  exact (foldl_addOwn_parts own _).2.2.2

theorem not_knows_init (n : UInt32) (s : SServiceBaseInfo) :
    ¬ (init setConnectServiceName setConnectServiceType own).Knows n s := by
  rintro ⟨info, hinfo, -⟩
  rw [mapNodeProxyInfo_init] at hinfo
  simp at hinfo

theorem announced_init (s : SServiceBaseInfo) :
    (init setConnectServiceName setConnectServiceType own).Announced own s ↔
      s ∈ own := by
  simp only [Announced, not_knows_init, exists_false, or_false]

theorem typesOk_init :
    TypesOk (fun _ => False) (init setConnectServiceName setConnectServiceType own) := by
  have hempty : TypesOk (fun _ => False)
      { setConnectServiceName, setConnectServiceType } := by
    intro szType info hinfo
    simp at hinfo
  refine TypesOk.updateActive (TypesOk.mono (hempty.foldl_addOwn own) fun t ht => ?_)
  exact mem_serviceTypes.mpr (ht.resolve_left id)

/-- The registry that `init` builds satisfies the invariant. -/
theorem settled_init (hown : Coherent own) :
    Settled own (init setConnectServiceName setConnectServiceType own) where
  types := typesOk_init setConnectServiceName setConnectServiceType
  kept :=
    { names := by
        intro szName id
        rw [mapServiceNameByID_init, StdMap.getElem?_foldl_insert_eq_some
          (fun s hs s' hs' => (hown s hs s' hs').mpr) (by simp)]
        simp [announced_init]
      ids := by
        intro id szName
        rw [mapServiceIDByName_init, StdMap.getElem?_foldl_insert_eq_some
          (fun s hs s' hs' => (hown s hs s' hs').mp) (by simp)]
        simp [announced_init, and_comm (a := SServiceBaseInfo.nID _ = id)]
      sockets := by
        intro n info s hinfo
        rw [mapNodeProxyInfo_init] at hinfo
        simp at hinfo
      remote := by
        intro id q hq
        rw [mapServiceProxyInfo_init] at hq
        simp at hq
      typed := by
        intro id q hq
        rw [mapServiceProxyInfo_init] at hq
        simp at hq
      apart := fun hs => (not_knows_init _ _ _ _ hs).elim
      ownApart := fun _ hs => (not_knows_init _ _ _ _ hs).elim }

end Init

/-! ## What a consistent registry has taken in -/

theorem getElem?_mapNodeProxyInfo_addUnknown {setExcludeConnectNodeID : StdSet UInt32}
    {e : UInt32 × SNodeInfo} (hinfo : p.mapNodeProxyInfo[nNodeID]? = some info) :
    (p.addUnknown setExcludeConnectNodeID e).mapNodeProxyInfo[nNodeID]? =
      some info := by
  rw [addUnknown]
  split
  · exact hinfo
  · cases haccepts : p.accepts e.2.sNodeBaseInfo e.2.vecServiceBaseInfo with
    | false =>
        rw [addNodeProxyInfo_of_not_accepts haccepts]
        exact hinfo
    | true =>
        obtain ⟨info', -, -, hnew, -, heq⟩ := addNodeProxyInfo_of_accepts
          (setExcludeConnectNodeID.contains e.2.sNodeBaseInfo.nID) haccepts
        rw [heq, mapNodeProxyInfo_updateActiveServiceID,
          getElem?_mapNodeProxyInfo_withNode]
        split
        · rename_i hn
          rw [hn, hinfo] at hnew
          cases hnew
        · exact hinfo

theorem getElem?_mapNodeProxyInfo_foldl_addUnknown
    {setExcludeConnectNodeID : StdSet UInt32} {es : List (UInt32 × SNodeInfo)}
    (hinfo : p.mapNodeProxyInfo[nNodeID]? = some info) :
    (es.foldl (addUnknown setExcludeConnectNodeID) p).mapNodeProxyInfo[nNodeID]? =
      some info := by
  induction es generalizing p with
  | nil => exact hinfo
  | cons e es ih => exact ih (getElem?_mapNodeProxyInfo_addUnknown hinfo)

/-- A list of services that was taken in is the list of a known node. -/
theorem exists_info_of_accepts {base : SNodeBaseInfo} {vec : List SServiceBaseInfo}
    (bExcludeConnect : Bool) (haccepts : p.accepts base vec = true) :
    ∃ info : SNodeProxyInfo, info.vecServiceBaseInfo = vec ∧
      (p.addNodeProxyInfo base vec bExcludeConnect).mapNodeProxyInfo[base.nID]? =
        some info := by
  obtain ⟨info, hvec, -, -, -, heq⟩ :=
    addNodeProxyInfo_of_accepts bExcludeConnect haccepts
  refine ⟨info, hvec, ?_⟩
  rw [heq, mapNodeProxyInfo_updateActiveServiceID, getElem?_mapNodeProxyInfo_withNode,
    if_pos rfl]

theorem takesAllCoherent_of_linked {setExcludeConnectNodeID : StdSet UInt32}
    {es : List (UInt32 × SNodeInfo)}
    (h : (es.foldl (addUnknown setExcludeConnectNodeID) p).Linked own) :
    TakesAllCoherent setExcludeConnectNodeID p es := by
  induction es generalizing p with
  | nil => trivial
  | cons e es ih =>
      rw [List.foldl_cons] at h
      refine ⟨fun htakes => ?_, ih h⟩
      rw [takesIn, Bool.and_eq_true, Bool.not_eq_true'] at htakes
      obtain ⟨hnew, haccepts⟩ := htakes
      obtain ⟨info, hvec, hinfo⟩ := exists_info_of_accepts
        (setExcludeConnectNodeID.contains e.2.sNodeBaseInfo.nID) haccepts
      have hstep : p.addUnknown setExcludeConnectNodeID e = _ :=
        if_neg (by rw [hnew]; exact Bool.false_ne_true)
      rw [← hstep] at hinfo
      rw [← hvec]
      exact h.coherent_of_known (getElem?_mapNodeProxyInfo_foldl_addUnknown hinfo)

/-- A call after which the registry is consistent took in coherent lists only. -/
theorem takesCoherent_of_linked {call : Call} (h : (p.exec call).Linked own) :
    p.TakesCoherent call := by
  cases call with
  | addNodeProxyInfo base vec bExcludeConnect =>
      intro haccepts
      obtain ⟨info, hvec, hinfo⟩ := exists_info_of_accepts bExcludeConnect haccepts
      rw [← hvec]
      exact h.coherent_of_known hinfo
  | setNodeProxyInfo mapNodeInfo setExcludeConnectNodeID =>
      exact takesAllCoherent_of_linked h
  | _ => trivial

/-! ## All histories -/

/-- In every history, the registry is consistent after every call if and only if
the services of the node itself and every list of services taken in are
coherent. -/
theorem consistent_throughout_iff
    (setConnectServiceName setConnectServiceType : StdSet StdString)
    (own : List SServiceBaseInfo) (calls : List Call) :
    (∀ ks, ks <+: calls → Consistent own
      (ks.foldl exec (init setConnectServiceName setConnectServiceType own))) ↔
    Coherent own ∧ ∀ ks call, ks ++ [call] <+: calls →
      (ks.foldl exec (init setConnectServiceName setConnectServiceType own)).TakesCoherent
        call := by
  constructor
  · intro h
    refine ⟨(h [] List.nil_prefix).toLinked.coherent fun s hs => .inl hs, ?_⟩
    intro ks call hks
    have hafter := (h _ hks).toLinked
    rw [List.foldl_append] at hafter
    exact takesCoherent_of_linked hafter
  · rintro ⟨hown, hcalls⟩ ks hks
    refine Settled.consistent ?_
    induction ks using List.reverseRecOn with
    | nil => exact settled_init _ _ hown
    | append_singleton ks call ih =>
        have hsettled := ih ((List.prefix_append ks [call]).trans hks)
        rw [List.foldl_append]
        exact hsettled.exec (hcalls ks call hks)

/-- Every list of services that a call announces, with the node. -/
def Call.announces : Call → List (UInt32 × List SServiceBaseInfo)
  | .addNodeProxyInfo base vec _ => [(base.nID, vec)]
  | .setNodeProxyInfo mapNodeInfo _ =>
      mapNodeInfo.toList.map fun e => (e.2.sNodeBaseInfo.nID, e.2.vecServiceBaseInfo)
  | _ => []

/-- The services announced by different nodes, and those of the node itself, have
distinct ids and names. -/
def AnnouncedApart (nSelfID : UInt32) (own : List SServiceBaseInfo)
    (calls : List Call) : Prop :=
  ∀ a ∈ (nSelfID, own) :: calls.flatMap Call.announces,
    ∀ b ∈ (nSelfID, own) :: calls.flatMap Call.announces, a.1 ≠ b.1 →
      ∀ s ∈ a.2, ∀ s' ∈ b.2, s.nID ≠ s'.nID ∧ s.szName ≠ s'.szName

/-- A node with two services of one name. -/
def sameNameCalls : List Call :=
  [.addNodeProxyInfo { (default : SNodeBaseInfo) with nID := 2 }
    [{ nID := 5, szName := [97], szType := [116] },
     { nID := 6, szName := [97], szType := [116] }] false]

/-- The registry has both ids under the one name, but finds only one of them by
it. -/
theorem not_consistent_sameNameCalls :
    ¬ ∀ (nSelfID : UInt32) (own : List SServiceBaseInfo) (calls : List Call),
      AnnouncedApart nSelfID own calls →
        ∀ ks, ks <+: calls → Consistent own (ks.foldl exec (init ∅ ∅ own)) := by
  intro h
  have hapart : AnnouncedApart 1 [] sameNameCalls := by
    intro a ha b hb hab s hs s' hs'
    simp only [sameNameCalls, List.flatMap_cons, List.flatMap_nil, Call.announces,
      List.append_nil, List.mem_cons, List.not_mem_nil, or_false] at ha hb
    -- The only announcement that is not empty is that of node 2.
    rcases ha with rfl | rfl
    · simp at hs
    · rcases hb with rfl | rfl
      · simp at hs'
      · exact absurd rfl hab
  have hconsistent := h 1 [] sameNameCalls hapart sameNameCalls List.prefix_rfl
  have hid : (sameNameCalls.foldl exec (init ∅ ∅ [])).mapServiceIDByName[(5 : UInt32)]? =
      some [97] := by decide
  have hname := (hconsistent.inverse [97] 5).mpr hid
  have hname' : (sameNameCalls.foldl exec (init ∅ ∅ [])).mapServiceNameByID[
      ([97] : StdString)]? = some 6 := by decide
  rw [hname'] at hname
  cases hname

end CGlobalServiceRegistryProxy

end RealtimeEx.Core
