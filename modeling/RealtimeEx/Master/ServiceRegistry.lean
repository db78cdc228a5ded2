import RealtimeEx.Core.ProtoSystem

/-!
# `CServiceRegistry`

The registry of a master: the nodes that have registered, with four indexes
over their services.  `addNode` and `delNode` return the messages they send, each
with the socket it is sent to.
-/

namespace RealtimeEx.Master

open Base RealtimeEx.Core

/-- `CServiceRegistry::SNodeProxyInfo`. -/
structure SNodeProxyInfo where
  sNodeBaseInfo : SNodeBaseInfo
  mapServiceBaseInfo : StdMap UInt32 SServiceBaseInfo
  vecServiceBaseInfo : List SServiceBaseInfo
  setConnectServiceName : StdSet StdString
  setConnectServiceType : StdSet StdString
  nSocketID : UInt64

/-- The members of `CServiceRegistry`.  Names and types of services are mapped
to node ids. -/
structure CServiceRegistry where
  mapNodeProxyInfo : StdMap UInt32 SNodeProxyInfo := ∅
  mapServiceName : StdMap StdString UInt32 := ∅
  mapServiceType : StdMap StdString (StdSet UInt32) := ∅
  setServiceID : StdSet UInt32 := ∅

/-- A message and the socket it is sent to. -/
abbrev Send := UInt64 × SystemMessage

/-- The header of a new message; `pack` overwrites the size. -/
def newHeader (nMessageID : UInt32) : MessageHeader where
  nMessageSize := 0
  nMessageID := nMessageID

namespace CServiceRegistry

/-! ## Who connects to whom -/

/-- The nodes with a service of the type. -/
def typeNodes (r : CServiceRegistry) (szType : StdString) : StdSet UInt32 :=
  r.mapServiceType[szType]?.getD ∅

/-- The `callback` of `isExcludeConnectNode`: both loops go over the connect
names. -/
def wantsToConnect (r : CServiceRegistry)
    (sSrcNodeProxyInfo sDstNodeProxyInfo : SNodeProxyInfo) : Bool :=
  (sSrcNodeProxyInfo.setConnectServiceName.toList.any fun szName =>
    r.mapServiceName[szName]? == some sDstNodeProxyInfo.sNodeBaseInfo.nID) ||
  (sSrcNodeProxyInfo.setConnectServiceName.toList.any fun szName =>
    (r.typeNodes szName).contains sDstNodeProxyInfo.sNodeBaseInfo.nID)

/-- `isExcludeConnectNode`. -/
def isExcludeConnectNode (r : CServiceRegistry)
    (sSrcNodeProxyInfo sDstNodeProxyInfo : SNodeProxyInfo) : Bool :=
  if !r.wantsToConnect sSrcNodeProxyInfo sDstNodeProxyInfo then
    false
  else if !r.wantsToConnect sDstNodeProxyInfo sSrcNodeProxyInfo then
    false
  else
    sDstNodeProxyInfo.sNodeBaseInfo.nID ≤ sSrcNodeProxyInfo.sNodeBaseInfo.nID

/-! ## `addNode` -/

/-- The entries of the other nodes. -/
def others (r : CServiceRegistry) (nNodeID : UInt32) : List SNodeProxyInfo :=
  (r.mapNodeProxyInfo.toList.map Prod.snd).filter
    fun info => info.sNodeBaseInfo.nID != nNodeID

/-- The `smt_sync_all_node_base_info` for the node that registers. -/
def syncAllNodeBaseInfo (r : CServiceRegistry) (sNodeProxyInfo : SNodeProxyInfo)
    (sNodeBaseInfo : SNodeBaseInfo) : SmtSyncAllNodeBaseInfo where
  toMessageHeader := newHeader 5
  mapNodeInfo := (r.others sNodeBaseInfo.nID).foldl
    (fun map info => map.insert info.sNodeBaseInfo.nID
      { sNodeBaseInfo := info.sNodeBaseInfo
        vecServiceBaseInfo := info.vecServiceBaseInfo }) ∅
  setExcludeConnectNodeID :=
    ((r.others sNodeBaseInfo.nID).filter
      fun info => r.isExcludeConnectNode sNodeProxyInfo info).foldl
      (fun set info => set.insert info.sNodeBaseInfo.nID) ∅

/-- The `smt_sync_node_base_info` about the node that registers. -/
def syncNodeBaseInfo (r : CServiceRegistry) (sNodeProxyInfo : SNodeProxyInfo)
    (sNodeBaseInfo : SNodeBaseInfo) (vecServiceBaseInfo : List SServiceBaseInfo)
    (sOtherNodeProxyInfo : SNodeProxyInfo) : SmtSyncNodeBaseInfo where
  toMessageHeader := newHeader 4
  sNodeBaseInfo := sNodeBaseInfo
  vecServiceBaseInfo := vecServiceBaseInfo
  bExcludeConnect :=
    if r.isExcludeConnectNode sOtherNodeProxyInfo sNodeProxyInfo then 1 else 0

/-- The checks of one service of a new node.  The two local maps are never
filled. -/
def isDup (r : CServiceRegistry)
    (mapServiceBaseInfoByID : StdMap UInt32 SServiceBaseInfo)
    (mapServiceBaseInfoByName : StdMap StdString SServiceBaseInfo)
    (sServiceBaseInfo : SServiceBaseInfo) : Bool :=
  r.mapServiceName.contains sServiceBaseInfo.szName ||
    r.setServiceID.contains sServiceBaseInfo.nID ||
    mapServiceBaseInfoByID.contains sServiceBaseInfo.nID ||
    mapServiceBaseInfoByName.contains sServiceBaseInfo.szName

/-- One round of the loop that fills the indexes. -/
def indexService (nNodeID : UInt32) (r : CServiceRegistry)
    (sServiceBaseInfo : SServiceBaseInfo) : CServiceRegistry :=
  { r with
    setServiceID := r.setServiceID.insert sServiceBaseInfo.nID
    mapServiceName := r.mapServiceName.insert sServiceBaseInfo.szName nNodeID
    mapServiceType := r.mapServiceType.insert sServiceBaseInfo.szType
      ((r.typeNodes sServiceBaseInfo.szType).insert nNodeID) }

/-- `addNode` from the point where the node's entry is in the table. -/
def announce (r : CServiceRegistry) (sNodeProxyInfo : SNodeProxyInfo)
    (sNodeBaseInfo : SNodeBaseInfo) (vecServiceBaseInfo : List SServiceBaseInfo) :
    CServiceRegistry × List Send :=
  let nNodeID := sNodeBaseInfo.nID
  let r := vecServiceBaseInfo.foldl (indexService nNodeID)
    { r with mapNodeProxyInfo := r.mapNodeProxyInfo.insert nNodeID sNodeProxyInfo }
  (r, (sNodeProxyInfo.nSocketID,
      .syncAllNodeBaseInfo (r.syncAllNodeBaseInfo sNodeProxyInfo sNodeBaseInfo)) ::
    ((r.others nNodeID).filter fun info => info.nSocketID != 0).map fun info =>
      (info.nSocketID,
        .syncNodeBaseInfo
          (r.syncNodeBaseInfo sNodeProxyInfo sNodeBaseInfo vecServiceBaseInfo info)))

/-- `addNode`; `none` is `false`, with nothing changed and nothing sent. -/
def addNode (r : CServiceRegistry) (nSocketID : UInt64)
    (sNodeBaseInfo : SNodeBaseInfo) (vecServiceBaseInfo : List SServiceBaseInfo)
    (setConnectServiceName setConnectServiceType : StdSet StdString) :
    Option (CServiceRegistry × List Send) :=
  match r.mapNodeProxyInfo[sNodeBaseInfo.nID]? with
  | some sNodeProxyInfo =>
      if sNodeProxyInfo.nSocketID ≠ 0 then
        none
      else
        some (r.announce { sNodeProxyInfo with nSocketID } sNodeBaseInfo
          vecServiceBaseInfo)
  | none =>
      let mapServiceBaseInfoByID : StdMap UInt32 SServiceBaseInfo := ∅
      let mapServiceBaseInfoByName : StdMap StdString SServiceBaseInfo := ∅
      if vecServiceBaseInfo.any
          (r.isDup mapServiceBaseInfoByID mapServiceBaseInfoByName) then
        none
      else
        some (r.announce
          { sNodeBaseInfo
            mapServiceBaseInfo := mapServiceBaseInfoByID
            vecServiceBaseInfo
            setConnectServiceName
            setConnectServiceType
            nSocketID }
          sNodeBaseInfo vecServiceBaseInfo)

/-! ## `delNode` and `disconnectNode` -/

/-- One round of the loop that clears the indexes: service ids are erased from
sets of node ids. -/
def unindexService (r : CServiceRegistry) (sServiceBaseInfo : SServiceBaseInfo) :
    CServiceRegistry :=
  { r with
    setServiceID := r.setServiceID.erase sServiceBaseInfo.nID
    mapServiceName := r.mapServiceName.erase sServiceBaseInfo.szName
    mapServiceType := r.mapServiceType.insert sServiceBaseInfo.szType
      ((r.typeNodes sServiceBaseInfo.szType).erase sServiceBaseInfo.nID) }

/-- `delNode`. -/
def delNode (r : CServiceRegistry) (nNodeID : UInt32) :
    CServiceRegistry × List Send :=
  match r.mapNodeProxyInfo[nNodeID]? with
  | none => (r, [])
  | some sNodeProxyInfo =>
      let r := sNodeProxyInfo.vecServiceBaseInfo.foldl unindexService r
      let mapNodeProxyInfo := r.mapNodeProxyInfo.erase nNodeID
      ({ r with mapNodeProxyInfo },
        ((mapNodeProxyInfo.toList.map Prod.snd).filter
          fun info => info.nSocketID != 0).map fun info =>
            (info.nSocketID, .removeNodeBaseInfo
              { toMessageHeader := newHeader 6, nNodeID }))

/-- `disconnectNode`. -/
def disconnectNode (r : CServiceRegistry) (nNodeID : UInt32) : CServiceRegistry :=
  match r.mapNodeProxyInfo[nNodeID]? with
  | none => r
  | some sNodeProxyInfo =>
      { r with
        mapNodeProxyInfo := r.mapNodeProxyInfo.insert nNodeID
          { sNodeProxyInfo with nSocketID := 0 } }

end CServiceRegistry

/-! ## Histories -/

/-- A call of the registry. -/
inductive RegistryCall
  | addNode (nSocketID : UInt64) (sNodeBaseInfo : SNodeBaseInfo)
      (vecServiceBaseInfo : List SServiceBaseInfo)
      (setConnectServiceName setConnectServiceType : StdSet StdString)
  | delNode (nNodeID : UInt32)
  | disconnectNode (nNodeID : UInt32)

namespace CServiceRegistry

/-- The registry after the call. -/
def exec (r : CServiceRegistry) : RegistryCall → CServiceRegistry
  | .addNode nSocketID sNodeBaseInfo vecServiceBaseInfo names types =>
      match r.addNode nSocketID sNodeBaseInfo vecServiceBaseInfo names types with
      | none => r
      | some (r', _) => r'
  | .delNode nNodeID => (r.delNode nNodeID).1
  | .disconnectNode nNodeID => r.disconnectNode nNodeID

/-- The registry of a new master after the calls. -/
def after (calls : List RegistryCall) : CServiceRegistry := calls.foldl exec {}

theorem after_snoc (calls : List RegistryCall) (call : RegistryCall) :
    after (calls ++ [call]) = (after calls).exec call := by
  rw [after, List.foldl_append]
  rfl

/-! ## What the calls do to the parts -/

@[simp] theorem mapNodeProxyInfo_foldl_indexService (nNodeID : UInt32)
    (vec : List SServiceBaseInfo) (r : CServiceRegistry) :
    (vec.foldl (indexService nNodeID) r).mapNodeProxyInfo = r.mapNodeProxyInfo := by
  induction vec generalizing r with
  | nil => rfl
  | cons s vec ih =>
      rw [List.foldl_cons, ih]
      rfl

theorem mem_setServiceID_foldl_indexService {nNodeID id : UInt32}
    {vec : List SServiceBaseInfo} {r : CServiceRegistry} :
    id ∈ (vec.foldl (indexService nNodeID) r).setServiceID ↔
      id ∈ r.setServiceID ∨ ∃ s ∈ vec, s.nID = id := by
  induction vec generalizing r with
  | nil => simp
  | cons s vec ih =>
      rw [List.foldl_cons, ih]
      simp only [indexService, StdSet.mem_insert, List.mem_cons, exists_eq_or_imp]
      tauto

theorem getElem?_mapServiceName_foldl_indexService {nNodeID : UInt32}
    {szName : StdString} {vec : List SServiceBaseInfo} {r : CServiceRegistry} :
    (vec.foldl (indexService nNodeID) r).mapServiceName[szName]? =
      if szName ∈ vec.map SServiceBaseInfo.szName then some nNodeID
      else r.mapServiceName[szName]? := by
  induction vec generalizing r with
  | nil => simp
  | cons s vec ih =>
      rw [List.foldl_cons, ih]
      simp only [indexService, StdMap.getElem?_insert, List.map_cons, List.mem_cons]
      by_cases hmem : szName ∈ vec.map SServiceBaseInfo.szName
      · simp [hmem]
      · by_cases hname : s.szName = szName
        · simp [hname]
        · simp [hmem, hname, Ne.symm hname]

theorem mem_typeNodes_indexService {nNodeID n : UInt32} {szType : StdString}
    {s : SServiceBaseInfo} {r : CServiceRegistry} :
    n ∈ (indexService nNodeID r s).typeNodes szType ↔
      n ∈ r.typeNodes szType ∨ n = nNodeID ∧ s.szType = szType := by
  have hinsert : (indexService nNodeID r s).typeNodes szType =
      if s.szType = szType then (r.typeNodes s.szType).insert nNodeID
      else r.typeNodes szType := by
    simp only [indexService, typeNodes, StdMap.getElem?_insert]
    split <;> rfl
  rw [hinsert]
  by_cases htype : s.szType = szType
  · rw [if_pos htype, StdSet.mem_insert, htype]
    tauto
  · rw [if_neg htype]
    tauto

theorem mem_typeNodes_foldl_indexService {nNodeID n : UInt32} {szType : StdString}
    {vec : List SServiceBaseInfo} {r : CServiceRegistry} :
    n ∈ (vec.foldl (indexService nNodeID) r).typeNodes szType ↔
      n ∈ r.typeNodes szType ∨ n = nNodeID ∧ ∃ s ∈ vec, s.szType = szType := by
  induction vec generalizing r with
  | nil => simp
  | cons s vec ih =>
      rw [List.foldl_cons, ih, mem_typeNodes_indexService]
      simp only [List.mem_cons, exists_eq_or_imp]
      tauto

@[simp] theorem mapNodeProxyInfo_foldl_unindexService
    (vec : List SServiceBaseInfo) (r : CServiceRegistry) :
    (vec.foldl unindexService r).mapNodeProxyInfo = r.mapNodeProxyInfo := by
  induction vec generalizing r with
  | nil => rfl
  | cons s vec ih =>
      rw [List.foldl_cons, ih]
      rfl

theorem mem_setServiceID_foldl_unindexService {id : UInt32}
    {vec : List SServiceBaseInfo} {r : CServiceRegistry} :
    id ∈ (vec.foldl unindexService r).setServiceID ↔
      id ∈ r.setServiceID ∧ ∀ s ∈ vec, s.nID ≠ id := by
  induction vec generalizing r with
  | nil => simp
  | cons s vec ih =>
      rw [List.foldl_cons, ih]
      simp only [unindexService, StdSet.mem_erase, List.mem_cons, forall_eq_or_imp]
      tauto

theorem getElem?_mapServiceName_foldl_unindexService
    {szName : StdString} {vec : List SServiceBaseInfo} {r : CServiceRegistry} :
    (vec.foldl unindexService r).mapServiceName[szName]? =
      if szName ∈ vec.map SServiceBaseInfo.szName then none
      else r.mapServiceName[szName]? := by
  induction vec generalizing r with
  | nil => simp
  | cons s vec ih =>
      rw [List.foldl_cons, ih]
      simp only [unindexService, StdMap.getElem?_erase, List.map_cons, List.mem_cons]
      by_cases hmem : szName ∈ vec.map SServiceBaseInfo.szName
      · simp [hmem]
      · by_cases hname : s.szName = szName
        · simp [hname]
        · simp [hmem, hname, Ne.symm hname]

theorem mem_typeNodes_foldl_unindexService {n : UInt32} {szType : StdString}
    {vec : List SServiceBaseInfo} {r : CServiceRegistry} :
    n ∈ (vec.foldl unindexService r).typeNodes szType ↔
      n ∈ r.typeNodes szType ∧ ∀ s ∈ vec, s.szType = szType → s.nID ≠ n := by
  induction vec generalizing r with
  | nil => simp
  | cons s vec ih =>
      have herase : (unindexService r s).typeNodes szType =
          if s.szType = szType then (r.typeNodes s.szType).erase s.nID
          else r.typeNodes szType := by
        simp only [unindexService, typeNodes, StdMap.getElem?_insert]
        split <;> rfl
      rw [List.foldl_cons, ih, herase]
      simp only [List.mem_cons, forall_eq_or_imp]
      by_cases htype : s.szType = szType
      · rw [if_pos htype, StdSet.mem_erase, htype]
        tauto
      · rw [if_neg htype]
        tauto

end CServiceRegistry

end RealtimeEx.Master
