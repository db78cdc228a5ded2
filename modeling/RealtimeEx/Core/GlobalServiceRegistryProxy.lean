import RealtimeEx.Core.ProtoSystem

/-!
# `CGlobalServiceRegistryProxy`

What a node knows about the other nodes and their services: a table of nodes,
two maps between names and ids, the sockets of the remote services, and for each
service type the ids, the active ids, and the active ids as a vector.

The source names two maps the other way round: `m_mapServiceNameByID` takes a
name to an id and `m_mapServiceIDByName` an id to a name.
-/

namespace RealtimeEx.Core

open Base

/-- `SNodeProxyInfo`; `bConnect` says whether the ticker that connects to the
node is registered. -/
structure SNodeProxyInfo where
  sNodeBaseInfo : SNodeBaseInfo
  vecServiceBaseInfo : List SServiceBaseInfo
  nSocketID : UInt64
  bConnect : Bool
  deriving DecidableEq

/-- `SServiceProxyInfo`. -/
structure SServiceProxyInfo where
  sServiceBaseInfo : SServiceBaseInfo
  nSocketID : UInt64
  deriving DecidableEq

/-- `SServiceIDInfo`. -/
structure SServiceIDInfo where
  setServiceID : StdSet UInt32 := ∅
  setActiveServiceID : StdSet UInt32 := ∅
  vecActiveServiceID : List UInt32 := []

/-- The members of `CGlobalServiceRegistryProxy` that concern nodes and
services. -/
structure CGlobalServiceRegistryProxy where
  mapNodeProxyInfo : StdMap UInt32 SNodeProxyInfo := ∅
  mapServiceProxyInfo : StdMap UInt32 SServiceProxyInfo := ∅
  mapServiceNameByID : StdMap StdString UInt32 := ∅
  mapServiceIDByName : StdMap UInt32 StdString := ∅
  mapServiceIDInfoByType : StdMap StdString SServiceIDInfo := ∅
  setConnectServiceName : StdSet StdString := ∅
  setConnectServiceType : StdSet StdString := ∅

namespace CGlobalServiceRegistryProxy

/-! ## Services of one type -/

/-- An access through `m_mapServiceIDInfoByType[szType]`, which creates the
entry. -/
def modifyType (szType : StdString) (f : SServiceIDInfo → SServiceIDInfo)
    (p : CGlobalServiceRegistryProxy) : CGlobalServiceRegistryProxy :=
  { p with
    mapServiceIDInfoByType := p.mapServiceIDInfoByType.insert szType
      (f (p.mapServiceIDInfoByType[szType]?.getD {})) }

/-- `updateActiveServiceID`. -/
def updateActiveServiceID (setType : StdSet StdString)
    (p : CGlobalServiceRegistryProxy) : CGlobalServiceRegistryProxy :=
  setType.toList.foldl
    (fun p szType => p.modifyType szType fun info =>
      { info with vecActiveServiceID := info.setActiveServiceID.toList }) p

/-- The types of a vector of services. -/
def serviceTypes (vecServiceBaseInfo : List SServiceBaseInfo) : StdSet StdString :=
  vecServiceBaseInfo.foldl (fun set s => set.insert s.szType) ∅

/-- A service id joins its type, active. -/
def addServiceID (s : SServiceBaseInfo) (p : CGlobalServiceRegistryProxy) :
    CGlobalServiceRegistryProxy :=
  p.modifyType s.szType fun info =>
    { info with
      setServiceID := info.setServiceID.insert s.nID
      setActiveServiceID := info.setActiveServiceID.insert s.nID }

/-- A service id leaves its type. -/
def eraseServiceID (s : SServiceBaseInfo) (p : CGlobalServiceRegistryProxy) :
    CGlobalServiceRegistryProxy :=
  p.modifyType s.szType fun info =>
    { info with
      setServiceID := info.setServiceID.erase s.nID
      setActiveServiceID := info.setActiveServiceID.erase s.nID }

/-! ## Starting -/

/-- A service gets into the two maps between names and ids. -/
def addServiceName (s : SServiceBaseInfo) (p : CGlobalServiceRegistryProxy) :
    CGlobalServiceRegistryProxy :=
  { p with
    mapServiceNameByID := p.mapServiceNameByID.insert s.szName s.nID
    mapServiceIDByName := p.mapServiceIDByName.insert s.nID s.szName }

/-- `init`: the services of the node itself and its connect wishes. -/
def init (setConnectServiceName setConnectServiceType : StdSet StdString)
    (vecServiceBaseInfo : List SServiceBaseInfo) : CGlobalServiceRegistryProxy :=
  updateActiveServiceID (serviceTypes vecServiceBaseInfo)
    (vecServiceBaseInfo.foldl (fun p s => addServiceID s (addServiceName s p))
      { setConnectServiceName, setConnectServiceType })

/-! ## Sockets -/

/-- One round of the loops of `setOtherNodeSocketIDByNodeID`: the service gets
the socket of its node and becomes active, or inactive with socket 0. -/
def setServiceSocketID (nSocketID : UInt64)
    (acc : CGlobalServiceRegistryProxy × StdSet StdString) (s : SServiceBaseInfo) :
    CGlobalServiceRegistryProxy × StdSet StdString :=
  match acc.1.mapServiceProxyInfo[s.nID]? with
  | none => acc
  | some sServiceProxyInfo =>
      let sServiceBaseInfo := sServiceProxyInfo.sServiceBaseInfo
      (modifyType sServiceBaseInfo.szType
        (fun info =>
          { info with
            setActiveServiceID :=
              if nSocketID ≠ 0 then
                info.setActiveServiceID.insert sServiceBaseInfo.nID
              else
                info.setActiveServiceID.erase sServiceBaseInfo.nID })
        { acc.1 with
          mapServiceProxyInfo := acc.1.mapServiceProxyInfo.insert s.nID
            { sServiceProxyInfo with nSocketID } },
        acc.2.insert sServiceBaseInfo.szType)

/-- `setOtherNodeSocketIDByNodeID` for a known node whose socket may change. -/
def setSocketID (p : CGlobalServiceRegistryProxy) (nNodeID : UInt32)
    (sNodeProxyInfo : SNodeProxyInfo) (nSocketID : UInt64) :
    CGlobalServiceRegistryProxy :=
  let (p, setType) := sNodeProxyInfo.vecServiceBaseInfo.foldl
    (setServiceSocketID nSocketID) (p, ∅)
  updateActiveServiceID setType
    { p with
      mapNodeProxyInfo :=
        p.mapNodeProxyInfo.insert nNodeID { sNodeProxyInfo with nSocketID } }

/-- `setOtherNodeSocketIDByNodeID`, with its result. -/
def setOtherNodeSocketIDByNodeID (p : CGlobalServiceRegistryProxy)
    (nNodeID : UInt32) (nSocketID : UInt64) : Bool × CGlobalServiceRegistryProxy :=
  match p.mapNodeProxyInfo[nNodeID]? with
  | none => (false, p)
  | some sNodeProxyInfo =>
      if nSocketID ≠ 0 ∧ sNodeProxyInfo.nSocketID ≠ 0 then
        (false, p)
      else
        (true, p.setSocketID nNodeID sNodeProxyInfo nSocketID)

/-! ## Nodes -/

/-- Whether a service of the node is one that this node wants to connect to. -/
def isConnect (p : CGlobalServiceRegistryProxy)
    (vecServiceBaseInfo : List SServiceBaseInfo) : Bool :=
  vecServiceBaseInfo.any fun s =>
    p.setConnectServiceName.contains s.szName ||
      p.setConnectServiceType.contains s.szType

/-- The three checks of `addNodeProxyInfo` on every service. -/
def isFree (p : CGlobalServiceRegistryProxy) (s : SServiceBaseInfo) : Bool :=
  !p.mapServiceNameByID.contains s.szName &&
    !p.mapServiceIDByName.contains s.nID &&
    !p.mapServiceProxyInfo.contains s.nID

/-- One round of the loop of `addNodeProxyInfo`. -/
def addService (p : CGlobalServiceRegistryProxy) (s : SServiceBaseInfo) :
    CGlobalServiceRegistryProxy :=
  addServiceID s (addServiceName s
    { p with
      mapServiceProxyInfo := p.mapServiceProxyInfo.insert s.nID
        { sServiceBaseInfo := s, nSocketID := 0 } })

/-- `addNodeProxyInfo`.  A node without an address gets no ticker. -/
def addNodeProxyInfo (p : CGlobalServiceRegistryProxy)
    (sNodeBaseInfo : SNodeBaseInfo) (vecServiceBaseInfo : List SServiceBaseInfo)
    (bExcludeConnect : Bool) : CGlobalServiceRegistryProxy :=
  if p.mapNodeProxyInfo.contains sNodeBaseInfo.nID then
    p
  else if !vecServiceBaseInfo.all p.isFree then
    p
  else
    updateActiveServiceID (serviceTypes vecServiceBaseInfo)
      (vecServiceBaseInfo.foldl addService
        { p with
          mapNodeProxyInfo := p.mapNodeProxyInfo.insert sNodeBaseInfo.nID
            { sNodeBaseInfo
              vecServiceBaseInfo
              nSocketID := 0
              bConnect := p.isConnect vecServiceBaseInfo && !bExcludeConnect &&
                !sNodeBaseInfo.szHost.isEmpty && sNodeBaseInfo.nPort != 0 } })

/-- One round of the loop of `delNodeProxyInfo`. -/
def delService (p : CGlobalServiceRegistryProxy) (s : SServiceBaseInfo) :
    CGlobalServiceRegistryProxy :=
  eraseServiceID s
    { p with
      mapServiceNameByID := p.mapServiceNameByID.erase s.szName
      mapServiceIDByName := p.mapServiceIDByName.erase s.nID
      mapServiceProxyInfo := p.mapServiceProxyInfo.erase s.nID }

/-- `delNodeProxyInfo`.  A node that is still connected is disconnected
first. -/
def delNodeProxyInfo (p : CGlobalServiceRegistryProxy) (nNodeID : UInt32) :
    CGlobalServiceRegistryProxy :=
  match p.mapNodeProxyInfo[nNodeID]? with
  | none => p
  | some sNodeProxyInfo =>
      let p := if sNodeProxyInfo.nSocketID ≠ 0 then
          (p.setOtherNodeSocketIDByNodeID nNodeID 0).2
        else
          p
      let p := sNodeProxyInfo.vecServiceBaseInfo.foldl delService p
      updateActiveServiceID (serviceTypes sNodeProxyInfo.vecServiceBaseInfo)
        { p with mapNodeProxyInfo := p.mapNodeProxyInfo.erase nNodeID }

/-- The known nodes that a list of nodes from a master does not contain. -/
def missingNodes (p : CGlobalServiceRegistryProxy)
    (mapNodeInfo : StdMap UInt32 SNodeInfo) : List UInt32 :=
  (p.mapNodeProxyInfo.toList.map Prod.fst).filter
    fun nNodeID => !mapNodeInfo.contains nNodeID

/-- `setNodeProxyInfo`: nodes that are missing are deleted, then unknown nodes
are added. -/
def setNodeProxyInfo (p : CGlobalServiceRegistryProxy)
    (mapNodeInfo : StdMap UInt32 SNodeInfo)
    (setExcludeConnectNodeID : StdSet UInt32) : CGlobalServiceRegistryProxy :=
  let p := (p.missingNodes mapNodeInfo).foldl delNodeProxyInfo p
  mapNodeInfo.toList.foldl
    (fun p e =>
      if p.mapNodeProxyInfo.contains e.1 then
        p
      else
        p.addNodeProxyInfo e.2.sNodeBaseInfo e.2.vecServiceBaseInfo
          (setExcludeConnectNodeID.contains e.2.sNodeBaseInfo.nID)) p

/-! ## Histories -/

/-- A call of the proxy.  The connection events only notify the services of the
node. -/
inductive Call
  | addNodeProxyInfo (sNodeBaseInfo : SNodeBaseInfo)
      (vecServiceBaseInfo : List SServiceBaseInfo) (bExcludeConnect : Bool)
  | setNodeProxyInfo (mapNodeInfo : StdMap UInt32 SNodeInfo)
      (setExcludeConnectNodeID : StdSet UInt32)
  | delNodeProxyInfo (nNodeID : UInt32)
  | setOtherNodeSocketIDByNodeID (nNodeID : UInt32) (nSocketID : UInt64)
  | onNodeConnect (nNodeID : UInt32)
  | onNodeDisconnect (nNodeID : UInt32)

/-- The proxy after the call. -/
def exec (p : CGlobalServiceRegistryProxy) : Call → CGlobalServiceRegistryProxy
  | .addNodeProxyInfo base vec bExcludeConnect =>
      p.addNodeProxyInfo base vec bExcludeConnect
  | .setNodeProxyInfo mapNodeInfo setExcludeConnectNodeID =>
      p.setNodeProxyInfo mapNodeInfo setExcludeConnectNodeID
  | .delNodeProxyInfo nNodeID => p.delNodeProxyInfo nNodeID
  | .setOtherNodeSocketIDByNodeID nNodeID nSocketID =>
      (p.setOtherNodeSocketIDByNodeID nNodeID nSocketID).2
  | .onNodeConnect _ => p
  | .onNodeDisconnect _ => p

end CGlobalServiceRegistryProxy

end RealtimeEx.Core
