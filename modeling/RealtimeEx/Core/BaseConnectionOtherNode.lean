import RealtimeEx.Core.CoreWebsocketConnection
import RealtimeEx.Core.GlobalServiceRegistryProxyChanges
import RealtimeEx.Support.OpenClose

/-!
# Connections to other nodes

`CBaseConnectionOtherNode`: the handshake over a connection between two nodes, the
socket that the node table keeps for the other node, and what the services of the node
are told about the services of the other one.

Everything here runs on the main thread of a node.  A call returns the messages that it
sends over the connection it was made for.
-/

namespace RealtimeEx.Core

open Base

/-! ## What a node holds -/

/-- A system message between two nodes, without its header; `invalid` are all message
ids that the connection has no case for. -/
inductive NodeMessage
  | handshakeRequest (nNodeID : UInt32)
  | handshakeResponse (nNodeID : UInt32)
  | invalid (nMessageID : UInt32)
  deriving DecidableEq

/-- `SMCT_SERVICE_CONNECT` or `SMCT_SERVICE_DISCONNECT`. -/
structure ServiceNotice where
  bConnect : Bool
  szType : StdString
  nID : UInt32
  deriving DecidableEq

/-- A call of `onNodeConnect` or `onNodeDisconnect`, with the socket of the connection
it was made for. -/
structure NodeEvent where
  bConnect : Bool
  nNodeID : UInt32
  nSocketID : UInt64
  deriving DecidableEq

/-- `CBaseConnectionOtherNode`, with what it has asked the network thread to shut
down. -/
structure CBaseConnectionOtherNode where
  eMode : ENetConnecterMode
  nNodeID : UInt32 := 0
  bClosing : Bool := false
  shutdowns : List (Bool × String) := []
  deriving DecidableEq

/-- The part of `CCoreApp` that the connections to other nodes work on.  Of the local
services only their queues count, and of these only the notices about services of other
nodes. -/
structure CCoreApp where
  nNodeID : UInt32
  proxy : CGlobalServiceRegistryProxy
  mapBaseConnectionByID : UInt64 → Option CBaseConnectionOtherNode := fun _ => none
  vecCoreService : List (List ServiceNotice)
  nodeEvents : List NodeEvent := []

/-! ## The node table -/

namespace CGlobalServiceRegistryProxy

/-- `getServiceBaseInfoByNodeID`. -/
def getServiceBaseInfoByNodeID (p : CGlobalServiceRegistryProxy) (nNodeID : UInt32) :
    Option (List SServiceBaseInfo) :=
  p.mapNodeProxyInfo[nNodeID]?.map SNodeProxyInfo.vecServiceBaseInfo

/-- The socket that is stored for a node, 0 for an unknown one. -/
def socketID (p : CGlobalServiceRegistryProxy) (nNodeID : UInt32) : UInt64 :=
  (p.mapNodeProxyInfo[nNodeID]?.map SNodeProxyInfo.nSocketID).getD 0

/-- The ticker of a node connects to it. -/
def connects (p : CGlobalServiceRegistryProxy) (nNodeID : UInt32) : Bool :=
  p.mapNodeProxyInfo[nNodeID]?.any fun info => info.bConnect && info.nSocketID == 0

end CGlobalServiceRegistryProxy

/-! ## The connection -/

/-- `CBaseConnection::shutdown`. -/
def CBaseConnectionOtherNode.shutdown (c : CBaseConnectionOtherNode) (bForce : Bool)
    (szMsg : String) : CBaseConnectionOtherNode :=
  if c.bClosing then
    c
  else
    { c with bClosing := true, shutdowns := c.shutdowns ++ [(bForce, szMsg)] }

namespace CCoreApp

variable (app : CCoreApp)

/-- Set or erase an entry of the manager of the connections. -/
def setBaseConnection (nSocketID : UInt64) (c : Option CBaseConnectionOtherNode) :
    CCoreApp :=
  { app with
    mapBaseConnectionByID := Function.update app.mapBaseConnectionByID nSocketID c }

/-- `onNodeConnect` and `onNodeDisconnect`: every local service is told of every service
of the node. -/
def onNodeEvent (bConnect : Bool) (nNodeID : UInt32) (nSocketID : UInt64) : CCoreApp :=
  let vecServiceBaseInfo := (app.proxy.getServiceBaseInfoByNodeID nNodeID).getD []
  { app with
    vecCoreService := app.vecCoreService.map fun queue =>
      queue ++ vecServiceBaseInfo.map fun s => ⟨bConnect, s.szType, s.nID⟩
    nodeEvents := app.nodeEvents ++ [⟨bConnect, nNodeID, nSocketID⟩] }

/-- `CGlobalServiceRegistryProxy::onNodeConnect`. -/
def onNodeConnect (nNodeID : UInt32) (nSocketID : UInt64) : CCoreApp :=
  app.onNodeEvent true nNodeID nSocketID

/-- `CGlobalServiceRegistryProxy::onNodeDisconnect`. -/
def onNodeDisconnect (nNodeID : UInt32) (nSocketID : UInt64) : CCoreApp :=
  app.onNodeEvent false nNodeID nSocketID

/-- `CBaseConnectionMgrImpl::onConnect` with `CBaseConnectionOtherNode::onConnect`. -/
def onConnect (nSocketID : UInt64) (eMode : ENetConnecterMode) :
    CCoreApp × List NodeMessage :=
  (app.setBaseConnection nSocketID (some { eMode }),
    if eMode = .initiative then [.handshakeRequest app.nNodeID] else [])

/-- `CBaseConnectionMgrImpl::onDisconnect` with
`CBaseConnectionOtherNode::onDisconnect`. -/
def onDisconnect (nSocketID : UInt64) : CCoreApp :=
  match app.mapBaseConnectionByID nSocketID with
  | none => app
  | some c =>
      let app := app.setBaseConnection nSocketID none
      if c.nNodeID ≠ 0 then
        { app with
          proxy := (app.proxy.setOtherNodeSocketIDByNodeID c.nNodeID 0).2 }.onNodeDisconnect
            c.nNodeID nSocketID
      else
        app

/-- A handshake message of a node: its socket is stored, if there is none yet, and the
connection gets its id, otherwise the connection is shut down. -/
def handshake (nSocketID : UInt64) (c : CBaseConnectionOtherNode) (nNodeID : UInt32)
    (szDup : String) : Bool × CCoreApp :=
  let r := app.proxy.setOtherNodeSocketIDByNodeID nNodeID nSocketID
  if r.1 then
    (true, { app with proxy := r.2 }.setBaseConnection nSocketID
      (some { c with nNodeID }))
  else
    (false, { app with proxy := r.2 }.setBaseConnection nSocketID
      (some (c.shutdown true szDup)))

/-- `eSMT_node_handshake_request`; a connection that has a node already fails the
`DebugAst`. -/
def onHandshakeRequest (nSocketID : UInt64) (c : CBaseConnectionOtherNode)
    (nNodeID : UInt32) : CCoreApp × List NodeMessage :=
  if c.nNodeID ≠ 0 then
    (app, [])
  else if (app.proxy.getServiceBaseInfoByNodeID nNodeID).isNone then
    (app.setBaseConnection nSocketID (some (c.shutdown true "node info not find")), [])
  else
    let r := app.handshake nSocketID c nNodeID "dup node connection passive mode"
    if r.1 then
      (r.2.onNodeConnect nNodeID nSocketID, [.handshakeResponse app.nNodeID])
    else
      (r.2, [])

/-- `eSMT_node_handshake_response`. -/
def onHandshakeResponse (nSocketID : UInt64) (c : CBaseConnectionOtherNode)
    (nNodeID : UInt32) : CCoreApp :=
  let r := app.handshake nSocketID c nNodeID "dup node connection initiative mode"
  if r.1 then
    r.2.onNodeConnect nNodeID nSocketID
  else
    r.2

/-- `CBaseConnectionOtherNode::onDispatch`. -/
def onDispatch (nSocketID : UInt64) (m : NodeMessage) : CCoreApp × List NodeMessage :=
  match app.mapBaseConnectionByID nSocketID with
  | none => (app, [])
  | some c =>
      match m with
      | .handshakeRequest nNodeID => app.onHandshakeRequest nSocketID c nNodeID
      | .handshakeResponse nNodeID => (app.onHandshakeResponse nSocketID c nNodeID, [])
      | .invalid _ => (app, [])

/-! ## Changes of the node table -/

/-- `addNodeProxyInfo`. -/
def addNodeProxyInfo (sNodeBaseInfo : SNodeBaseInfo)
    (vecServiceBaseInfo : List SServiceBaseInfo) (bExcludeConnect : Bool) : CCoreApp :=
  { app with
    proxy := app.proxy.addNodeProxyInfo sNodeBaseInfo vecServiceBaseInfo bExcludeConnect }

/-- The connection of a node that is deleted: its node id is reset, so that its
disconnect is not told a second time.  The stored socket is reset by the deletion. -/
def dropNode (nNodeID : UInt32) (nSocketID : UInt64) (c : CBaseConnectionOtherNode) :
    CCoreApp :=
  (app.setBaseConnection nSocketID
    (some ({ c with nNodeID := 0 }.shutdown true "del node"))).onNodeDisconnect
      nNodeID nSocketID

/-- `delNodeProxyInfo`.  Without a connection for a stored socket a null pointer is
called. -/
def delNodeProxyInfo (nNodeID : UInt32) : CCoreApp :=
  if app.proxy.socketID nNodeID ≠ 0 then
    match app.mapBaseConnectionByID (app.proxy.socketID nNodeID) with
    | none => app
    | some c =>
        { app.dropNode nNodeID (app.proxy.socketID nNodeID) c with
          proxy := app.proxy.delNodeProxyInfo nNodeID }
  else
    { app with proxy := app.proxy.delNodeProxyInfo nNodeID }

/-- `setNodeProxyInfo`. -/
def setNodeProxyInfo (mapNodeInfo : StdMap UInt32 SNodeInfo)
    (setExcludeConnectNodeID : StdSet UInt32) : CCoreApp :=
  let app := (app.proxy.missingNodes mapNodeInfo).foldl delNodeProxyInfo app
  { app with
    proxy := mapNodeInfo.toList.foldl
      (CGlobalServiceRegistryProxy.addUnknown setExcludeConnectNodeID) app.proxy }

end CCoreApp

end RealtimeEx.Core
