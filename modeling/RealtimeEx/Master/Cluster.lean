import RealtimeEx.Core.GlobalServiceRegistryProxyChanges
import RealtimeEx.Master.ConnectionFromNode
import RealtimeEx.Support.Transition
import Mathlib.Logic.Function.Basic

/-!
# Masters and nodes

Every node connects to every master and registers there.  A master tells the node
that registers about all nodes it knows and all connected nodes about that one.
Messages on one connection arrive in order; between connections there is no order.
A master that is restarted has an empty registry, and the nodes connect and register
again.
-/

namespace RealtimeEx.Master

open Base RealtimeEx.Core

/-! ## Connections -/

/-- A connection of a node with a master: the two ends, the socket and the member
`m_nNodeID` of the master's end, which ends are open, and the messages on the way to
the node. -/
structure Link where
  nMasterID : UInt32 := 0
  nPeerID : UInt32 := 0
  nSocketID : UInt64 := 0
  nNodeID : UInt32 := 0
  bMaster : Bool := false
  bNode : Bool := false
  queue : List SystemMessage := []

namespace Link

/-- The messages of a master that are sent on the connection, as the node unpacks
them. -/
def incoming (l : Link) (nMasterID : UInt32) (sends : List Send) : List SystemMessage :=
  if l.nMasterID = nMasterID ∧ l.bMaster ∧ l.bNode then
    (sends.filter fun send => send.1 = l.nSocketID).map fun send => send.2.received
  else
    []

/-- They join the messages on the way. -/
def take (l : Link) (nMasterID : UInt32) (sends : List Send) : Link :=
  { l with queue := l.queue ++ l.incoming nMasterID sends }

end Link

/-! ## Events -/

/-- The masters with their registries, the nodes with their proxies, the connections,
and the nodes that have been taken off line on a master. -/
structure Cluster where
  registry : UInt32 → CServiceRegistry := fun _ => {}
  proxy : UInt32 → CGlobalServiceRegistryProxy := fun _ => {}
  link : ℕ → Link := fun _ => {}
  offline : UInt32 → Prop := fun _ => False

/-- What happens in a cluster.  A connection is given by its number. -/
inductive ClusterEvent
  | connects (c : ℕ) (nMasterID nNodeID : UInt32) (nSocketID : UInt64)
  | registers (c : ℕ) (m : SmtRegisterNodeBaseInfo)
  | unregisters (c : ℕ)
  | delivers (c : ℕ)
  | disconnects (c : ℕ)
  | closes (c : ℕ)
  | restarts (nMasterID : UInt32)
  | starts (nNodeID : UInt32) (setConnectServiceName setConnectServiceType : StdSet StdString)
      (vecServiceBaseInfo : List SServiceBaseInfo)
  | meets (nNodeID nOtherNodeID : UInt32) (nSocketID : UInt64)

/-- `CBaseConnectionToMaster::onDispatch` for the messages about nodes. -/
def dispatch (p : CGlobalServiceRegistryProxy) : SystemMessage → CGlobalServiceRegistryProxy
  | .syncNodeBaseInfo m =>
      p.addNodeProxyInfo m.sNodeBaseInfo m.vecServiceBaseInfo (m.bExcludeConnect ≠ 0)
  | .syncAllNodeBaseInfo m => p.setNodeProxyInfo m.mapNodeInfo m.setExcludeConnectNodeID
  | .removeNodeBaseInfo m => p.delNodeProxyInfo m.nNodeID
  | _ => p

namespace Cluster

/-- A master has a new registry and sends messages. -/
def post (s : Cluster) (nMasterID : UInt32) (r : CServiceRegistry) (sends : List Send) :
    Cluster :=
  { s with
    registry := Function.update s.registry nMasterID r
    link := fun c => (s.link c).take nMasterID sends }

/-- The event.  `connects`, `registers`, `unregisters` and `disconnects` are what
`CConnectionFromNode` does; a registration that is refused changes nothing, and the
connection is closed after it.  `closes` is the node's end of a connection, `starts` a
new process of a node, and `meets` a connection between two nodes. -/
def next (s : Cluster) : ClusterEvent → Cluster
  | .connects c nMasterID nNodeID nSocketID =>
      { s with
        link := Function.update s.link c
          { nMasterID, nPeerID := nNodeID, nSocketID, bMaster := true, bNode := true } }
  | .registers c m =>
      match (s.registry (s.link c).nMasterID).onRegister (s.link c).nSocketID m with
      | none => s
      | some (r, sends) =>
          let s := s.post (s.link c).nMasterID r sends
          { s with
            link := Function.update s.link c
              { s.link c with nNodeID := m.sNodeBaseInfo.nID } }
  | .unregisters c =>
      let r := s.registry (s.link c).nMasterID
      let (r', sends) := r.delNode (s.link c).nNodeID
      { s.post (s.link c).nMasterID r' sends with
        offline := fun n =>
          s.offline n ∨ n = (s.link c).nNodeID ∧ n ∈ r.mapNodeProxyInfo }
  | .delivers c =>
      match (s.link c).queue with
      | [] => s
      | msg :: queue =>
          { s with
            link := Function.update s.link c { s.link c with queue }
            proxy := Function.update s.proxy (s.link c).nPeerID
              (dispatch (s.proxy (s.link c).nPeerID) msg) }
  | .disconnects c =>
      { s with
        link := Function.update s.link c { s.link c with bMaster := false }
        registry := Function.update s.registry (s.link c).nMasterID
          (if (s.link c).nNodeID ≠ 0 then
            (s.registry (s.link c).nMasterID).disconnectNode (s.link c).nNodeID
          else
            s.registry (s.link c).nMasterID) }
  | .closes c =>
      { s with
        link := Function.update s.link c { s.link c with bNode := false, queue := [] } }
  | .restarts nMasterID =>
      { s with
        registry := Function.update s.registry nMasterID {}
        link := fun c =>
          if (s.link c).nMasterID = nMasterID then { s.link c with bMaster := false }
          else s.link c }
  | .starts nNodeID names types vec =>
      { s with
        proxy := Function.update s.proxy nNodeID (.init names types vec)
        link := fun c =>
          if (s.link c).nPeerID = nNodeID then { s.link c with bNode := false, queue := [] }
          else s.link c }
  | .meets nNodeID nOtherNodeID nSocketID =>
      { s with
        proxy := Function.update s.proxy nNodeID
          ((s.proxy nNodeID).setOtherNodeSocketIDByNodeID nOtherNodeID nSocketID).2 }

/-- When the event can happen.  A new connection has a socket of its own, and a node
registers itself. -/
def Possible (s : Cluster) : ClusterEvent → Prop
  | .connects c nMasterID _ nSocketID =>
      (s.link c).bMaster = false ∧ (s.link c).bNode = false ∧ nSocketID ≠ 0 ∧
        (∀ c', (s.link c').nMasterID = nMasterID → (s.link c').bMaster = true →
          (s.link c').nSocketID ≠ nSocketID) ∧
        ∀ (n : UInt32) (info : SNodeProxyInfo),
          (s.registry nMasterID).mapNodeProxyInfo[n]? = some info →
          info.nSocketID ≠ nSocketID
  | .registers c m =>
      (s.link c).bMaster = true ∧ m.sNodeBaseInfo.nID = (s.link c).nPeerID
  | .unregisters c => (s.link c).bMaster = true
  | .delivers c => (s.link c).bNode = true
  | .disconnects c => (s.link c).bMaster = true
  | .closes c => (s.link c).bNode = true
  | _ => True

/-- The histories of a cluster. -/
def clustering : TransitionSystem Cluster ClusterEvent where
  init s := s = {}
  step s event s' := s.Possible event ∧ s' = s.next event

/-! ## Live peers -/

/-- Every node that has not been taken off line is still known, and so are its
services. -/
def Spared (offline : UInt32 → Prop) (p p' : CGlobalServiceRegistryProxy) : Prop :=
  ∀ n, offline n ∨
    p.KeepsNode p' n ∧ ∀ s, p.Knows n s → s.nID ∈ p'.mapServiceProxyInfo

/-- The event is not that the node itself starts again. -/
def KeepsRunning (nNodeID : UInt32) : ClusterEvent → Prop
  | .starts n .. => n ≠ nNodeID
  | _ => True

/-- Whatever happens next, no running node loses a peer that has not been taken off
line. -/
def LivePeersKept (s : Cluster) : Prop :=
  ∀ event s', clustering.step s event s' → ∀ n, KeepsRunning n event →
    Spared s.offline (s.proxy n) (s'.proxy n)

/-! ## Complete snapshots -/

/-- A message tells a node that there is another one. -/
def Tells : SystemMessage → UInt32 → Prop
  | .syncNodeBaseInfo m, n => m.sNodeBaseInfo.nID = n
  | .syncAllNodeBaseInfo m, n => CGlobalServiceRegistryProxy.Lists m.mapNodeInfo n
  | _, _ => False

/-- A master that accepts a registration has all nodes in its registry that the node
knows or is being told about on the connection; and a node that a message tells about is
in all snapshots that are on the way to the same receiver on other connections.  Nodes that
have been taken off line do not matter. -/
def Complete (s : Cluster) : ClusterEvent → Prop
  | .registers c m =>
      ((s.registry (s.link c).nMasterID).onRegister (s.link c).nSocketID m).isSome →
        ∀ n, n ∈ (s.proxy (s.link c).nPeerID).mapNodeProxyInfo ∨
            (∃ msg ∈ (s.link c).queue, Tells msg n) →
          s.offline n ∨ n ∈ (s.registry (s.link c).nMasterID).mapNodeProxyInfo
  | .delivers c =>
      ∀ msg, (s.link c).queue.head? = some msg → ∀ n, Tells msg n →
        ∀ c', c' ≠ c → (s.link c').nPeerID = (s.link c).nPeerID →
          ∀ m, .syncAllNodeBaseInfo m ∈ (s.link c').queue →
            s.offline n ∨ n ∈ m.mapNodeInfo
  | _ => True

end Cluster

end RealtimeEx.Master
