import RealtimeEx.Core.BaseConnectionOtherNodeNotices

/-!
# Two nodes and the links between them

Two nodes that open links to each other.  A link has an end at the node that connected
and an end at the other one; each end belongs to a connection of its node, with a socket
of its own.  A step is one packet that the main thread of a node dispatches, one message
of a master, or one event of the network; the steps come in any order.

What is sent over a link arrives in order.  It is lost when the receiving end is
disconnected before, and an end can be disconnected once it or the other end is shut
down, the other end is disconnected, or the link has failed.
-/

namespace RealtimeEx.Core

open Base

/-! ## Nodes and links -/

/-- The two nodes. -/
inductive Side
  | left
  | right
  deriving DecidableEq

/-- The node at the other side. -/
def Side.other : Side → Side
  | left => right
  | right => left

@[simp] theorem Side.other_other (X : Side) : X.other.other = X := by
  cases X with
  | left => rfl
  | right => rfl

/-- The ends of a link, by the mode of their connecters. -/
inductive LinkEnd
  | initiative
  | passive
  deriving DecidableEq

/-- The other end. -/
def LinkEnd.other : LinkEnd → LinkEnd
  | initiative => passive
  | passive => initiative

/-- The mode of the connecter of an end. -/
def LinkEnd.mode : LinkEnd → ENetConnecterMode
  | initiative => .initiative
  | passive => .passive

/-- How far an end is: its node has not yet been told of it, has a connection for it, or
has released the connection. -/
inductive EndPhase
  | connecting
  | connected
  | disconnected
  deriving DecidableEq

/-- A link: the side that connected, and for each end its socket, its phase and the
messages on the way to it. -/
structure OtherNodeLink where
  initiator : Side
  nSocketID : LinkEnd → UInt64
  phase : LinkEnd → EndPhase := fun _ => .connecting
  queue : LinkEnd → List NodeMessage := fun _ => []
  bFailed : Bool := false

/-- The services and the connect wishes a node is configured with. -/
structure NodeConfig where
  nNodeID : UInt32
  setConnectServiceName : StdSet StdString := ∅
  setConnectServiceType : StdSet StdString := ∅
  vecServiceBaseInfo : List SServiceBaseInfo := []

/-- A node after its start. -/
def CCoreApp.init (config : NodeConfig) : CCoreApp where
  nNodeID := config.nNodeID
  proxy := CGlobalServiceRegistryProxy.init config.setConnectServiceName
    config.setConnectServiceType config.vecServiceBaseInfo
  vecCoreService := config.vecServiceBaseInfo.map fun _ => []

/-- The two nodes, the links that they are still trying to open, and the links opened
so far. -/
structure NodePair where
  app : Side → CCoreApp
  connecting : Side → ℕ := fun _ => 0
  links : List OtherNodeLink := []

namespace OtherNodeLink

variable (k : OtherNodeLink)

/-- The node of an end. -/
def side : LinkEnd → Side
  | .initiative => k.initiator
  | .passive => k.initiator.other

/-- An end changes its phase; what was on the way to an end is lost with it. -/
def setPhase (e : LinkEnd) (phase : EndPhase) : OtherNodeLink :=
  { k with
    phase := Function.update k.phase e phase
    queue := if phase = .disconnected then Function.update k.queue e [] else k.queue }

/-- The messages on the way to an end. -/
def setQueue (e : LinkEnd) (queue : List NodeMessage) : OtherNodeLink :=
  { k with queue := Function.update k.queue e queue }

/-- Messages for an end. -/
def send (e : LinkEnd) (messages : List NodeMessage) : OtherNodeLink :=
  if k.phase e = .disconnected then k else k.setQueue e (k.queue e ++ messages)

/-- An end of the link has this socket at this side. -/
def uses (X : Side) (nSocketID : UInt64) : Prop :=
  ∃ e, k.side e = X ∧ k.nSocketID e = nSocketID

instance (X : Side) (nSocketID : UInt64) : Decidable (k.uses X nSocketID) :=
  decidable_of_iff
    (k.side .initiative = X ∧ k.nSocketID .initiative = nSocketID ∨
      k.side .passive = X ∧ k.nSocketID .passive = nSocketID)
    ⟨fun h => h.elim (fun h => ⟨.initiative, h⟩) fun h => ⟨.passive, h⟩, by
      rintro ⟨e, he⟩
      cases e with
      | initiative => exact .inl he
      | passive => exact .inr he⟩

@[simp] theorem side_other (e : LinkEnd) : k.side e.other = (k.side e).other := by
  cases e with
  | initiative => rfl
  | passive => exact (Side.other_other k.initiator).symm

/-! The fields of a changed link. -/

variable {k} {e e' : LinkEnd} {phase : EndPhase} {queue messages : List NodeMessage}

@[simp] theorem side_setPhase : (k.setPhase e phase).side e' = k.side e' := rfl

@[simp] theorem side_setQueue : (k.setQueue e queue).side e' = k.side e' := rfl

@[simp] theorem nSocketID_setPhase : (k.setPhase e phase).nSocketID = k.nSocketID := rfl

@[simp] theorem nSocketID_setQueue : (k.setQueue e queue).nSocketID = k.nSocketID := rfl

theorem phase_setPhase_self : (k.setPhase e phase).phase e = phase :=
  Function.update_self ..

theorem phase_setPhase_of_ne (he : e' ≠ e) : (k.setPhase e phase).phase e' = k.phase e' :=
  Function.update_of_ne he ..

@[simp] theorem phase_setQueue : (k.setQueue e queue).phase = k.phase := rfl

theorem queue_setQueue_self : (k.setQueue e queue).queue e = queue :=
  Function.update_self ..

theorem queue_setQueue_of_ne (he : e' ≠ e) : (k.setQueue e queue).queue e' = k.queue e' :=
  Function.update_of_ne he ..

theorem queue_setPhase_of_ne (hphase : phase ≠ .disconnected) :
    (k.setPhase e phase).queue = k.queue :=
  if_neg hphase

theorem queue_setPhase_disconnected :
    (k.setPhase e .disconnected).queue = Function.update k.queue e [] := rfl

@[simp] theorem side_send : (k.send e messages).side e' = k.side e' := by
  rw [send]
  split
  · rfl
  · rfl

@[simp] theorem nSocketID_send : (k.send e messages).nSocketID = k.nSocketID := by
  rw [send]
  split
  · rfl
  · rfl

@[simp] theorem phase_send : (k.send e messages).phase = k.phase := by
  rw [send]
  split
  · rfl
  · rfl

theorem queue_send_of_ne (he : e' ≠ e) : (k.send e messages).queue e' = k.queue e' := by
  rw [send]
  split
  · rfl
  · exact queue_setQueue_of_ne he

theorem queue_send_self : (k.send e messages).queue e =
    if k.phase e = .disconnected then k.queue e else k.queue e ++ messages := by
  rw [send]
  split
  · rfl
  · exact queue_setQueue_self

end OtherNodeLink

namespace NodePair

variable (S : NodePair)

/-- The node id of the other side. -/
def peerID (X : Side) : UInt32 :=
  (S.app X.other).nNodeID

/-- A node changes. -/
def setApp (X : Side) (app : CCoreApp) : NodePair :=
  { S with app := Function.update S.app X app }

/-- A link changes. -/
def setLink (l : ℕ) (k : OtherNodeLink) : NodePair :=
  { S with links := S.links.set l k }

@[simp] theorem app_setApp_self (X : Side) (app : CCoreApp) :
    (S.setApp X app).app X = app :=
  Function.update_self ..

theorem app_setApp_of_ne {X Y : Side} (hY : Y ≠ X) (app : CCoreApp) :
    (S.setApp X app).app Y = S.app Y :=
  Function.update_of_ne hY ..

@[simp] theorem links_setApp (X : Side) (app : CCoreApp) :
    (S.setApp X app).links = S.links := rfl

@[simp] theorem app_setLink (l : ℕ) (k : OtherNodeLink) : (S.setLink l k).app = S.app := rfl

@[simp] theorem links_setLink (l : ℕ) (k : OtherNodeLink) :
    (S.setLink l k).links = S.links.set l k := rfl

/-- The connection of an end. -/
def connection (k : OtherNodeLink) (e : LinkEnd) : Option CBaseConnectionOtherNode :=
  (S.app (k.side e)).mapBaseConnectionByID (k.nSocketID e)

/-- An end has been shut down by its node. -/
def isClosing (k : OtherNodeLink) (e : LinkEnd) : Bool :=
  (S.connection k e).any CBaseConnectionOtherNode.bClosing

/-- An end can be disconnected. -/
def mayDisconnect (k : OtherNodeLink) (e : LinkEnd) : Bool :=
  k.bFailed || S.isClosing k e || S.isClosing k e.other ||
    k.phase e.other = .disconnected

/-! ## Opening a link -/

/-- The ticker of the other node's entry in the table. -/
def onTicker (X : Side) : NodePair :=
  if (S.app X).proxy.connects (S.peerID X) then
    { S with connecting := Function.update S.connecting X (S.connecting X + 1) }
  else
    S

/-- A connect that failed. -/
def onConnectFail (X : Side) : NodePair :=
  { S with connecting := Function.update S.connecting X (S.connecting X - 1) }

/-- A socket that a side has not given to a connection before. -/
def Unused (X : Side) (nSocketID : UInt64) : Prop :=
  nSocketID ≠ 0 ∧ ∀ k ∈ S.links, ¬ k.uses X nSocketID

instance (X : Side) (nSocketID : UInt64) : Decidable (S.Unused X nSocketID) :=
  inferInstanceAs (Decidable (_ ∧ ∀ k ∈ S.links, ¬ k.uses X nSocketID))

/-- A connect that succeeded, with the sockets of the two ends. -/
def onEstablished (X : Side) (nSocketID : LinkEnd → UInt64) : NodePair :=
  if 0 < S.connecting X ∧ S.Unused X (nSocketID .initiative) ∧
      S.Unused X.other (nSocketID .passive) then
    { S with
      connecting := Function.update S.connecting X (S.connecting X - 1)
      links := S.links ++ [{ initiator := X, nSocketID }] }
  else
    S

/-! ## A packet for a node -/

/-- `eMCT_NOTIFY_SOCKET_CONNECT` of an end. -/
def notifyConnect (l : ℕ) (k : OtherNodeLink) (e : LinkEnd) : NodePair :=
  let r := (S.app (k.side e)).onConnect (k.nSocketID e) e.mode
  (S.setApp (k.side e) r.1).setLink l ((k.setPhase e .connected).send e.other r.2)

/-- `eMCT_RECV_SOCKET_DATA` of an end: the next message. -/
def recvData (l : ℕ) (k : OtherNodeLink) (e : LinkEnd) (m : NodeMessage)
    (ms : List NodeMessage) : NodePair :=
  let r := (S.app (k.side e)).onDispatch (k.nSocketID e) m
  (S.setApp (k.side e) r.1).setLink l ((k.setQueue e ms).send e.other r.2)

/-- `eMCT_NOTIFY_SOCKET_DISCONNECT` of an end. -/
def notifyDisconnect (l : ℕ) (k : OtherNodeLink) (e : LinkEnd) : NodePair :=
  (S.setApp (k.side e) ((S.app (k.side e)).onDisconnect (k.nSocketID e))).setLink l
    (k.setPhase e .disconnected)

/-! ## Runs -/

/-- What happens next. -/
inductive Event
  | onTicker (X : Side)
  | onConnectFail (X : Side)
  | onEstablished (X : Side) (nSocketID : LinkEnd → UInt64)
  | notifyConnect (l : ℕ) (e : LinkEnd)
  | recvData (l : ℕ) (e : LinkEnd)
  | notifyDisconnect (l : ℕ) (e : LinkEnd)
  | fail (l : ℕ)
  | addNodeProxyInfo (X : Side) (sNodeBaseInfo : SNodeBaseInfo)
      (vecServiceBaseInfo : List SServiceBaseInfo) (bExcludeConnect : Bool)
  | setNodeProxyInfo (X : Side) (mapNodeInfo : StdMap UInt32 SNodeInfo)
      (setExcludeConnectNodeID : StdSet UInt32)
  | delNodeProxyInfo (X : Side) (nNodeID : UInt32)

/-- One step at a link. -/
def atLink (l : ℕ) (f : OtherNodeLink → NodePair) : NodePair :=
  match S.links[l]? with
  | none => S
  | some k => f k

/-- One step. -/
def step (S : NodePair) : Event → NodePair
  | .onTicker X => S.onTicker X
  | .onConnectFail X => S.onConnectFail X
  | .onEstablished X nSocketID => S.onEstablished X nSocketID
  | .notifyConnect l e => S.atLink l fun k =>
      if k.phase e = .connecting then S.notifyConnect l k e else S
  | .recvData l e => S.atLink l fun k =>
      match k.queue e with
      | [] => S
      | m :: ms => if k.phase e = .connected then S.recvData l k e m ms else S
  | .notifyDisconnect l e => S.atLink l fun k =>
      if k.phase e = .connected ∧ S.mayDisconnect k e = true then
        S.notifyDisconnect l k e
      else
        S
  | .fail l => S.atLink l fun k => S.setLink l { k with bFailed := true }
  | .addNodeProxyInfo X sNodeBaseInfo vecServiceBaseInfo bExcludeConnect =>
      S.setApp X ((S.app X).addNodeProxyInfo sNodeBaseInfo vecServiceBaseInfo bExcludeConnect)
  | .setNodeProxyInfo X mapNodeInfo setExcludeConnectNodeID =>
      S.setApp X ((S.app X).setNodeProxyInfo mapNodeInfo setExcludeConnectNodeID)
  | .delNodeProxyInfo X nNodeID => S.setApp X ((S.app X).delNodeProxyInfo nNodeID)

/-- The two nodes after their start. -/
def start (config : Side → NodeConfig) : NodePair where
  app X := CCoreApp.init (config X)

/-- The two nodes after some events. -/
def run (config : Side → NodeConfig) (events : List Event) : NodePair :=
  events.foldl step (start config)

end NodePair

end RealtimeEx.Core
