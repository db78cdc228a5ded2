import RealtimeEx.Core.NetRunnable
import RealtimeEx.Support.OpenClose

/-!
# Connections between the network thread and the logic threads

A `CCoreConnection` belongs to the network thread and is created for a connecter.  The
logic queue it was created for gets to know of it through commands, and the logic
thread keeps a `CBaseConnection` that points to it.  After the end of its connecter it
stays until the logic thread has acknowledged that.

A step is one callback of a connecter, one command of a batch of `onProcess`, one
packet that a logic thread dispatches, or a command sent by anybody else; they come in
any order.  The packets of a logic queue are dispatched by one thread at a time in
their order, so a queue and the batch taken from it are one list.  The counter of the
ids has 64 bits; that it comes round is left out.
-/

namespace RealtimeEx.Core

open Base

universe u

/-! ## Connections and commands -/

/-- The functions of a `CCoreConnection` that the network thread and its connecter
call, as far as they change the connection itself. -/
structure CoreConnectionHandler (σ : Type u) extends CoreConnectionClass σ where
  onConnect : σ → σ
  onRecv : UInt8 → List UInt8 → σ → σ
  onDisconnect : σ → σ

/-- The callbacks of `CCoreConnection` itself. -/
def CCoreConnection.handler : CoreConnectionHandler CCoreConnection where
  toCoreConnectionClass := CCoreConnection.functions
  onConnect c := { c with nState := .connectting }
  onRecv _ _ c := c
  onDisconnect c := { c with nState := .disconnecting, pNetConnecter := none }

/-- A `CCoreConnection`, its logic queue, whether the queue was told of it, and whether
its connecter still calls it. -/
structure LiveConnection (σ : Type u) where
  connection : σ
  pMessageQueue : ℕ
  bNotified : Bool := false
  bConnecter : Bool := true

/-- The functions, called through a pointer to a live connection. -/
def CoreConnectionHandler.live {σ : Type u} (C : CoreConnectionHandler σ) :
    CoreConnectionClass (LiveConnection σ) where
  send nMessageType pData nSize c :=
    { c with connection := C.send nMessageType pData nSize c.connection }
  shutdown bForce szMsg c := { c with connection := C.shutdown bForce szMsg c.connection }
  onConnectAck c := { c with connection := C.onConnectAck c.connection }
  szType c := C.szType c.connection

/-- A packet of a logic queue; `other` are all that have nothing to do with a
connection. -/
inductive LogicCommand
  | notifySocketConnect (pCoreConnection : UInt64)
  | notifySocketDisconnect (nSocketID : UInt64)
  | recvSocketData (nSocketID : UInt64) (nMessageType : UInt8) (data : List UInt8)
  | other (nType : UInt32)
  deriving DecidableEq

/-- The connection a packet refers to. -/
def LogicCommand.refersTo : LogicCommand → Option UInt64
  | notifySocketConnect pCoreConnection => some pCoreConnection
  | notifySocketDisconnect nSocketID => some nSocketID
  | recvSocketData nSocketID _ _ => some nSocketID
  | other _ => none

/-- `eMCT_NOTIFY_SOCKET_DISCONNECT` is the last of a connection. -/
def LogicCommand.closes : LogicCommand → Option UInt64
  | notifySocketDisconnect nSocketID => some nSocketID
  | _ => none

/-- The connection a command refers to.  The data and broadcast commands of a manager
name sockets by numbers that are looked up when it is their turn. -/
def NetCommand.refersTo : NetCommand → Option UInt64
  | requestSocketShutdown nSocketID _ _ => some nSocketID
  | notifySocketConnectAck pCoreConnection _ => some pCoreConnection
  | notifySocketDisconnectAck nSocketID => some nSocketID
  | sendSocketData1 _ pCoreConnection _ => some pCoreConnection
  | _ => none

/-- `eMCT_NOTIFY_SOCKET_DISCONNECT_ACK` is the last of a connection. -/
def NetCommand.closes : NetCommand → Option UInt64
  | notifySocketDisconnectAck nSocketID => some nSocketID
  | _ => none

/-- `CBaseConnection`. -/
structure CBaseConnection where
  bClosing : Bool := false
  deriving DecidableEq

/-- The network thread with the rest of its batch, the logic queues, the
`m_mapBaseConnectionByID` of the manager of each queue, and the connections deleted so
far. -/
structure ConnectionSystem (σ : Type u) where
  net : CNetRunnable (LiveConnection σ) := {}
  vecMessagePacket : List NetCommand := []
  nNextCoreConnectionID : ℕ := 1
  logicQueue : ℕ → List LogicCommand := fun _ => []
  mapBaseConnectionByID : ℕ → UInt64 → Option CBaseConnection := fun _ _ => none
  deleted : List UInt64 := []

namespace ConnectionSystem

variable {σ : Type u} (C : CoreConnectionHandler σ)
  (loop : NetEventLoop (LiveConnection σ)) (s : ConnectionSystem σ)

/-! ## Sending commands -/

/-- A command for the network thread. -/
def post (c : NetCommand) : ConnectionSystem σ := { s with net := s.net.send c }

/-- A packet for a logic queue. -/
def postLogic (nQueue : ℕ) (c : LogicCommand) : ConnectionSystem σ :=
  { s with
    logicQueue := Function.update s.logicQueue nQueue (s.logicQueue nQueue ++ [c]) }

/-- Set or erase an entry of a manager. -/
def setBaseConnection (nQueue : ℕ) (nSocketID : UInt64)
    (pBaseConnection : Option CBaseConnection) : ConnectionSystem σ :=
  { s with
    mapBaseConnectionByID := Function.update s.mapBaseConnectionByID nQueue
      (Function.update (s.mapBaseConnectionByID nQueue) nSocketID pBaseConnection) }

/-! ## The network thread -/

/-- `CCoreConnectionMgr::createCoreConnection`. -/
def createCoreConnection (pMessageQueue : ℕ) (connection : σ) : ConnectionSystem σ :=
  let nID := UInt64.ofNat s.nNextCoreConnectionID
  let szType := C.szType connection
  { s with
    nNextCoreConnectionID := s.nNextCoreConnectionID + 1
    net := { s.net with
      mapCoreConnectionByID :=
        s.net.mapCoreConnectionByID.insert nID { connection, pMessageQueue }
      mapCoreConnectionByTypeID := s.net.mapCoreConnectionByTypeID.insert szType
        (s.net.mapCoreConnectionByTypeID.getD szType [] ++ [nID]) } }

/-- A callback of a connection's connecter: the connection changes and its queue gets a
packet. -/
def callback (nSocketID : UInt64) (f : LiveConnection σ → LiveConnection σ)
    (c : LogicCommand) : ConnectionSystem σ :=
  match s.net.mapCoreConnectionByID[nSocketID]? with
  | none => s
  | some pCoreConnection =>
      if pCoreConnection.bConnecter then
        { s with net := s.net.withConnection nSocketID f }.postLogic
          pCoreConnection.pMessageQueue c
      else
        s

/-- `CCoreConnection::onConnect`, or the end of the handshake of a websocket: the
queue is told once. -/
def onConnect (nSocketID : UInt64) : ConnectionSystem σ :=
  if (s.net.mapCoreConnectionByID[nSocketID]?.map LiveConnection.bNotified) =
      some false then
    s.callback nSocketID
      (fun c => { c with connection := C.onConnect c.connection, bNotified := true })
      (.notifySocketConnect nSocketID)
  else
    s

/-- A message for the connection's queue in `onRecv`. -/
def onRecv (nSocketID : UInt64) (nMessageType : UInt8) (data : List UInt8) :
    ConnectionSystem σ :=
  s.callback nSocketID
    (fun c => { c with connection := C.onRecv nMessageType data c.connection })
    (.recvSocketData nSocketID nMessageType data)

/-- `CCoreConnection::onDisconnect`; the connecter is released. -/
def onDisconnect (nSocketID : UInt64) : ConnectionSystem σ :=
  s.callback nSocketID
    (fun c => { c with connection := C.onDisconnect c.connection, bConnecter := false })
    (.notifySocketDisconnect nSocketID)

/-- `CNetMessageQueue::recv`. -/
def recv : ConnectionSystem σ :=
  { s with vecMessagePacket := s.net.recv.1, net := s.net.recv.2 }

/-- The connection that a command deletes. -/
def deletes (r : CNetRunnable (LiveConnection σ)) : NetCommand → List UInt64
  | .notifySocketDisconnectAck nSocketID =>
      if r.mapCoreConnectionByID.contains nSocketID then [nSocketID] else []
  | _ => []

/-- The next command of the batch of `onProcess`; when it returns, the rest of the
batch is lost. -/
def onProcess : ConnectionSystem σ :=
  match s.vecMessagePacket with
  | [] => s
  | c :: cs =>
      { s with
        net := s.net.onCommand C.live loop c
        vecMessagePacket := if s.net.returns c then [] else cs
        deleted := s.deleted ++ deletes s.net c }

/-! ## The logic threads -/

/-- A call that a callback makes: on one of the base connections of its own manager, or
something else that sends a command without a pointer. -/
inductive BaseCall
  | send (nSocketID : UInt64) (nMessageType : MessageType) (data : List UInt8)
  | shutdown (nSocketID : UInt64) (nForce : UInt8) (szMsg : StdString)
  | post (c : NetCommand)

/-- The calls of a callback. -/
def call (nQueue : ℕ) (s : ConnectionSystem σ) : BaseCall → ConnectionSystem σ
  | .send nSocketID nMessageType data =>
      if (s.mapBaseConnectionByID nQueue nSocketID).isSome then
        s.post (.sendSocketData1 nMessageType nSocketID data)
      else
        s
  | .shutdown nSocketID nForce szMsg =>
      if s.mapBaseConnectionByID nQueue nSocketID = some { bClosing := false } then
        (s.setBaseConnection nQueue nSocketID (some { bClosing := true })).post
          (.requestSocketShutdown nSocketID nForce szMsg)
      else
        s
  | .post c => if c.refersTo = none then s.post c else s

/-- `CBaseConnectionMgrImpl::onConnect`, and the negative answer if it fails; the
positive one is sent before the callbacks. -/
def mgrOnConnect (nQueue : ℕ) (pCoreConnection : UInt64) (bCreated : Bool)
    (calls : List BaseCall) : ConnectionSystem σ :=
  if bCreated then
    calls.foldl (call nQueue)
      ((s.setBaseConnection nQueue pCoreConnection (some {})).post
        (.notifySocketConnectAck pCoreConnection true))
  else
    s.post (.notifySocketConnectAck pCoreConnection false)

/-- `CBaseConnectionMgrImpl::onDisconnect` and the answer; the callbacks still have the
base connection, which is released before the answer is sent. -/
def mgrOnDisconnect (nQueue : ℕ) (nSocketID : UInt64) (calls : List BaseCall) :
    ConnectionSystem σ :=
  (if (s.mapBaseConnectionByID nQueue nSocketID).isSome then
    (calls.foldl (call nQueue) s).setBaseConnection nQueue nSocketID none
  else
    s).post (.notifySocketDisconnectAck nSocketID)

/-- `CLogicRunnable::dispatch` of one packet that is taken from a queue; `bCreated` says
whether a factory creates the base connection. -/
def dispatchPacket (nQueue : ℕ) (bCreated : Bool) (calls : List BaseCall) :
    LogicCommand → ConnectionSystem σ
  | .notifySocketConnect pCoreConnection =>
      s.mgrOnConnect nQueue pCoreConnection bCreated calls
  | .notifySocketDisconnect nSocketID => s.mgrOnDisconnect nQueue nSocketID calls
  | .recvSocketData nSocketID _ _ =>
      if (s.mapBaseConnectionByID nQueue nSocketID).isSome then
        calls.foldl (call nQueue) s
      else
        s
  | .other _ => calls.foldl (call nQueue) s

/-- `CLogicRunnable::dispatch` of the next packet of a queue. -/
def dispatch (nQueue : ℕ) (bCreated : Bool) (calls : List BaseCall) :
    ConnectionSystem σ :=
  match s.logicQueue nQueue with
  | [] => s
  | c :: cs =>
      { s with logicQueue := Function.update s.logicQueue nQueue cs }.dispatchPacket
        nQueue bCreated calls c

/-! ## Runs -/

/-- What happens next. -/
inductive Event (σ : Type u)
  | create (pMessageQueue : ℕ) (connection : σ)
  | onConnect (nSocketID : UInt64)
  | onRecv (nSocketID : UInt64) (nMessageType : UInt8) (data : List UInt8)
  | onDisconnect (nSocketID : UInt64)
  | recv
  | onProcess
  | dispatch (nQueue : ℕ) (bCreated : Bool) (calls : List BaseCall)
  | post (c : NetCommand)
  | postLogic (nQueue : ℕ) (nType : UInt32)

/-- One step.  The event loop calls connecters between two batches only, and nobody
outside sends a command with a pointer. -/
def step (s : ConnectionSystem σ) : Event σ → ConnectionSystem σ
  | .create pMessageQueue connection =>
      if s.vecMessagePacket = [] ∧ s.nNextCoreConnectionID < 2 ^ 64 then
        s.createCoreConnection C pMessageQueue connection
      else
        s
  | .onConnect nSocketID =>
      if s.vecMessagePacket = [] then s.onConnect C nSocketID else s
  | .onRecv nSocketID nMessageType data =>
      if s.vecMessagePacket = [] then s.onRecv C nSocketID nMessageType data else s
  | .onDisconnect nSocketID =>
      if s.vecMessagePacket = [] then s.onDisconnect C nSocketID else s
  | .recv => if s.vecMessagePacket = [] then s.recv else s
  | .onProcess => s.onProcess C loop
  | .dispatch nQueue bCreated calls => s.dispatch nQueue bCreated calls
  | .post c => if c.refersTo = none then s.post c else s
  | .postLogic nQueue nType => s.postLogic nQueue (.other nType)

/-- The process after some events. -/
def run (events : List (Event σ)) : ConnectionSystem σ :=
  events.foldl (step C loop) {}

end ConnectionSystem

end RealtimeEx.Core
