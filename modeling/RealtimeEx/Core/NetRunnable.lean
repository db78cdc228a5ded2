import RealtimeEx.Core.CoreConnection
import RealtimeEx.Base.BufFile
import RealtimeEx.Support.Loop
import RealtimeEx.Support.StdContainers

/-!
# The commands of the network thread

`CNetRunnable::onProcess` takes all commands out of the `CNetMessageQueue` and
handles them in one loop.  Two branches return from `onProcess` itself instead of
going on with the next command: an `eMCT_SEND_SOCKET_DATA2` for an unknown socket
and an `eMCT_REQUEST_SOCKET_CONNECT` without a message queue.  What is behind such a
command in the batch is lost, since the next `recv` clears the batch.

A pointer to a `CCoreConnection` is modelled by the id of the connection; the
callers use such pointers only while the connection exists.
-/

namespace RealtimeEx.Core

open Base

universe u

/-! ## Connections -/

/-- The functions of a `CCoreConnection` that the network thread calls. -/
structure CoreConnectionClass (σ : Type u) where
  send : MessageType → List UInt8 → ℕ → σ → σ
  shutdown : Bool → StdString → σ → σ
  onConnectAck : σ → σ
  szType : σ → StdString

/-- `ECoreConnectionState`. -/
inductive CoreConnectionState
  | none
  | connectting
  | connected
  | disconnecting
  deriving DecidableEq

/-- What a `CNetConnecter` was told. -/
structure NetConnecterLog where
  written : List UInt8 := []
  shutdowns : List (Bool × StdString) := []
  deriving DecidableEq

/-- `CCoreConnection`, as far as it sends. -/
structure CCoreConnection where
  szType : StdString
  nState : CoreConnectionState
  pNetConnecter : Option NetConnecterLog
  deriving DecidableEq

namespace CCoreConnection

/-- `CCoreConnection::send`. -/
def send (nMessageType : MessageType) (pData : List UInt8) (nSize : ℕ)
    (c : CCoreConnection) : CCoreConnection :=
  { c with
    pNetConnecter := c.pNetConnecter.map fun log =>
      { log with
        written := log.written ++ coreConnectionSend nMessageType pData nSize } }

/-- `CCoreConnection::shutdown`. -/
def shutdown (bForce : Bool) (szMsg : StdString) (c : CCoreConnection) :
    CCoreConnection :=
  { c with
    pNetConnecter := c.pNetConnecter.map fun log =>
      { log with shutdowns := log.shutdowns ++ [(bForce, szMsg)] } }

/-- `CCoreConnection::onConnectAck`. -/
def onConnectAck (c : CCoreConnection) : CCoreConnection :=
  if c.nState ≠ .connectting then
    c.shutdown true "CCoreConnection::onConnectAck error".toUTF8.toList
  else
    { c with nState := .connected }

/-- The virtual functions of `CCoreConnection` itself. -/
def functions : CoreConnectionClass CCoreConnection where
  send := send
  shutdown := shutdown
  onConnectAck := onConnectAck
  szType := CCoreConnection.szType

end CCoreConnection

/-! ## Commands -/

/-- `SMCT_REQUEST_SOCKET_LISTEN`; a queue is a number. -/
structure RequestSocketListen where
  szHost : StdString
  nPort : UInt16
  nReusePort : UInt8
  pMessageQueue : ℕ
  szContext : StdString
  szType : StdString
  nCoreConnectionType : UInt8
  nSendBufferSize : UInt32

/-- `SMCT_REQUEST_SOCKET_CONNECT`. -/
structure RequestSocketConnect where
  szHost : StdString
  nPort : UInt16
  pMessageQueue : Option ℕ
  szContext : StdString
  szType : StdString
  nSendBufferSize : UInt32

/-- A packet that goes back to a logic queue. -/
inductive NetNotify
  | socketListenFail (szContext szHost : StdString) (nPort : UInt16)
  | socketConnectFail (szContext : StdString)
  deriving DecidableEq

/-- A packet of the `CNetMessageQueue`.  The data of a packet is what follows its
structure, its size is a `uint16_t`. -/
inductive NetCommand
  | requestSocketListen (request : RequestSocketListen)
  | requestSocketConnect (request : RequestSocketConnect)
  | requestSocketShutdown (nSocketID : UInt64) (nForce : UInt8) (szMsg : StdString)
  | notifySocketConnectAck (pCoreConnection : UInt64) (bSuccess : Bool)
  | notifySocketDisconnectAck (nSocketID : UInt64)
  | sendSocketData1 (nMessageType : MessageType) (pCoreConnection : UInt64)
      (data : List UInt8)
  | sendSocketData2 (nMessageType : MessageType) (nSocketID : UInt64)
      (data : List UInt8)
  | broadcastSocketData1 (nMessageType : MessageType) (vecSocketID : List UInt64)
      (data : List UInt8)
  | broadcastSocketData2 (nMessageType : MessageType) (szType : StdString)
      (vecExcludeID : List UInt64) (data : List UInt8)
  | invalid (nType : UInt32)

/-- The `CNetRunnable` with its connection manager and its queue; `notified` are
the packets sent to logic queues. -/
structure CNetRunnable (σ : Type u) where
  mapCoreConnectionByID : StdMap UInt64 σ := ∅
  mapCoreConnectionByTypeID : StdMap StdString (List UInt64) := ∅
  vecNetAccepterHandler : List RequestSocketListen := []
  listActiveNetWaitConnecterHandler : List RequestSocketConnect := []
  notified : List (ℕ × NetNotify) := []
  queue : List NetCommand := []

/-- What the event loop answers to `listen` and `connect`. -/
structure NetEventLoop (σ : Type u) where
  listen : CNetRunnable σ → RequestSocketListen → Bool
  connect : CNetRunnable σ → RequestSocketConnect → Bool

namespace CNetRunnable

variable {σ : Type u} (C : CoreConnectionClass σ) (loop : NetEventLoop σ)

/-- `CNetMessageQueue::send`. -/
def send (r : CNetRunnable σ) (c : NetCommand) : CNetRunnable σ :=
  { r with queue := r.queue ++ [c] }

/-- `CNetMessageQueue::recv`: the batch, and the queue left behind. -/
def recv (r : CNetRunnable σ) : List NetCommand × CNetRunnable σ :=
  (r.queue, { r with queue := [] })

/-- `getCoreConnectionBySocketID`, and a function of the connection called if
there is one. -/
def withConnection (r : CNetRunnable σ) (nSocketID : UInt64) (f : σ → σ) :
    CNetRunnable σ :=
  match r.mapCoreConnectionByID[nSocketID]? with
  | none => r
  | some pCoreConnection =>
      { r with
        mapCoreConnectionByID :=
          r.mapCoreConnectionByID.insert nSocketID (f pCoreConnection) }

/-- `CCoreConnectionMgr::destroyCoreConnection`. -/
def destroyCoreConnection (r : CNetRunnable σ) (nSocketID : UInt64) :
    CNetRunnable σ :=
  match r.mapCoreConnectionByID[nSocketID]? with
  | none => r
  | some pCoreConnection =>
      let szType := C.szType pCoreConnection
      { r with
        mapCoreConnectionByTypeID :=
          match r.mapCoreConnectionByTypeID[szType]? with
          | none => r.mapCoreConnectionByTypeID
          | some list =>
              r.mapCoreConnectionByTypeID.insert szType (list.filter (· ≠ nSocketID))
        mapCoreConnectionByID := r.mapCoreConnectionByID.erase nSocketID }

/-- `CCoreConnectionMgr::broadcast`. -/
def broadcast (r : CNetRunnable σ) (szType : StdString) (nMessageType : MessageType)
    (data : List UInt8) (vecExcludeID : List UInt64) : CNetRunnable σ :=
  match r.mapCoreConnectionByTypeID[szType]? with
  | none => r
  | some list =>
      (list.filter (· ∉ vecExcludeID)).foldl
        (fun r id => r.withConnection id
          (C.send nMessageType data (data.length % 2 ^ 16))) r

/-- The body of the loop of `onProcess`, up to its `return`. -/
def onCommand (r : CNetRunnable σ) : NetCommand → CNetRunnable σ
  | .requestSocketListen request =>
      if loop.listen r request then
        { r with vecNetAccepterHandler := r.vecNetAccepterHandler ++ [request] }
      else
        { r with
          notified := r.notified ++ [(request.pMessageQueue,
            .socketListenFail request.szContext request.szHost request.nPort)] }
  | .requestSocketConnect request =>
      match request.pMessageQueue with
      | none => r
      | some pMessageQueue =>
          if loop.connect r request then
            { r with
              listActiveNetWaitConnecterHandler :=
                r.listActiveNetWaitConnecterHandler ++ [request] }
          else
            { r with
              notified := r.notified ++
                [(pMessageQueue, .socketConnectFail request.szContext)] }
  | .requestSocketShutdown nSocketID nForce szMsg =>
      r.withConnection nSocketID (C.shutdown (nForce != 0) szMsg)
  | .notifySocketConnectAck pCoreConnection bSuccess =>
      r.withConnection pCoreConnection
        (if bSuccess then
          C.onConnectAck
        else
          C.shutdown true "create base connection error".toUTF8.toList)
  | .notifySocketDisconnectAck nSocketID => r.destroyCoreConnection C nSocketID
  | .sendSocketData1 nMessageType pCoreConnection data =>
      r.withConnection pCoreConnection
        (C.send nMessageType data (data.length % 2 ^ 16))
  | .sendSocketData2 nMessageType nSocketID data =>
      r.withConnection nSocketID
        (C.send nMessageType data (data.length % 2 ^ 16))
  | .broadcastSocketData1 nMessageType vecSocketID data =>
      vecSocketID.foldl
        (fun r id => r.withConnection id
          (C.send nMessageType data (data.length % 2 ^ 16))) r
  | .broadcastSocketData2 nMessageType szType vecExcludeID data =>
      r.broadcast C szType nMessageType data vecExcludeID
  | .invalid _ => r

/-- Whether the body of the loop returns from `onProcess`. -/
def returns (r : CNetRunnable σ) : NetCommand → Bool
  | .requestSocketConnect request => request.pMessageQueue.isNone
  | .sendSocketData2 _ nSocketID _ => !r.mapCoreConnectionByID.contains nSocketID
  | _ => false

/-- The loop of `onProcess`. -/
def commandLoop : LoopBody (CNetRunnable σ) NetCommand where
  next := onCommand C loop
  leaves := returns

/-- `onProcess`, as far as it handles commands: the commands it comes to, and the
state it leaves. -/
def onProcess (r : CNetRunnable σ) : List NetCommand × CNetRunnable σ :=
  let (vecMessagePacket, r) := r.recv
  (commandLoop C loop).run r vecMessagePacket

/-! ## Commands for unknown sockets -/

/-- The command names sockets, and none of them exists. -/
def Unknown (r : CNetRunnable σ) : NetCommand → Prop
  | .requestSocketShutdown nSocketID _ _
  | .notifySocketDisconnectAck nSocketID
  | .sendSocketData2 _ nSocketID _ => r.mapCoreConnectionByID[nSocketID]? = none
  | .broadcastSocketData1 _ vecSocketID _ =>
      ∀ id ∈ vecSocketID, r.mapCoreConnectionByID[id]? = none
  | _ => False

theorem withConnection_of_none {r : CNetRunnable σ} {nSocketID : UInt64} (f : σ → σ)
    (h : r.mapCoreConnectionByID[nSocketID]? = none) :
    r.withConnection nSocketID f = r := by
  rw [withConnection, h]

/-- A command for unknown sockets changes nothing. -/
theorem onCommand_of_unknown {r : CNetRunnable σ} {c : NetCommand}
    (h : r.Unknown c) : r.onCommand C loop c = r := by
  cases c with
  | requestSocketShutdown nSocketID nForce szMsg =>
      exact withConnection_of_none _ h
  | notifySocketDisconnectAck nSocketID =>
      have hnone : r.mapCoreConnectionByID[nSocketID]? = none := h
      rw [onCommand, destroyCoreConnection, hnone]
  | sendSocketData2 nMessageType nSocketID data =>
      exact withConnection_of_none _ h
  | broadcastSocketData1 nMessageType vecSocketID data =>
      have hall : ∀ id ∈ vecSocketID, r.mapCoreConnectionByID[id]? = none := h
      rw [onCommand]
      clear h
      induction vecSocketID with
      | nil => rfl
      | cons id ids ih =>
          obtain ⟨hid, hids⟩ := List.forall_mem_cons.mp hall
          rw [List.foldl_cons, withConnection_of_none _ hid]
          exact ih hids
  | requestSocketListen request => exact h.elim
  | requestSocketConnect request => exact h.elim
  | notifySocketConnectAck pCoreConnection bSuccess => exact h.elim
  | sendSocketData1 nMessageType pCoreConnection data => exact h.elim
  | broadcastSocketData2 nMessageType szType vecExcludeID data => exact h.elim
  | invalid nType => exact h.elim

/-! ## Independence of the commands -/

/-- The batch that waits in the queue is handled command by command, in order and
to its end, and a command for unknown sockets makes no difference to the others. -/
structure Independent (r : CNetRunnable σ) : Prop where
  handled : (r.onProcess C loop).1 = r.queue
  state : (r.onProcess C loop).2 = r.queue.foldl (onCommand C loop) r.recv.2
  unknown : ∀ pre c post, r.queue = pre ++ c :: post →
    (pre.foldl (onCommand C loop) r.recv.2).Unknown c →
      ({ r with queue := pre ++ post }.onProcess C loop).1 = pre ++ post ∧
        ({ r with queue := pre ++ post }.onProcess C loop).2 = (r.onProcess C loop).2

/-- Data for socket 1, which does not exist, and then a shutdown of socket 2. -/
def deadSocket : CNetRunnable CCoreConnection where
  mapCoreConnectionByID := (∅ : StdMap UInt64 CCoreConnection).insert 2
    { szType := [97], nState := .connected, pNetConnecter := some {} }
  queue := [.sendSocketData2 .system 1 [0], .requestSocketShutdown 2 1 []]

end CNetRunnable

end RealtimeEx.Core
