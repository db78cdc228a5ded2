import RealtimeEx.Network.NetConnecter
import RealtimeEx.Network.NetSendBuffer

/-!
# A `CNetConnecter` in its event loop

The state machine of a connection: how it is opened, what the events of the loop, the
calls of `send` and `shutdown` and the handler make of it, and how it is released.  The
answers of the operating system are arguments of the steps.

Every handler under `src/` leaves `onSendComplete` empty, so no calls are made from it.
-/

namespace RealtimeEx.Network.Connecter

/-- `ENetConnecterState`. -/
inductive ENetConnecterState
  | eNCS_Connecting
  | eNCS_Connected
  | eNCS_Disconnecting
  | eNCS_Disconnected
  deriving DecidableEq

/-- `ENetConnecterMode`. -/
inductive ENetConnecterMode
  | eNCM_Initiative
  | eNCM_Passive
  | eNCM_Unknown
  deriving DecidableEq

open ENetConnecterState ENetConnecterMode

/-- The callbacks of `INetConnecterHandler`. -/
inductive Callback
  | onConnect
  | onRecv
  | onSendComplete (nSize : ℕ)
  | onDisconnect
  | onConnectFail
  deriving DecidableEq

/-- What the socket answers to a `write`: that it has room for some bytes, or an
error. -/
inductive WriteResult
  | room (n : ℕ)
  | wouldBlock
  | interrupted
  | error
  deriving DecidableEq

/-- `CNetConnecter`, with a handler.  The flags are the bits of `m_nFlag`, `bWaitClose`
says that it is in the close list of the loop, `bSendConnecter` that it is in the send
list, and `bPolled` that the loop has handled its event of this round.  A connecter that
is not live has been deleted, with or without `release`.  What the handler has seen, the
bytes handed to the socket and the ones of the accepted sends are recorded. -/
structure CNetConnecter where
  eConnecterMode : ENetConnecterMode := eNCM_Unknown
  eConnecterState : ENetConnecterState := eNCS_Disconnected
  bCloseRecv : Bool := false
  bCloseSend : Bool := false
  bDisableWrite : Bool := true
  bConnectFail : Bool := false
  recvBuffer : CNetRecvBuffer := .init recvBufSize
  sendBuffer : CNetSendBuffer sendBufSize := .init sendBufSize
  nSendBufferSize : ℕ
  bWaitClose : Bool := false
  bSendConnecter : Bool := false
  bPolled : Bool := false
  bLive : Bool := true
  bReleased : Bool := false
  callbacks : List Callback := []
  written : List UInt8 := []
  accepted : List UInt8 := []

/-- A call of the connecter's interface, with the answers to its writes. -/
inductive Call
  | send (pData : List UInt8) (bCache : Bool) (writes : List WriteResult)
  | shutdown (bForce : Bool)

/-- A read of `onRecv`, with how many bytes the handler pops and the calls it makes. -/
structure Read where
  result : ReadResult
  nSize : ℕ := 0
  calls : List Call := []

/-- What `onConnect` finds: whether the socket has an error, whether it is connected to
itself, and the calls that the handler makes. -/
structure Opened where
  bError : Bool := false
  bOwner : Bool := false
  calls : List Call := []

/-- The bits of an event, and what the socket answers while it is handled. -/
structure NetEvent where
  bRecv : Bool := false
  bSend : Bool := false
  bError : Bool := false
  opened : Opened := {}
  reads : List Read := []
  writes : List WriteResult := []

instance : NeZero sendBufSize := ⟨by decide⟩

namespace CNetConnecter

variable (c : CNetConnecter)

def notify (callback : Callback) : CNetConnecter :=
  { c with callbacks := c.callbacks ++ [callback] }

/-- `CNetSocket::close`. -/
def close : CNetConnecter :=
  { c with bWaitClose := true }

/-- `shutdown`. -/
def shutdown (bForce : Bool) : CNetConnecter :=
  if c.eConnecterState = eNCS_Disconnected then
    c
  else
    let c := { c with eConnecterState := eNCS_Disconnecting, bCloseSend := true }
    if bForce = true ∨ c.sendBuffer.getTailDataSize = 0 then c.close else c

/-- A connecter that is open is disconnecting afterwards. -/
theorem shutdown_cases (bForce : Bool) :
    c.eConnecterState = eNCS_Disconnected ∧ c.shutdown bForce = c ∨
      ∃ bWaitClose, c.shutdown bForce =
        { c with eConnecterState := eNCS_Disconnecting, bCloseSend := true, bWaitClose } := by
  rw [shutdown]
  split
  · rename_i hstate
    exact .inl ⟨hstate, rfl⟩
  · dsimp only
    split
    · exact .inr ⟨true, rfl⟩
    · exact .inr ⟨c.bWaitClose, rfl⟩

/-! ## Sending -/

/-- The loop of `onSend`.  When the answers run out, the socket would block. -/
def onSendLoop (c : CNetConnecter) : List WriteResult → CNetConnecter
  | [] =>
      if c.sendBuffer.getTailDataSize = 0 then c else { c with bDisableWrite := true }
  | result :: writes =>
      let nDataSize := c.sendBuffer.getTailDataSize
      if nDataSize = 0 then
        c
      else
        let c := { c with bDisableWrite := false }
        match result with
        | .wouldBlock => { c with bDisableWrite := true }
        | .interrupted => c.onSendLoop writes
        | .error => c.shutdown true
        | .room n =>
            let nRet := min n nDataSize
            let c :=
              { c with
                written := c.written ++ c.sendBuffer.getTailData.take nRet
                sendBuffer := c.sendBuffer.pop nRet }
            if nRet ≠ nDataSize then c else c.onSendLoop writes

/-- `onSend`. -/
def onSend (writes : List WriteResult) : CNetConnecter :=
  let nTotalDataSize := c.sendBuffer.getTotalReadableSize
  let c := c.onSendLoop writes
  let c :=
    if nTotalDataSize ≠ 0 ∧ c.sendBuffer.getTailDataSize = 0 then
      c.notify (.onSendComplete nTotalDataSize)
    else
      c
  if c.eConnecterState = eNCS_Disconnecting ∧ c.sendBuffer.getTailDataSize = 0 then
    c.close
  else
    c

/-- The answer to the first `write` of `send` that is not interrupted.  The size is cast
to `int32_t`, and a negative one is refused. -/
def firstWrite (nDataSize : ℕ) (writes : List WriteResult) : WriteResult :=
  if nDataSize < 2 ^ 31 then
    (writes.dropWhile (· = .interrupted)).headD .wouldBlock
  else
    .error

/-- `CNetSendBuffer::push`. -/
def push (pData : List UInt8) : CNetConnecter :=
  { c with sendBuffer := c.sendBuffer.push pData }

/-- `send` without caching when nothing is buffered: what the socket does not take is
buffered. -/
def sendDirect (pData : List UInt8) (writes : List WriteResult) : Bool × CNetConnecter :=
  match firstWrite pData.length writes with
  | .error => (false, c.shutdown true)
  | .room n =>
      let nRet := min n pData.length
      let c := { c with written := c.written ++ pData.take nRet }
      if nRet ≠ pData.length then
        (true, c.push (pData.drop nRet))
      else
        (true, c.notify (.onSendComplete pData.length))
  | _ =>
      let c := { c with bDisableWrite := true }
      if pData.length ≠ 0 then
        (true, c.push pData)
      else
        (true, c.notify (.onSendComplete pData.length))

/-- `send` without caching. -/
def sendNow (pData : List UInt8) (writes : List WriteResult) : Bool × CNetConnecter :=
  if c.sendBuffer.getTailDataSize = 0 then
    c.sendDirect pData writes
  else
    let c := c.push pData
    if c.bDisableWrite = false then
      (true, c.onSend writes)
    else
      (true, c)

/-- `send` with caching. -/
def sendCached (pData : List UInt8) (writes : List WriteResult) : Bool × CNetConnecter :=
  if c.sendBuffer.getTailDataSize = 0 ∧ c.nSendBufferSize ≤ pData.length then
    c.sendNow pData writes
  else
    let c := c.push pData
    if c.nSendBufferSize ≤ c.sendBuffer.getTotalReadableSize ∧ c.bDisableWrite = false then
      (true, c.onSend writes)
    else
      (true, { c with bSendConnecter := true })

/-- The states in which `send` accepts nothing. -/
def refusesSend : Bool :=
  c.eConnecterState = eNCS_Connecting ∨ c.eConnecterState = eNCS_Disconnected ∨
    (c.eConnecterState = eNCS_Disconnecting ∧ c.bCloseSend = true)

/-- `send`, and whether it accepts the bytes. -/
def sendResult (pData : List UInt8) (bCache : Bool) (writes : List WriteResult) :
    Bool × CNetConnecter :=
  if c.refusesSend = true then
    (false, c)
  else if bCache = false then
    c.sendNow pData writes
  else
    c.sendCached pData writes

/-- `send`, with the bytes of accepted sends recorded. -/
def send (pData : List UInt8) (bCache : Bool) (writes : List WriteResult) : CNetConnecter :=
  let (bAccepted, c) := c.sendResult pData bCache writes
  if bAccepted = true then { c with accepted := c.accepted ++ pData } else c

def call (c : CNetConnecter) : Call → CNetConnecter
  | .send pData bCache writes => c.send pData bCache writes
  | .shutdown bForce => c.shutdown bForce

/-! ## Events -/

/-- `onConnect`. -/
def onConnect (opened : Opened) : CNetConnecter :=
  if c.eConnecterState ≠ eNCS_Connecting then
    c
  else
    let c := { c with bDisableWrite := false }
    if c.eConnecterMode = eNCM_Initiative ∧ opened.bError = true then
      { c with bConnectFail := true }.shutdown true
    else if opened.bOwner = true then
      { c with bConnectFail := true }.shutdown true
    else
      let c := { c with eConnecterState := eNCS_Connected }.notify .onConnect
      opened.calls.foldl call c

/-- A read into the receive buffer, of which the handler pops `nSize` bytes. -/
def receive (result : ReadResult) (nSize : ℕ) : CNetConnecter :=
  let received := Network.CNetConnecter.onRead ⟨fun _ _ => (nSize, ())⟩
    ⟨c.recvBuffer, c.bCloseRecv, ()⟩ result
  { c with recvBuffer := received.recvBuffer, bCloseRecv := received.closeRecv }

/-- `onRecv`.  When the answers run out, the socket would block. -/
def onRecv (c : CNetConnecter) : List Read → CNetConnecter
  | [] => c.receive .wouldBlock 0
  | ⟨.data bytes, nSize, calls⟩ :: reads =>
      (calls.foldl call ((c.receive (.data bytes) nSize).notify .onRecv)).onRecv reads
  | ⟨.closed, _, _⟩ :: _ =>
      let c := { c.receive .closed 0 with eConnecterState := eNCS_Disconnecting }
      if c.sendBuffer.getTailDataSize = 0 then c.close else c
  | ⟨.wouldBlock, _, _⟩ :: _ => c.receive .wouldBlock 0
  | ⟨.interrupted, _, _⟩ :: reads => (c.receive .interrupted 0).onRecv reads
  | ⟨.error, _, _⟩ :: _ => (c.receive .error 0).shutdown true

/-- `onEvent`. -/
def onEvent (e : NetEvent) : CNetConnecter :=
  match c.eConnecterState with
  | eNCS_Connecting =>
      let c := if e.bSend = true ∨ e.bError = true then c.onConnect e.opened else c
      if c.eConnecterState = eNCS_Connected ∧ e.bRecv = true then c.onRecv e.reads else c
  | eNCS_Connected | eNCS_Disconnecting =>
      if e.bError = true then
        c.shutdown true
      else
        let c := if e.bRecv = true ∧ c.bCloseRecv = false then c.onRecv e.reads else c
        if e.bSend = true then c.onSend e.writes else c
  | eNCS_Disconnected => c

/-- `release`. -/
def release : CNetConnecter :=
  let bConnecting := c.eConnecterState = eNCS_Connecting
  let c := { c with eConnecterState := eNCS_Disconnected }
  let c :=
    if c.bConnectFail = false ∧ ¬ bConnecting then
      c.notify .onDisconnect
    else
      c.notify .onConnectFail
  { c with bSendConnecter := false, bLive := false, bReleased := true }

/-- The part of `CNetEventLoop::update` before it polls. -/
def update (writes : List WriteResult) : CNetConnecter :=
  if c.bWaitClose = true then
    c.release
  else
    let c := if c.bSendConnecter = true then c.onSend writes else c
    { c with bSendConnecter := false, bPolled := false }

end CNetConnecter

/-! ## Runs -/

/-- How a connecter is opened: `connect` is in progress, has finished at once or has
failed, or the connection was accepted. -/
inductive Opening
  | inProgress
  | finished (opened : Opened)
  | failed
  | accepted

/-- The connecter that is opened.  One whose `connect` fails is deleted by
`CNetEventLoop::connect`, which returns `false`. -/
def Opening.connecter (nSendBufferSize : ℕ) : Opening → CNetConnecter
  | .inProgress =>
      { nSendBufferSize, eConnecterMode := eNCM_Initiative
        eConnecterState := eNCS_Connecting }
  | .finished opened =>
      CNetConnecter.onConnect
        { nSendBufferSize, eConnecterMode := eNCM_Initiative
          eConnecterState := eNCS_Connected } opened
  | .failed => { nSendBufferSize, bLive := false }
  | .accepted =>
      { nSendBufferSize, eConnecterMode := eNCM_Passive, eConnecterState := eNCS_Connecting }

/-- What happens to a connecter: a call, the start of a round of the loop, its event of
the round, or the end of the loop. -/
inductive Event
  | call (call : Call)
  | update (writes : List WriteResult)
  | poll (e : NetEvent)
  | destroy

namespace CNetConnecter

/-- One step.  The loop has one event for a socket in a round. -/
def step (c : CNetConnecter) (event : Event) : CNetConnecter :=
  if c.bLive = false then
    c
  else
    match event with
    | .call call => c.call call
    | .update writes => c.update writes
    | .poll e => if c.bPolled = true then c else { c.onEvent e with bPolled := true }
    | .destroy => c.release

/-- The connecter after a run. -/
def run (nSendBufferSize : ℕ) (opening : Opening) (events : List Event) : CNetConnecter :=
  events.foldl step (opening.connecter nSendBufferSize)

end CNetConnecter

end RealtimeEx.Network.Connecter
