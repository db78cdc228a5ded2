import RealtimeEx.Base.TickerMgr

/-!
# Pending responses

This file models how a `CCoreService` keeps track of the requests it has sent:
the table of pending responses by session, the sessions of each holder, and
the timeout ticker inside each entry.  A response runs the callback of its
entry; the timeout ticker is to post a response of its own to the service's
message queue.

All of it runs on the service's logic thread, in callbacks of tickers and of
messages; packets arrive from other threads at any time.  Entries are named by
numbers, so that two entries of one session can be told apart.
-/

set_option linter.unusedSectionVars false

namespace RealtimeEx.Core

open Base (TickerMgr)

/-! ## The tables -/

/-- `eRRT_TIME_OUT`. -/
def eRRT_TIME_OUT : UInt32 := 2

/-- The tickers of a service: the `tickTimeout` of an entry, and all others. -/
inductive ServiceTicker
  | timeout (entry : ℕ)
  | other (n : ℕ)
  deriving DecidableEq, Repr

/-- `SPendingResponseInfo`.  A callback may be empty. -/
structure PendingResponseInfo where
  entry : ℕ
  nSessionID : UInt64
  nCoroutineID : UInt64
  nHolderID : UInt64
  nToServiceID : UInt32
  callback : Bool
  deriving DecidableEq, Repr

/-- `SMCT_RESPONSE`, with the name and the data that follow it. -/
structure ResponseContext where
  nSessionID : UInt64
  nFromServiceID : UInt32
  nMessageSerializerType : UInt8
  nResult : UInt32
  messageName : List UInt8
  messageData : List UInt8
  deriving DecidableEq, Repr

/-- What arrives in the message queue of the service. -/
inductive ServicePacket
  | response (context : ResponseContext)
  | other (nType : UInt8)
  deriving DecidableEq, Repr

/-- The part of `CCoreService` that is about pending responses.  A node of a
holder's list carries the entry that holds an iterator to it.  `dispatching`
is the entry whose callback runs; it is deleted afterwards. -/
structure ServiceState where
  nNextSessionID : UInt64
  mapPendingResponseInfo : UInt64 → Option PendingResponseInfo
  mapHolderSessionIDList : UInt64 → Option (List (ℕ × UInt64))
  tickerMgr : TickerMgr ServiceTicker
  messageQueue : List ServicePacket
  nextEntry : ℕ
  dispatching : Option PendingResponseInfo

namespace ServiceState

/-- A service created at the given time. -/
def initial (time : ℕ) : ServiceState where
  nNextSessionID := 0
  mapPendingResponseInfo _ := none
  mapHolderSessionIDList _ := none
  tickerMgr := .initial true time
  messageQueue := []
  nextEntry := 0
  dispatching := none

/-- `genSessionID`; zero is skipped. -/
def genSessionID (s : ServiceState) : UInt64 :=
  if s.nNextSessionID + 1 = 0 then 1 else s.nNextSessionID + 1

/-- Deleting an entry destroys its ticker. -/
def deletePendingResponseInfo (s : ServiceState) (p : PendingResponseInfo) :
    ServiceState :=
  { s with tickerMgr := s.tickerMgr.unregisterTicker (.timeout p.entry) }

/-- The response that stands for a timeout. -/
def timeoutResponse (p : PendingResponseInfo) : ResponseContext where
  nSessionID := p.nSessionID
  nFromServiceID := p.nToServiceID
  nMessageSerializerType := 0
  nResult := eRRT_TIME_OUT
  messageName := []
  messageData := []

/-- What `onRequestMessageTimeout` sends to the service's own queue. -/
def timeoutSent (s : ServiceState) (nContext : UInt64) :
    Option ResponseContext :=
  (s.mapPendingResponseInfo nContext).map timeoutResponse

/-- `onRequestMessageTimeout`. -/
def onRequestMessageTimeout (s : ServiceState) (nContext : UInt64) :
    ServiceState :=
  { s with
    messageQueue := s.messageQueue ++
      ((s.timeoutSent nContext).map ServicePacket.response).toList }

/-- `getPendingResponseInfo` of an entry that is found. -/
def getPendingResponseInfo (s : ServiceState) (p : PendingResponseInfo) :
    ServiceState :=
  { s with
    mapPendingResponseInfo :=
      Function.update s.mapPendingResponseInfo p.nSessionID none
    mapHolderSessionIDList :=
      match s.mapHolderSessionIDList p.nHolderID with
      | none => s.mapHolderSessionIDList
      | some listSessionID =>
          if p.nHolderID = 0 then s.mapHolderSessionIDList
          else
            Function.update s.mapHolderSessionIDList p.nHolderID
              (some (listSessionID.filter fun node => node.1 ≠ p.entry)) }

/-- The arguments of an invocation. -/
structure Invocation where
  nToServiceID : UInt32
  nCoroutineID : UInt64
  callback : Bool
  nTimeout : UInt32
  nHolderID : UInt64

/-- `addPendingResponseInfo`; `none` is the failed `DebugAst`. -/
def addPendingResponseInfo (nDefaultTimeout : UInt32) (s : ServiceState)
    (nSessionID : UInt64) (i : Invocation) : Option ServiceState :=
  if (s.mapPendingResponseInfo nSessionID).isSome then
    none
  else
    let p : PendingResponseInfo :=
      { entry := s.nextEntry
        nSessionID := nSessionID
        nCoroutineID := i.nCoroutineID
        nHolderID := i.nHolderID
        nToServiceID := i.nToServiceID
        callback := i.callback }
    let nTimeout := if i.nTimeout = 0 then nDefaultTimeout else i.nTimeout
    some
      { s with
        tickerMgr := s.tickerMgr.registerTicker (.timeout p.entry)
          nTimeout.toNat 0 nSessionID
        mapPendingResponseInfo :=
          Function.update s.mapPendingResponseInfo nSessionID (some p)
        mapHolderSessionIDList :=
          if i.nHolderID = 0 then s.mapHolderSessionIDList
          else
            Function.update s.mapHolderSessionIDList i.nHolderID
              (some ((s.mapHolderSessionIDList i.nHolderID).getD [] ++
                [(p.entry, nSessionID)]))
        nextEntry := p.entry + 1 }

/-- One round of the loop of `delPendingResponseInfo`. -/
def delPendingSession (s : ServiceState) (nSessionID : UInt64) :
    ServiceState :=
  match s.mapPendingResponseInfo nSessionID with
  | none => s
  | some p =>
      { s with
        mapPendingResponseInfo :=
          Function.update s.mapPendingResponseInfo nSessionID none }
        |>.deletePendingResponseInfo p

/-- `delPendingResponseInfo`. -/
def delPendingResponseInfo (s : ServiceState) (nHolderID : UInt64) :
    ServiceState :=
  match s.mapHolderSessionIDList nHolderID with
  | none => s
  | some listSessionID =>
      let s := (listSessionID.map Prod.snd).foldl delPendingSession s
      { s with
        mapHolderSessionIDList :=
          Function.update s.mapHolderSessionIDList nHolderID none }

/-! ## Messages -/

section

variable {μ : Type*}

/-- The message of a response: a response without a name has none, and an
unknown serializer or a malformed message ends the dispatch. -/
def responseMessage (unserialize : UInt8 → List UInt8 → List UInt8 → Option μ)
    (context : ResponseContext) : Option (Option μ) :=
  if context.messageName = [] then
    some none
  else
    (unserialize context.nMessageSerializerType context.messageName
      context.messageData).map some

/-- The entry a response runs the callback of, with the message. -/
def findResponse (unserialize : UInt8 → List UInt8 → List UInt8 → Option μ)
    (s : ServiceState) (context : ResponseContext) :
    Option (PendingResponseInfo × Option μ) :=
  if context.nSessionID = 0 then
    none
  else
    match responseMessage unserialize context with
    | none => none
    | some message =>
        (s.mapPendingResponseInfo context.nSessionID).map (·, message)

/-! ## The service -/

/-- What happens to the requests of a service. -/
inductive Label (μ : Type*)
  | request (entry : ℕ) (nSessionID nHolderID : UInt64)
  | response (entry : ℕ) (message : Option μ) (nResult : UInt32)
  | cancel (nHolderID : UInt64)
  | timeout (entry : ℕ) (sent : Option ResponseContext)
  | other

/-- Steps of the tickers that run no timeout callback. -/
def isQuietTick : TickerMgr.Label ServiceTicker → Bool
  | .register _ (.other _) _ _ _ _ => true
  | .unregister (.other _) _ => true
  | .update _ => true
  | .dispatch _ (.other _) _ _ => true
  | .internal => true
  | .advance => true
  | _ => false

/-- Code of the service runs: a frame or a message is being handled, or the
callback of a ticker is. -/
def Running (s : ServiceState) : Prop :=
  s.tickerMgr.phase.external

/-- The step relation of the service. -/
inductive Step (nDefaultTimeout : UInt32)
    (unserialize : UInt8 → List UInt8 → List UInt8 → Option μ) :
    ServiceState → Label μ → ServiceState → Prop
  | invoke {s s' : ServiceState} {i : Invocation}
      (hrunning : s.Running)
      (hadd : { s with nNextSessionID := s.genSessionID
        }.addPendingResponseInfo nDefaultTimeout s.genSessionID i = some s') :
      Step nDefaultTimeout unserialize s
        (.request s.nextEntry s.genSessionID i.nHolderID) s'
  | invokeFailed {s : ServiceState} (hrunning : s.Running) :
      Step nDefaultTimeout unserialize s .other
        { s with nNextSessionID := s.genSessionID }
  | cancel {s : ServiceState} {nHolderID : UInt64} (hrunning : s.Running) :
      Step nDefaultTimeout unserialize s (.cancel nHolderID)
        (s.delPendingResponseInfo nHolderID)
  | arrive {s : ServiceState} (packet : ServicePacket) :
      Step nDefaultTimeout unserialize s .other
        { s with messageQueue := s.messageQueue ++ [packet] }
  | dispatchOther {s : ServiceState} {nType : UInt8}
      {rest : List ServicePacket}
      (hphase : s.tickerMgr.phase = .idle) (hidle : s.dispatching = none)
      (hqueue : s.messageQueue = .other nType :: rest) :
      Step nDefaultTimeout unserialize s .other
        { s with messageQueue := rest }
  | dispatchUnknown {s : ServiceState} {context : ResponseContext}
      {rest : List ServicePacket}
      (hphase : s.tickerMgr.phase = .idle) (hidle : s.dispatching = none)
      (hqueue : s.messageQueue = .response context :: rest)
      (hfind : s.findResponse unserialize context = none) :
      Step nDefaultTimeout unserialize s .other
        { s with messageQueue := rest }
  | dispatch {s : ServiceState} {context : ResponseContext}
      {rest : List ServicePacket} {p : PendingResponseInfo}
      {message : Option μ}
      (hphase : s.tickerMgr.phase = .idle) (hidle : s.dispatching = none)
      (hqueue : s.messageQueue = .response context :: rest)
      (hfind : s.findResponse unserialize context = some (p, message)) :
      Step nDefaultTimeout unserialize s
        (if p.callback then .response p.entry message context.nResult
          else .other)
        { s.getPendingResponseInfo p with
          messageQueue := rest
          dispatching := some p }
  | dispatched {s : ServiceState} {p : PendingResponseInfo}
      (hphase : s.tickerMgr.phase = .idle) (hcurrent : s.dispatching = some p) :
      Step nDefaultTimeout unserialize s .other
        { s.deletePendingResponseInfo p with dispatching := none }
  | tick {s : ServiceState} {l : TickerMgr.Label ServiceTicker}
      {t : TickerMgr ServiceTicker}
      (htick : TickerMgr.Step s.tickerMgr l t) (hquiet : isQuietTick l)
      (hidle : ∀ now, l = .update now → s.dispatching = none) :
      Step nDefaultTimeout unserialize s .other { s with tickerMgr := t }
  | timeout {s : ServiceState} {id entry time : ℕ} {nContext : UInt64}
      {t : TickerMgr ServiceTicker}
      (htick : TickerMgr.Step s.tickerMgr
        (.dispatch id (.timeout entry) nContext time) t) :
      Step nDefaultTimeout unserialize s
        (.timeout entry (s.timeoutSent nContext))
        ({ s with tickerMgr := t }.onRequestMessageTimeout nContext)

end

end ServiceState

/-- A service created at the given time, and the nodes it talks to. -/
def serviceSystem {μ : Type*} (nDefaultTimeout : UInt32)
    (unserialize : UInt8 → List UInt8 → List UInt8 → Option μ) (time : ℕ) :
    TransitionSystem ServiceState (ServiceState.Label μ) where
  init s := s = ServiceState.initial time
  step := ServiceState.Step nDefaultTimeout unserialize

end RealtimeEx.Core
