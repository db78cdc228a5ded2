import Mathlib.Algebra.Order.Ring.Int
import Mathlib.Logic.Function.Basic
import RealtimeEx.Support.History

/-!
# Callbacks that run in a coroutine

The logic thread starts a coroutine for the callback of a response, of a ticker and of a
service that has connected or disconnected.  The coroutine gets the callback by reference.
`resume` returns when the coroutine suspends for the first time, and the function that has
called it goes on to the end of its block, where it destroys what it has deferred to destroy.

The objects are numbered, so that the function that a ticker or a service has now can be told
from the one it had before.
-/

namespace RealtimeEx.Core

/-- `eMCT_SERVICE_CONNECT` and `eMCT_SERVICE_DISCONNECT`. -/
inductive NoticeCommand
  | connect
  | disconnect
  deriving DecidableEq

/-- What a callback uses: the function of a ticker, the one of a service for a notice, the
`SPendingResponseInfo` that a function is in, and the context of a notice. -/
inductive CallbackObject
  | ticker (nTicker n : ℕ)
  | service (notice : NoticeCommand) (n : ℕ)
  | pendingResponseInfo (n : ℕ)
  | serviceContext (n : ℕ)
  deriving DecidableEq

def CallbackObject.number : CallbackObject → ℕ
  | ticker _ n => n
  | service _ n => n
  | pendingResponseInfo n => n
  | serviceContext n => n

/-- `CTicker`, as far as its callback is concerned. -/
structure TickerCallback where
  callback : Option CallbackObject
  bCoroutine : Bool

/-- `SPendingResponseInfo`; the coroutines are numbered from one. -/
structure PendingCallback where
  object : CallbackObject
  nCoroutineID : ℕ
  callback : Bool

/-- A callback that has been called in a coroutine and has not returned. -/
structure Execution where
  callback : CallbackObject
  context : Option CallbackObject

/-- What must live as long as the callback. -/
def Execution.objects (x : Execution) : List CallbackObject := x.callback :: x.context.toList

/-- The logic thread.  `deferred` is what the function that has resumed the current coroutine
destroys when it is left. -/
structure CallbackThread where
  destroyed : CallbackObject → Bool := fun _ => false
  nObjects : ℕ := 0
  ticker : ℕ → Option TickerCallback := fun _ => none
  fnService : NoticeCommand → Option CallbackObject := fun _ => none
  mapPendingResponseInfo : UInt64 → Option PendingCallback := fun _ => none
  unfinished : ℕ → Option Execution := fun _ => none
  nCoroutines : ℕ := 0
  current : Option ℕ := none
  deferred : List CallbackObject := []

namespace CallbackThread

variable (s : CallbackThread)

def destroy (objects : List CallbackObject) : CallbackThread :=
  { s with destroyed := fun o => s.destroyed o || decide (o ∈ objects) }

/-! ## Owners -/

/-- The function that a ticker has. -/
def tickerObject (nTicker : ℕ) : Option CallbackObject :=
  (s.ticker nTicker).bind TickerCallback.callback

/-- `CTicker::setCallback`, also of a new ticker. -/
def setCallback (nTicker : ℕ) (callback bCoroutine : Bool) : CallbackThread :=
  { s.destroy (s.tickerObject nTicker).toList with
    nObjects := s.nObjects + 1
    ticker := Function.update s.ticker nTicker (some
      { callback := if callback then some (.ticker nTicker s.nObjects) else none
        bCoroutine }) }

/-- `CTicker::~CTicker`. -/
def deleteTicker (nTicker : ℕ) : CallbackThread :=
  { s.destroy (s.tickerObject nTicker).toList with
    ticker := Function.update s.ticker nTicker none }

/-- `setServiceConnectCallback` and `setServiceDisconnectCallback`. -/
def setServiceCallback (notice : NoticeCommand) (callback : Bool) : CallbackThread :=
  { s.destroy (s.fnService notice).toList with
    nObjects := s.nObjects + 1
    fnService := Function.update s.fnService notice
      (if callback then some (.service notice s.nObjects) else none) }

/-- `addPendingResponseInfo`. -/
def addPendingResponseInfo (nSessionID : UInt64) (nCoroutineID : ℕ) (callback : Bool) :
    CallbackThread :=
  if (s.mapPendingResponseInfo nSessionID).isSome then s
  else
    { s with
      nObjects := s.nObjects + 1
      mapPendingResponseInfo := Function.update s.mapPendingResponseInfo nSessionID (some
        { object := .pendingResponseInfo s.nObjects, nCoroutineID, callback }) }

/-- `m_mapPendingResponseInfo.erase`. -/
def erasePending (nSessionID : UInt64) : CallbackThread :=
  { s with
    mapPendingResponseInfo := Function.update s.mapPendingResponseInfo nSessionID none }

/-- One round of the loop of `delPendingResponseInfo`. -/
def delPendingSession (nSessionID : UInt64) : CallbackThread :=
  match s.mapPendingResponseInfo nSessionID with
  | none => s
  | some p => (s.erasePending nSessionID).destroy [p.object]

/-! ## Starting coroutines -/

/-- `coroutine::create` and `coroutine::resume`. -/
def start (x : Execution) (deferred : List CallbackObject) : CallbackThread :=
  { s with
    unfinished := Function.update s.unfinished (s.nCoroutines + 1) (some x)
    nCoroutines := s.nCoroutines + 1
    current := some (s.nCoroutines + 1)
    deferred }

/-- `tickerCallback`.  A callback that is not for a coroutine is called right there. -/
def tickerCallback (nTicker : ℕ) : CallbackThread :=
  match s.ticker nTicker with
  | none => s
  | some pTicker =>
      match pTicker.callback with
      | none => s
      | some callback =>
          if pTicker.bCoroutine then s.start { callback, context := none } [] else s

/-- `coroutine::resume` of a coroutine that may have finished. -/
def resumeDeferred (nCoroutineID : ℕ) (deferred : List CallbackObject) : CallbackThread :=
  if (s.unfinished nCoroutineID).isSome then { s with current := some nCoroutineID, deferred }
  else s.destroy deferred

/-- The `eMT_RESPONSE` branch of `CMessageDispatcher::dispatch`.  The message is held by a
`shared_ptr` of the coroutine.  For a coroutine that waits for the response the callback is
called right there, and resumes it. -/
def dispatchResponse (nSessionID : UInt64) (bMessage : Bool) : CallbackThread :=
  if nSessionID = 0 then s
  else if bMessage = false then s
  else
    match s.mapPendingResponseInfo nSessionID with
    | none => s
    | some p =>
        let s := s.erasePending nSessionID
        if p.callback = false then s.destroy [p.object]
        else if p.nCoroutineID = 0 then
          s.start { callback := p.object, context := none } [p.object]
        else s.resumeDeferred p.nCoroutineID [p.object]

/-- The branches of `CLogicRunnable` for `eMCT_SERVICE_CONNECT` and
`eMCT_SERVICE_DISCONNECT`. -/
def onServiceNotice (notice : NoticeCommand) : CallbackThread :=
  let pContext := .serviceContext s.nObjects
  let s := { s with nObjects := s.nObjects + 1 }
  match s.fnService notice with
  | none => s.destroy [pContext]
  | some callback => s.start { callback, context := some pContext } [pContext]

/-! ## Suspending and returning -/

/-- `resume` returns to the function that has called it, which is left then. -/
def leave : CallbackThread :=
  { s.destroy s.deferred with current := none, deferred := [] }

/-- The callback of the current coroutine returns. -/
def finish : CallbackThread :=
  match s.current with
  | none => s
  | some c => { s with unfinished := Function.update s.unfinished c none }.leave

/-- What happens on the logic thread. -/
inductive Op
  | setCallback (nTicker : ℕ) (callback bCoroutine : Bool)
  | deleteTicker (nTicker : ℕ)
  | setServiceCallback (notice : NoticeCommand) (callback : Bool)
  | addPendingResponseInfo (nSessionID : UInt64) (nCoroutineID : ℕ) (callback : Bool)
  | delPendingSession (nSessionID : UInt64)
  | tickerCallback (nTicker : ℕ)
  | dispatchResponse (nSessionID : UInt64) (bMessage : Bool)
  | onServiceNotice (notice : NoticeCommand)
  | yield
  | finish
  | resume (nCoroutineID : ℕ)

/-- Nothing is dispatched while a coroutine runs. -/
def Allowed : Op → Bool
  | .tickerCallback _ => s.current.isNone
  | .dispatchResponse _ _ => s.current.isNone
  | .onServiceNotice _ => s.current.isNone
  | .resume nCoroutineID => s.current.isNone && (s.unfinished nCoroutineID).isSome
  | .yield => s.current.isSome
  | .finish => s.current.isSome
  | _ => true

def act : Op → CallbackThread
  | .setCallback nTicker callback bCoroutine => s.setCallback nTicker callback bCoroutine
  | .deleteTicker nTicker => s.deleteTicker nTicker
  | .setServiceCallback notice callback => s.setServiceCallback notice callback
  | .addPendingResponseInfo nSessionID nCoroutineID callback =>
      s.addPendingResponseInfo nSessionID nCoroutineID callback
  | .delPendingSession nSessionID => s.delPendingSession nSessionID
  | .tickerCallback nTicker => s.tickerCallback nTicker
  | .dispatchResponse nSessionID bMessage => s.dispatchResponse nSessionID bMessage
  | .onServiceNotice notice => s.onServiceNotice notice
  | .yield => s.leave
  | .finish => s.finish
  | .resume nCoroutineID => { s with current := some nCoroutineID, deferred := [] }

def step (op : Op) : CallbackThread :=
  if s.Allowed op then s.act op else s

/-! ## The property -/

/-- No unfinished callback uses an object. -/
def Unused (o : CallbackObject) : Prop :=
  ∀ c x, s.unfinished c = some x → o ∉ x.objects

/-- What an unfinished callback uses has not been destroyed. -/
def Outlives : Prop :=
  ∀ c x, s.unfinished c = some x → ∀ o ∈ x.objects, s.destroyed o = false

/-- A step that destroys nothing an unfinished callback uses: a callback does not suspend
before the function is left that destroys what it uses, and the function of a ticker or of a
service is neither replaced nor destroyed while it runs. -/
def Spares : Op → Prop
  | .setCallback nTicker _ _ => ∀ o ∈ s.tickerObject nTicker, s.Unused o
  | .deleteTicker nTicker => ∀ o ∈ s.tickerObject nTicker, s.Unused o
  | .setServiceCallback notice _ => ∀ o ∈ s.fnService notice, s.Unused o
  | .yield => ∀ o ∈ s.deferred, s.Unused o
  | _ => True

end CallbackThread

end RealtimeEx.Core
