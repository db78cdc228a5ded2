import Mathlib.Algebra.Order.Ring.Int
import Mathlib.Logic.Function.Basic

/-!
# `CPromise` and `CFuture`

The contexts that promises and futures share, and what a client does with them that builds
chains: it uses every future once, for a continuation or as what a continuation returns.
The functions that run a continuation are cut there.  Before the continuation returns, the
client can do anything in it, so that continuations run inside of each other to any depth.
-/

namespace RealtimeEx.Core

/-- What is called when a future is ready: the function of a `then`, or one of the two of a
`then_r`.  The number is that of the continuation. -/
inductive FutureCallback
  | fn (continuation : ℕ)
  | callback0 (continuation : ℕ)
  | callback1 (continuation : ℕ) (pContext : ℕ)
  deriving DecidableEq

def FutureCallback.continuation : FutureCallback → ℕ
  | fn k => k
  | callback0 k => k
  | callback1 k _ => k

/-- `SFutureContext`. -/
structure SFutureContext (V : Type) where
  callback : Option FutureCallback := none
  bReady : Bool := false
  nCoroutineID : UInt64 := 0
  nErrorCode : UInt32 := 0
  val : Option V := none

namespace SFutureContext

variable {V : Type}

/-- What `isReady`, `getValue` and `getErrorCode` tell. -/
def outcome (pContext : SFutureContext V) : Option (Option V × UInt32) :=
  if pContext.bReady then some (pContext.val, pContext.nErrorCode) else none

end SFutureContext

/-- The contexts, which are numbered, the promises, the futures that the client holds and has not used, and the
callbacks that are running.  `predecessor`, `made`, `inner` and `started` are records: the
future that a continuation is attached to, the continuation that a context has been made for
and the future that it has returned, and the calls of the continuations. -/
structure Futures (V : Type) where
  context : ℕ → SFutureContext V := fun _ => {}
  nContexts : ℕ := 0
  promise : ℕ → Bool := fun _ => false
  bFuture : ℕ → Bool := fun _ => false
  held : ℕ → Bool := fun _ => false
  running : List FutureCallback := []
  nContinuations : ℕ := 0
  predecessor : ℕ → Option ℕ := fun _ => none
  made : ℕ → Option ℕ := fun _ => none
  inner : ℕ → Option ℕ := fun _ => none
  started : List (ℕ × (Option V × UInt32)) := []

namespace Futures

variable {V : Type}

def setContext (s : Futures V) (c : ℕ) (pContext : SFutureContext V) : Futures V :=
  { s with context := Function.update s.context c pContext }

def setHeld (s : Futures V) (c : ℕ) (held : Bool) : Futures V :=
  { s with held := Function.update s.held c held }

/-- `make_shared`. -/
def makeShared (s : Futures V) (pContext : SFutureContext V) : Futures V :=
  { s.setContext s.nContexts pContext with nContexts := s.nContexts + 1 }

/-- A call of a callback. -/
def run (s : Futures V) (callback : FutureCallback) (val : Option V) (nErrorCode : UInt32) :
    Futures V :=
  { s with
    running := callback :: s.running
    started := s.started ++ [(callback.continuation, (val, nErrorCode))] }

/-- The call of the callback of a context, if it has one, with the value of the context. -/
def runCallback (s : Futures V) (c : ℕ) : Futures V :=
  match (s.context c).callback with
  | none => s
  | some callback => s.run callback (s.context c).val (s.context c).nErrorCode

@[simp] theorem context_runCallback {s : Futures V} (c : ℕ) :
    (s.runCallback c).context = s.context := by
  rw [runCallback]
  cases (s.context c).callback with
  | none => rfl
  | some callback => rfl

/-! ## `CPromise` -/

/-- `CPromise::CPromise`. -/
def newPromise (s : Futures V) : Futures V :=
  { s.makeShared {} with promise := Function.update s.promise s.nContexts true }

/-- `getFuture`; the future is valid once. -/
def getFuture (s : Futures V) (c : ℕ) : Futures V :=
  if s.bFuture c then s
  else { s.setHeld c true with bFuture := Function.update s.bFuture c true }

/-- `setValue`. -/
def setValue (s : Futures V) (c : ℕ) (val : Option V) (nErrorCode : UInt32) :
    Futures V :=
  if (s.context c).bReady then s
  else
    let s := s.setContext c { s.context c with val, nErrorCode, bReady := true }
    if (s.context c).nCoroutineID ≠ 0 then s
    else s.runCallback c

/-! ## `CFuture` -/

/-- `createFuture`. -/
def createFuture (s : Futures V) (val : Option V) : Futures V :=
  (s.makeShared { bReady := true, val }).setHeld s.nContexts true

/-- The next continuation is attached to a future. -/
def attach (s : Futures V) (c : ℕ) (callback : FutureCallback) : Futures V :=
  { (s.setContext c { s.context c with callback := some callback }).setHeld c false with
    predecessor := Function.update s.predecessor s.nContinuations (some c)
    nContinuations := s.nContinuations + 1 }

theorem bReady_attach {s : Futures V} (c : ℕ) (callback : FutureCallback) (d : ℕ) :
    ((s.attach c callback).context d).bReady = (s.context d).bReady := by
  simp only [attach, setHeld, setContext, Function.update_apply]
  split
  · rename_i heq
    rw [heq]
  · rfl

/-- `then`. -/
def «then» (s : Futures V) (c : ℕ) : Futures V :=
  let s := s.attach c (.fn s.nContinuations)
  if (s.context c).bReady then s.runCallback c else s

/-- `then_r`, up to the call of `callback_0` if the future is ready. -/
def thenR (s : Futures V) (c : ℕ) : Futures V :=
  if (s.context c).bReady then
    (s.attach c (.callback0 s.nContinuations)).runCallback c
  else
    let pContext := s.nContexts
    { ((s.makeShared {}).attach c (.callback1 s.nContinuations pContext)).setHeld pContext
        true with
      made := Function.update s.made pContext (some s.nContinuations) }

/-- What `callback_0` does when `fn` has returned, and the return of `then_r`.  Nobody else
knows the context of `then_r` yet, so it has no callback; and if the future is valid, it is
the future of `then_r` too. -/
def returned0 (s : Futures V) : Option ℕ → Futures V
  | none => (s.makeShared {}).setHeld s.nContexts true
  | some sNewFuture =>
      s.setContext sNewFuture { s.context sNewFuture with callback := none }

/-- `sNewFuture.m_pContext->callback = pContext->callback`. -/
def handOn (s : Futures V) (pContext sNewFuture : ℕ) : Futures V :=
  { s.setHeld sNewFuture false with
    inner := Function.update s.inner pContext (some sNewFuture) }.setContext sNewFuture
      { s.context sNewFuture with callback := (s.context pContext).callback }

/-- The future that is returned may be ready already. -/
def copyValue (s : Futures V) (pContext sNewFuture : ℕ) : Futures V :=
  s.setContext pContext
    { s.context pContext with
      bReady := (s.context sNewFuture).bReady
      val := (s.context sNewFuture).val
      nErrorCode := (s.context sNewFuture).nErrorCode }

/-- What `callback_1` does when `fn` has returned. -/
def returned1 (s : Futures V) (pContext : ℕ) : Option ℕ → Futures V
  | none => s
  | some sNewFuture =>
      let s := (s.handOn pContext sNewFuture).copyValue pContext sNewFuture
      if (s.context sNewFuture).bReady then s.runCallback sNewFuture else s

/-- A running continuation returns. -/
def «return» (s : Futures V) (sNewFuture : Option ℕ) : Futures V :=
  match s.running with
  | [] => s
  | .fn _ :: running => { s with running }
  | .callback0 _ :: running => { s with running }.returned0 sNewFuture
  | .callback1 _ pContext :: running => { s with running }.returned1 pContext sNewFuture

/-! ## Clients -/

/-- What a client does, also inside of a continuation. -/
inductive Op (V : Type)
  | newPromise
  | getFuture (c : ℕ)
  | setValue (c : ℕ) (val : Option V) (nErrorCode : UInt32)
  | createFuture (val : Option V)
  | «then» (c : ℕ)
  | thenR (c : ℕ)
  | «return» (sNewFuture : Option ℕ)

/-- A client has the promises and futures that it uses, and uses a future once. -/
def Allowed (s : Futures V) : Op V → Prop
  | .newPromise => True
  | .getFuture c => s.promise c = true
  | .setValue c _ _ => s.promise c = true
  | .createFuture _ => True
  | .then c => s.held c = true
  | .thenR c => s.held c = true
  | .return sNewFuture => ∀ c ∈ sNewFuture, s.held c = true

instance (s : Futures V) : DecidablePred s.Allowed
  | .newPromise => inferInstanceAs (Decidable True)
  | .getFuture c => inferInstanceAs (Decidable (s.promise c = true))
  | .setValue c _ _ => inferInstanceAs (Decidable (s.promise c = true))
  | .createFuture _ => inferInstanceAs (Decidable True)
  | .then c => inferInstanceAs (Decidable (s.held c = true))
  | .thenR c => inferInstanceAs (Decidable (s.held c = true))
  | .return none => .isTrue (by simp [Allowed])
  | .return (some c) => decidable_of_iff (s.held c = true) (by simp [Allowed])

def act (s : Futures V) : Op V → Futures V
  | .newPromise => s.newPromise
  | .getFuture c => s.getFuture c
  | .setValue c val nErrorCode => s.setValue c val nErrorCode
  | .createFuture val => s.createFuture val
  | .then c => s.then c
  | .thenR c => s.thenR c
  | .return sNewFuture => s.return sNewFuture

/-- What a client that builds chains cannot do has no effect. -/
def step (s : Futures V) (op : Op V) : Futures V :=
  if s.Allowed op then s.act op else s

end Futures

end RealtimeEx.Core
