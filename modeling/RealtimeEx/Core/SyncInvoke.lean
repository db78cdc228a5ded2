import RealtimeEx.Core.PendingResponseInvariant

/-!
# Synchronous invocations

`CServiceInvoker::sync_invoke` adds a pending response whose callback resumes
the calling coroutine, and yields.  Nothing else knows the coroutine, so it
sleeps until a response takes its entry out of the table of the service.

The entry is filed under the holder the call was made through as well, and
`delPendingResponseInfo` deletes the entries of a holder when it is destroyed,
whether or not a coroutine waits for them.
-/

namespace RealtimeEx.Core

/-- A service with the coroutines of its thread: the one that runs, zero for
the root, and the entry each suspended `sync_invoke` waits for. -/
structure SyncState where
  service : ServiceState
  nCurrent : UInt64
  waiting : UInt64 → Option ℕ

namespace SyncState

/-- A service created at the given time. -/
def initial (time : ℕ) : SyncState where
  service := ServiceState.initial time
  nCurrent := 0
  waiting _ := none

/-- What `sync_invoke` passes to `invoke`: the coroutine, and `callback_`. -/
def syncInvocation (i : ServiceState.Invocation) (nCoroutineID : UInt64) :
    ServiceState.Invocation :=
  { i with nCoroutineID := nCoroutineID, callback := true }

/-- The running coroutine yields in `sync_invoke`, after its entry was added. -/
def yield (s : SyncState) (service : ServiceState) : SyncState where
  service := service
  nCurrent := 0
  waiting := Function.update s.waiting s.nCurrent (some s.service.nextEntry)

/-- `callback_` of `sync_invoke` resumes the coroutine; the dispatcher calls
any other callback in a coroutine it starts. -/
def resume (s : SyncState) (p : PendingResponseInfo) : SyncState :=
  if p.callback ∧ p.nCoroutineID ≠ 0 then
    { s with
      nCurrent := p.nCoroutineID
      waiting := Function.update s.waiting p.nCoroutineID none }
  else
    s

/-- What happens on the logic thread. -/
inductive Label
  | enter (nCoroutineID : UInt64)
  | leave
  | syncInvoke
  | asyncInvoke
  | cancel (nHolderID : UInt64)
  | response
  | quiet
  deriving DecidableEq, Repr

section

variable {μ : Type*}

/-- The step relation.  The root enters a coroutine it creates, or one that was
not suspended in `sync_invoke`.  A `quiet` step is any step of the service that
leaves the table alone; inside a coroutine nothing is dispatched. -/
inductive Step (nDefaultTimeout : UInt32)
    (unserialize : UInt8 → List UInt8 → List UInt8 → Option μ) :
    SyncState → Label → SyncState → Prop
  | enter {s : SyncState} {nCoroutineID : UInt64}
      (hroot : s.nCurrent = 0) (hrunning : s.service.Running)
      (hne : nCoroutineID ≠ 0) (hfree : s.waiting nCoroutineID = none) :
      Step nDefaultTimeout unserialize s (.enter nCoroutineID)
        { s with nCurrent := nCoroutineID }
  | leave {s : SyncState} (hinside : s.nCurrent ≠ 0) :
      Step nDefaultTimeout unserialize s .leave { s with nCurrent := 0 }
  | syncInvoke {s : SyncState} {i : ServiceState.Invocation}
      {service : ServiceState}
      (hinside : s.nCurrent ≠ 0) (hrunning : s.service.Running)
      (hadd : { s.service with nNextSessionID := s.service.genSessionID
        }.addPendingResponseInfo nDefaultTimeout s.service.genSessionID
          (syncInvocation i s.nCurrent) = some service) :
      Step nDefaultTimeout unserialize s .syncInvoke (s.yield service)
  | asyncInvoke {s : SyncState} {i : ServiceState.Invocation}
      {service : ServiceState}
      (hrunning : s.service.Running) (hasync : i.nCoroutineID = 0)
      (hadd : { s.service with nNextSessionID := s.service.genSessionID
        }.addPendingResponseInfo nDefaultTimeout s.service.genSessionID i =
          some service) :
      Step nDefaultTimeout unserialize s .asyncInvoke
        { s with service := service }
  | cancel {s : SyncState} {nHolderID : UInt64}
      (hrunning : s.service.Running) :
      Step nDefaultTimeout unserialize s (.cancel nHolderID)
        { s with service := s.service.delPendingResponseInfo nHolderID }
  | response {s : SyncState} {context : ResponseContext}
      {rest : List ServicePacket} {p : PendingResponseInfo}
      {message : Option μ}
      (hroot : s.nCurrent = 0)
      (hphase : s.service.tickerMgr.phase = .idle)
      (hidle : s.service.dispatching = none)
      (hqueue : s.service.messageQueue = .response context :: rest)
      (hfind : s.service.findResponse unserialize context = some (p, message)) :
      Step nDefaultTimeout unserialize s .response
        (resume
          { s with
            service :=
              { s.service.getPendingResponseInfo p with
                messageQueue := rest
                dispatching := some p } } p)
  | quiet {s : SyncState} {l : ServiceState.Label μ} {service : ServiceState}
      (hstep : ServiceState.Step nDefaultTimeout unserialize s.service l service)
      (htable : service.mapPendingResponseInfo =
        s.service.mapPendingResponseInfo)
      (hinside : s.nCurrent ≠ 0 →
        service.dispatching = s.service.dispatching ∧
          s.service.messageQueue <+: service.messageQueue) :
      Step nDefaultTimeout unserialize s .quiet { s with service := service }

end

/-! ## What a step does to the service -/

section

variable {μ : Type*} {nDefaultTimeout : UInt32}
  {unserialize : UInt8 → List UInt8 → List UInt8 → Option μ}
  {s t : SyncState} {l : Label}

theorem waiting_yield (s : SyncState) (service : ServiceState)
    (nCoroutineID : UInt64) :
    (s.yield service).waiting nCoroutineID =
      if nCoroutineID = s.nCurrent then some s.service.nextEntry
      else s.waiting nCoroutineID :=
  Function.update_apply ..

@[simp]
theorem service_resume (s : SyncState) (p : PendingResponseInfo) :
    (s.resume p).service = s.service := by
  unfold resume
  split <;> rfl

theorem waiting_resume (s : SyncState) (p : PendingResponseInfo)
    (nCoroutineID : UInt64) :
    (s.resume p).waiting nCoroutineID =
      if p.callback ∧ p.nCoroutineID ≠ 0 ∧ nCoroutineID = p.nCoroutineID then none
      else s.waiting nCoroutineID := by
  unfold resume
  by_cases hsync : p.callback ∧ p.nCoroutineID ≠ 0
  · rw [if_pos hsync]
    simp [Function.update_apply, hsync.1, hsync.2]
  · rw [if_neg hsync, if_neg]
    rintro ⟨hcallback, hne, -⟩
    exact hsync ⟨hcallback, hne⟩

/-- Every step is one of the service, or none. -/
theorem Step.service (hstep : Step nDefaultTimeout unserialize s l t) :
    t.service = s.service ∨
      ∃ k, ServiceState.Step nDefaultTimeout unserialize s.service k
        t.service := by
  cases hstep with
  | enter => exact Or.inl rfl
  | leave => exact Or.inl rfl
  | syncInvoke hinside hrunning hadd => exact Or.inr ⟨_, .invoke hrunning hadd⟩
  | asyncInvoke hrunning hasync hadd => exact Or.inr ⟨_, .invoke hrunning hadd⟩
  | cancel hrunning => exact Or.inr ⟨_, .cancel hrunning⟩
  | response hroot hphase hidle hqueue hfind =>
      rw [service_resume]
      exact Or.inr ⟨_, .dispatch hphase hidle hqueue hfind⟩
  | quiet hstep => exact Or.inr ⟨_, hstep⟩

end

end SyncState

/-- A service created at the given time, with its coroutines. -/
def syncSystem {μ : Type*} (nDefaultTimeout : UInt32)
    (unserialize : UInt8 → List UInt8 → List UInt8 → Option μ) (time : ℕ) :
    TransitionSystem SyncState SyncState.Label where
  init s := s = SyncState.initial time
  step := SyncState.Step nDefaultTimeout unserialize

end RealtimeEx.Core
