import Mathlib.Logic.Function.Basic
import RealtimeEx.Support.Transition

/-!
# The logic message queues and their worker threads

This file models `CLogicMessageQueue`, `CLogicMessageQueueMgr` and the loop of
`CLogicRunnable::onProcess`.  Every service owns one queue; the manager keeps
the list of the queues that are ready; the logic threads take a queue from the
list, swap its packets out, dispatch them and give the queue back.

A step of the model is one critical section of the code, except that
`putMessageQueue` is a step of its own: it takes the manager's lock while the
caller still holds the queue's lock, so other threads can run between the two.
The queue's lock is therefore part of the state.
-/

namespace RealtimeEx.Core

/-! ## One queue -/

/-- `CLogicMessageQueue::m_nFlag`. -/
inductive Flag
  | inList
  | notInList
  | dispatch
  deriving DecidableEq, Repr

/-- `CLogicMessageQueue`; `locked` says whether some thread is inside one of
its critical sections. -/
structure LogicMessageQueue (π : Type*) where
  vecMessagePacket : List π := []
  flag : Flag := .notInList
  locked : Bool := false

namespace LogicMessageQueue

variable {π : Type*}

/-- `CLogicMessageQueue::send` up to the call of `putMessageQueue`, which it
makes, with the lock still held, when the queue was in no list. -/
def send (queue : LogicMessageQueue π) (packet : π) : LogicMessageQueue π :=
  if queue.flag = .notInList then
    { vecMessagePacket := queue.vecMessagePacket ++ [packet]
      flag := .inList
      locked := true }
  else
    { queue with vecMessagePacket := queue.vecMessagePacket ++ [packet] }

/-- `CLogicMessageQueue::recv`: the packets handed to the thread and the queue
it leaves.  A failed `DebugAst` returns after the thread's vector is cleared. -/
def recv (queue : LogicMessageQueue π) : List π × LogicMessageQueue π :=
  if queue.flag = .inList then
    (queue.vecMessagePacket,
      { queue with vecMessagePacket := [], flag := .dispatch })
  else
    ([], queue)

/-- `CLogicMessageQueue::dispatchEnd` up to the call of `putMessageQueue`. -/
def dispatchEnd (queue : LogicMessageQueue π) : LogicMessageQueue π :=
  if queue.flag = .dispatch then
    if queue.vecMessagePacket.isEmpty then
      { queue with flag := .notInList }
    else
      { queue with flag := .inList, locked := true }
  else
    queue

/-- The end of the critical section. -/
def unlock (queue : LogicMessageQueue π) : LogicMessageQueue π :=
  { queue with locked := false }

@[simp] theorem unlock_flag (queue : LogicMessageQueue π) :
    queue.unlock.flag = queue.flag := rfl

@[simp] theorem unlock_vecMessagePacket (queue : LogicMessageQueue π) :
    queue.unlock.vecMessagePacket = queue.vecMessagePacket := rfl

@[simp] theorem unlock_locked (queue : LogicMessageQueue π) :
    queue.unlock.locked = false := rfl

@[simp] theorem send_vecMessagePacket
    (queue : LogicMessageQueue π) (packet : π) :
    (queue.send packet).vecMessagePacket =
      queue.vecMessagePacket ++ [packet] := by
  unfold send
  split <;> rfl

theorem send_of_ne {queue : LogicMessageQueue π} {packet : π}
    (hflag : queue.flag ≠ .notInList) :
    queue.send packet =
      { queue with
        vecMessagePacket := queue.vecMessagePacket ++ [packet] } := by
  simp [send, hflag]

theorem recv_of_inList {queue : LogicMessageQueue π}
    (hflag : queue.flag = .inList) :
    queue.recv =
      (queue.vecMessagePacket,
        { queue with vecMessagePacket := [], flag := .dispatch }) := by
  simp [recv, hflag]

theorem dispatchEnd_of_nil {queue : LogicMessageQueue π}
    (hflag : queue.flag = .dispatch)
    (hempty : queue.vecMessagePacket = []) :
    queue.dispatchEnd = { queue with flag := .notInList } := by
  simp [dispatchEnd, hflag, hempty]

theorem dispatchEnd_of_ne_nil {queue : LogicMessageQueue π}
    (hflag : queue.flag = .dispatch)
    (hpackets : queue.vecMessagePacket ≠ []) :
    queue.dispatchEnd = { queue with flag := .inList, locked := true } := by
  simp [dispatchEnd, hflag, hpackets]

end LogicMessageQueue

/-! ## Threads -/

/-- The points of `CLogicRunnable::onProcess` between two critical sections.
`dispatching` carries the rest of `m_vecMessagePacket`. -/
inductive LogicRunnable (κ π : Type*)
  | getting
  | waiting
  | taken (queue : κ)
  | dispatching (queue : κ) (vecMessagePacket : List π)
  | putting (queue : κ)
  deriving DecidableEq

/-- A thread that calls `CLogicMessageQueue::send`: a network thread, a timer,
or a logic thread from inside a dispatch. -/
inductive Sender (κ : Type*)
  | idle
  | putting (queue : κ)
  deriving DecidableEq

/-- The queues `κ`, the logic threads `ω` and the senders `σ`.  `sent` and
`dispatched` record the history of every queue. -/
structure QueueState (κ ω σ π : Type*) where
  queue : κ → LogicMessageQueue π
  listMessageQueue : List κ
  runnable : ω → LogicRunnable κ π
  sender : σ → Sender κ
  sent : κ → List π
  dispatched : κ → List π

/-- What a thread does; `wake` is the thread `notify_one` wakes. -/
inductive QueueLabel (κ ω σ π : Type*)
  | send (thread : σ) (queue : κ) (packet : π)
  | sendPut (thread : σ) (wake : Option ω)
  | get (thread : ω)
  | wait (thread : ω)
  | wakeUp (thread : ω)
  | recv (thread : ω)
  | dispatch (thread : ω)
  | dispatchEnd (thread : ω)
  | put (thread : ω) (wake : Option ω)
  deriving DecidableEq

namespace QueueState

variable {κ ω σ π : Type*} [DecidableEq κ] [DecidableEq ω] [DecidableEq σ]

/-- Before any service got its `eMCT_INIT` packet. -/
def initial : QueueState κ ω σ π where
  queue _ := {}
  listMessageQueue := []
  runnable _ := .getting
  sender _ := .idle
  sent _ := []
  dispatched _ := []

def setQueue (s : QueueState κ ω σ π) (k : κ) (queue : LogicMessageQueue π) :
    QueueState κ ω σ π :=
  { s with queue := Function.update s.queue k queue }

def setRunnable (s : QueueState κ ω σ π) (w : ω) (r : LogicRunnable κ π) :
    QueueState κ ω σ π :=
  { s with runnable := Function.update s.runnable w r }

def setSender (s : QueueState κ ω σ π) (u : σ) (r : Sender κ) :
    QueueState κ ω σ π :=
  { s with sender := Function.update s.sender u r }

/-- `CLogicMessageQueueMgr::putMessageQueue`. -/
def putMessageQueue (s : QueueState κ ω σ π) (k : κ) (wake : Option ω) :
    QueueState κ ω σ π :=
  { s with
    listMessageQueue := s.listMessageQueue ++ [k]
    runnable :=
      match wake with
      | none => s.runnable
      | some w => Function.update s.runnable w .getting }

/-- `notify_one` wakes one waiting thread, and none only if none waits. -/
def NotifyOne (s : QueueState κ ω σ π) : Option ω → Prop
  | none => ∀ w, s.runnable w ≠ .waiting
  | some w => s.runnable w = .waiting

/-- The part of a send that queues the packet. -/
def enqueue (s : QueueState κ ω σ π) (k : κ) (packet : π) :
    QueueState κ ω σ π :=
  { s.setQueue k ((s.queue k).send packet) with
    sent := Function.update s.sent k (s.sent k ++ [packet]) }

/-- A send: the packet is queued, and if the queue was in no list the thread
goes on to `putMessageQueue` with the queue's lock held. -/
def send (s : QueueState κ ω σ π) (u : σ) (k : κ) (packet : π) :
    QueueState κ ω σ π :=
  if (s.queue k).flag = .notInList then
    (s.enqueue k packet).setSender u (.putting k)
  else
    s.enqueue k packet

/-- `getMessageQueue` on a list that is not empty. -/
def get (s : QueueState κ ω σ π) (w : ω) (k : κ) (rest : List κ) :
    QueueState κ ω σ π :=
  { s.setRunnable w (.taken k) with listMessageQueue := rest }

/-- `recv`, after which the thread dispatches the packets it was handed. -/
def recv (s : QueueState κ ω σ π) (w : ω) (k : κ) : QueueState κ ω σ π :=
  (s.setQueue k (s.queue k).recv.2).setRunnable w
    (.dispatching k (s.queue k).recv.1)

/-- One round of the loop over `m_vecMessagePacket`. -/
def dispatch (s : QueueState κ ω σ π) (w : ω) (k : κ) (packet : π)
    (rest : List π) : QueueState κ ω σ π :=
  { s.setRunnable w (.dispatching k rest) with
    dispatched := Function.update s.dispatched k (s.dispatched k ++ [packet]) }

/-- `dispatchEnd`; a queue that got packets meanwhile is put back. -/
def dispatchEnd (s : QueueState κ ω σ π) (w : ω) (k : κ) :
    QueueState κ ω σ π :=
  (s.setQueue k (s.queue k).dispatchEnd).setRunnable w
    (if (s.queue k).dispatchEnd.flag = .inList then .putting k else .getting)

/-- The step relation of the queues, the manager and the threads. -/
inductive Step : QueueState κ ω σ π → QueueLabel κ ω σ π →
    QueueState κ ω σ π → Prop
  | send {s : QueueState κ ω σ π} {u : σ} {k : κ} {packet : π}
      (hu : s.sender u = .idle) (hlock : (s.queue k).locked = false) :
      Step s (.send u k packet) (s.send u k packet)
  | sendPut {s : QueueState κ ω σ π} {u : σ} {k : κ} {wake : Option ω}
      (hu : s.sender u = .putting k) (hwake : s.NotifyOne wake) :
      Step s (.sendPut u wake)
        (((s.putMessageQueue k wake).setQueue k (s.queue k).unlock).setSender
          u .idle)
  | get {s : QueueState κ ω σ π} {w : ω} {k : κ} {rest : List κ}
      (hw : s.runnable w = .getting) (hlist : s.listMessageQueue = k :: rest) :
      Step s (.get w) (s.get w k rest)
  | wait {s : QueueState κ ω σ π} {w : ω}
      (hw : s.runnable w = .getting) (hlist : s.listMessageQueue = []) :
      Step s (.wait w) (s.setRunnable w .waiting)
  | wakeUp {s : QueueState κ ω σ π} {w : ω}
      (hw : s.runnable w = .waiting) :
      Step s (.wakeUp w) (s.setRunnable w .getting)
  | recv {s : QueueState κ ω σ π} {w : ω} {k : κ}
      (hw : s.runnable w = .taken k) (hlock : (s.queue k).locked = false) :
      Step s (.recv w) (s.recv w k)
  | dispatch {s : QueueState κ ω σ π} {w : ω} {k : κ} {packet : π}
      {rest : List π}
      (hw : s.runnable w = .dispatching k (packet :: rest)) :
      Step s (.dispatch w) (s.dispatch w k packet rest)
  | dispatchEnd {s : QueueState κ ω σ π} {w : ω} {k : κ}
      (hw : s.runnable w = .dispatching k [])
      (hlock : (s.queue k).locked = false) :
      Step s (.dispatchEnd w) (s.dispatchEnd w k)
  | put {s : QueueState κ ω σ π} {w : ω} {k : κ} {wake : Option ω}
      (hw : s.runnable w = .putting k) (hwake : s.NotifyOne wake) :
      Step s (.put w wake)
        (((s.putMessageQueue k wake).setQueue k (s.queue k).unlock).setRunnable
          w .getting)

end QueueState

/-- Any number of services, logic threads and senders. -/
def queueSystem (κ ω σ π : Type*) [DecidableEq κ] [DecidableEq ω]
    [DecidableEq σ] :
    TransitionSystem (QueueState κ ω σ π) (QueueLabel κ ω σ π) where
  init s := s = QueueState.initial
  step := QueueState.Step

end RealtimeEx.Core
