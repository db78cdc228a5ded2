import RealtimeEx.Support.LinkLists
import RealtimeEx.Support.Transition

/-!
# The ticker manager

This file models `CTickerMgrImpl`: a near wheel with one list for each of the
next `2 ^ 16` ticks, three cascade wheels of 256 lists each for later due
times, and a list for everything beyond.

`update` calls back into the program, and the callbacks register and
unregister tickers.  The loop is therefore a state machine: its program point
is part of the state, one round of each of its loops is a step, and while a
callback runs the registration functions may be called.
-/

set_option linter.unusedSectionVars false

namespace RealtimeEx.Base

/-! ## Nodes and lists -/

def timeNearBits : ℕ := 16

def timeCascadeBits : ℕ := 8

def timeCascadeCount : ℕ := 3

/-- The number of ticks one list of the given cascade level stands for. -/
def cascadeUnit (level : ℕ) : ℕ :=
  2 ^ (timeNearBits + level * timeCascadeBits)

/-- The lists of the manager. -/
inductive Slot
  | near (pos : ℕ)
  | cascade (level pos : ℕ)
  | far
  deriving DecidableEq, Repr

/-- `SCoreTickerInfo`; the ticker is `none` once it is unregistered. -/
structure TickerNode (τ : Type*) where
  pTicker : Option τ
  nextTime : ℕ
  intervalTime : ℕ
  context : UInt64

/-- The program point of `update`.  `cascading now 3` empties the far list,
and `calling now id` is inside the callback of the node `id`. -/
inductive Phase
  | idle
  | loop (now : ℕ)
  | cascading (now level : ℕ)
  | draining (now : ℕ)
  | calling (now id : ℕ)
  | reinserting (now : ℕ)
  deriving DecidableEq, Repr

/-- The registration functions may be called when no update runs and from
inside a callback. -/
def Phase.external : Phase → Bool
  | .idle | .calling _ _ => true
  | _ => false

/-- `CTickerMgrImpl`, with the nodes on the heap and the `m_pCoreContext` of
the tickers `τ`.  `callback` says whether the manager was given a callback of
its own. -/
structure TickerMgr (τ : Type*) where
  callback : Bool
  logicTime : ℕ
  links : LinkLists Slot
  node : ℕ → Option (TickerNode τ)
  nextNode : ℕ
  coreContext : τ → Option ℕ
  vecTempTickerNode : List ℕ
  phase : Phase

/-- The level whose lists cover a distance, `timeCascadeCount` if none. -/
def cascadeLevel (deltaTime : ℕ) : ℕ :=
  if deltaTime < cascadeUnit 1 then 0
  else if deltaTime < cascadeUnit 2 then 1
  else if deltaTime < cascadeUnit 3 then 2
  else timeCascadeCount

/-- The list `insertTicker` chooses; `none` is the failed `DebugAst`. -/
def slotOf (logicTime nextTime : ℕ) : Option Slot :=
  if logicTime ≤ nextTime then
    let deltaTime := nextTime - logicTime
    if deltaTime < 2 ^ timeNearBits then
      some (.near (nextTime % 2 ^ timeNearBits))
    else
      let level := cascadeLevel deltaTime
      if level < timeCascadeCount then
        some (.cascade level
          (nextTime / cascadeUnit level % 2 ^ timeCascadeBits))
      else
        some .far
  else
    none

namespace TickerMgr

variable {τ : Type*} [DecidableEq τ]

/-- A manager created at the given time. -/
def initial (callback : Bool) (time : ℕ) : TickerMgr τ where
  callback := callback
  logicTime := time
  links := .empty
  node _ := none
  nextNode := 0
  coreContext _ := none
  vecTempTickerNode := []
  phase := .idle

def setNode (s : TickerMgr τ) (id : ℕ) (n : Option (TickerNode τ)) :
    TickerMgr τ :=
  { s with node := Function.update s.node id n }

def setContext (s : TickerMgr τ) (ticker : τ) (context : Option ℕ) :
    TickerMgr τ :=
  { s with coreContext := Function.update s.coreContext ticker context }

def setPhase (s : TickerMgr τ) (phase : Phase) : TickerMgr τ :=
  { s with phase := phase }

/-- `insertTicker`. -/
def insertTicker (s : TickerMgr τ) (id nextTime : ℕ) : TickerMgr τ :=
  match slotOf s.logicTime nextTime with
  | none => s
  | some slot => { s with links := s.links.pushTail slot id }

section

variable (s : TickerMgr τ) (id nextTime : ℕ)

/-- Only the lists change when a node is inserted. -/
theorem exists_insertTicker_eq : ∃ links,
    s.insertTicker id nextTime = { s with links := links } := by
  unfold insertTicker
  split
  · exact ⟨s.links, rfl⟩
  · exact ⟨_, rfl⟩

@[simp] theorem node_insertTicker :
    (s.insertTicker id nextTime).node = s.node := by
  obtain ⟨links, h⟩ := s.exists_insertTicker_eq id nextTime
  rw [h]

@[simp] theorem phase_insertTicker :
    (s.insertTicker id nextTime).phase = s.phase := by
  obtain ⟨links, h⟩ := s.exists_insertTicker_eq id nextTime
  rw [h]

@[simp] theorem logicTime_insertTicker :
    (s.insertTicker id nextTime).logicTime = s.logicTime := by
  obtain ⟨links, h⟩ := s.exists_insertTicker_eq id nextTime
  rw [h]

@[simp] theorem nextNode_insertTicker :
    (s.insertTicker id nextTime).nextNode = s.nextNode := by
  obtain ⟨links, h⟩ := s.exists_insertTicker_eq id nextTime
  rw [h]

end

/-! ## Registration -/

/-- `registerTicker` of a ticker that is not registered. -/
def registerTicker (s : TickerMgr τ) (ticker : τ)
    (startTime intervalTime : ℕ) (context : UInt64) : TickerMgr τ :=
  let id := s.nextNode
  let n : TickerNode τ :=
    { pTicker := some ticker
      nextTime := s.logicTime + startTime
      intervalTime := intervalTime
      context := context }
  let s := (s.setNode id (some n)).setContext ticker (some id)
  { s with nextNode := id + 1 }.insertTicker id n.nextTime

/-- `unregisterTicker`: a linked node is deleted, a node that is being
dispatched only forgets its ticker. -/
def unregisterTicker (s : TickerMgr τ) (ticker : τ) : TickerMgr τ :=
  match s.coreContext ticker with
  | none => s
  | some id =>
      let s := s.setContext ticker none
      if (s.links.link id).isSome then
        { s with links := s.links.remove id }.setNode id none
      else
        s.setNode id
          ((s.node id).map fun n => { n with pTicker := none })

/-! ## One tick -/

/-- The position of the logic time on a cascade level. -/
def cascadePos (s : TickerMgr τ) (level : ℕ) : ℕ :=
  s.logicTime / cascadeUnit level % 2 ^ timeCascadeBits

/-- The list `cascadeTicker` empties on the given level; past the last level
it is the far list. -/
def cascadeSlot (s : TickerMgr τ) (level : ℕ) : Slot :=
  if level < timeCascadeCount then .cascade level (s.cascadePos level) else .far

/-- The near list of the logic time. -/
def nearSlot (s : TickerMgr τ) : Slot :=
  .near (s.logicTime % 2 ^ timeNearBits)

/-- A node is taken out of its list and inserted again. -/
def moveTicker (s : TickerMgr τ) (id : ℕ) (n : TickerNode τ) : TickerMgr τ :=
  { s with links := s.links.remove id }.insertTicker id n.nextTime

/-- The part of the dispatch before the callback: the node is taken out of its
list, and a ticker that fires once is unregistered. -/
def beginDispatch (s : TickerMgr τ) (id : ℕ) (n : TickerNode τ) (ticker : τ) :
    TickerMgr τ :=
  let s := { s with links := s.links.remove id }
  if n.intervalTime = 0 then
    (s.setNode id (some { n with pTicker := none })).setContext ticker none
  else
    s

/-- `CTicker::getContext`. -/
def getContext (s : TickerMgr τ) (ticker : τ) : UInt64 :=
  match s.coreContext ticker with
  | none => 0
  | some id => ((s.node id).map TickerNode.context).getD 0

/-- The context the program sees: a callback of the manager is given the
ticker and asks it, otherwise the ticker's callback is given the node's. -/
def dispatchContext (s : TickerMgr τ) (n : TickerNode τ) (ticker : τ) :
    UInt64 :=
  if s.callback then s.getContext ticker else n.context

/-- The part of the dispatch after the callback. -/
def endDispatch (s : TickerMgr τ) (id : ℕ) (n : TickerNode τ) :
    TickerMgr τ :=
  if n.pTicker.isNone then
    s.setNode id none
  else
    { s with vecTempTickerNode := s.vecTempTickerNode ++ [id] }.setNode id
      (some { n with nextTime := n.nextTime + n.intervalTime })

/-- One round of the loop over `m_vecTempTickerNode`. -/
def reinsert (s : TickerMgr τ) (id : ℕ) (n : TickerNode τ) (rest : List ℕ) :
    TickerMgr τ :=
  let s := { s with vecTempTickerNode := rest }
  if n.pTicker.isNone then s.setNode id none else s.insertTicker id n.nextTime

/-- What the manager and its callers do.  A registration and a dispatch name
the node, so that the events of one registration can be told apart. -/
inductive Label (τ : Type*)
  | register (id : ℕ) (ticker : τ) (time startTime intervalTime : ℕ)
      (context : UInt64)
  | unregister (ticker : τ) (id : Option ℕ)
  | update (now : ℕ)
  | dispatch (id : ℕ) (ticker : τ) (context : UInt64) (time : ℕ)
  | internal
  | advance

/-- The step relation of the manager. -/
inductive Step : TickerMgr τ → Label τ → TickerMgr τ → Prop
  | register {s : TickerMgr τ} {ticker : τ} {startTime intervalTime : ℕ}
      {context : UInt64}
      (hphase : s.phase.external) (hfree : s.coreContext ticker = none) :
      Step s
        (.register s.nextNode ticker s.logicTime startTime intervalTime
          context)
        (s.registerTicker ticker startTime intervalTime context)
  | unregister {s : TickerMgr τ} {ticker : τ}
      (hphase : s.phase.external) :
      Step s (.unregister ticker (s.coreContext ticker))
        (s.unregisterTicker ticker)
  | update {s : TickerMgr τ} {now : ℕ}
      (hphase : s.phase = .idle) :
      Step s (.update now) (s.setPhase (.loop now))
  | finish {s : TickerMgr τ} {now : ℕ}
      (hphase : s.phase = .loop now) (htime : now < s.logicTime) :
      Step s .internal (s.setPhase .idle)
  | enter {s : TickerMgr τ} {now : ℕ}
      (hphase : s.phase = .loop now) (htime : s.logicTime ≤ now) :
      Step s .internal
        (if s.logicTime % 2 ^ timeNearBits = 0 then
          s.setPhase (.cascading now 0)
        else
          s.setPhase (.draining now))
  | cascadeMove {s : TickerMgr τ} {now level id : ℕ} {rest : List ℕ}
      {n : TickerNode τ}
      (hphase : s.phase = .cascading now level)
      (hlist : s.links.list (s.cascadeSlot level) = id :: rest)
      (hnode : s.node id = some n) :
      Step s .internal (s.moveTicker id n)
  | cascadeEnd {s : TickerMgr τ} {now level : ℕ}
      (hphase : s.phase = .cascading now level)
      (hlist : s.links.list (s.cascadeSlot level) = []) :
      Step s .internal
        (if level < timeCascadeCount ∧ s.cascadePos level = 0 then
          s.setPhase (.cascading now (level + 1))
        else
          s.setPhase (.draining now))
  | dispatch {s : TickerMgr τ} {now id : ℕ} {rest : List ℕ}
      {n : TickerNode τ} {ticker : τ}
      (hphase : s.phase = .draining now)
      (hlist : s.links.list s.nearSlot = id :: rest)
      (hnode : s.node id = some n) (hticker : n.pTicker = some ticker) :
      Step s
        (.dispatch id ticker
          ((s.beginDispatch id n ticker).dispatchContext n ticker)
          s.logicTime)
        ((s.beginDispatch id n ticker).setPhase (.calling now id))
  | returned {s : TickerMgr τ} {now id : ℕ} {n : TickerNode τ}
      (hphase : s.phase = .calling now id) (hnode : s.node id = some n) :
      Step s .internal ((s.endDispatch id n).setPhase (.draining now))
  | drained {s : TickerMgr τ} {now : ℕ}
      (hphase : s.phase = .draining now)
      (hlist : s.links.list s.nearSlot = []) :
      Step s .internal (s.setPhase (.reinserting now))
  | reinsert {s : TickerMgr τ} {now id : ℕ} {rest : List ℕ}
      {n : TickerNode τ}
      (hphase : s.phase = .reinserting now)
      (htemp : s.vecTempTickerNode = id :: rest)
      (hnode : s.node id = some n) :
      Step s .internal (s.reinsert id n rest)
  | advance {s : TickerMgr τ} {now : ℕ}
      (hphase : s.phase = .reinserting now)
      (htemp : s.vecTempTickerNode = []) :
      Step s .advance
        { s.setPhase (.loop now) with logicTime := s.logicTime + 1 }

end TickerMgr

/-- A manager created at the given time, and its callers. -/
def tickerSystem (τ : Type*) [DecidableEq τ] (callback : Bool) (time : ℕ) :
    TransitionSystem (TickerMgr τ) (TickerMgr.Label τ) where
  init s := s = TickerMgr.initial callback time
  step := TickerMgr.Step

end RealtimeEx.Base
