import Mathlib.Algebra.Order.Ring.Int
import Mathlib.Algebra.BigOperators.Group.List.Basic
import Mathlib.Logic.Function.Basic
import RealtimeEx.Support.StdContainers

/-!
# Coroutines

A coroutine runs on a stack of its own until it yields or its function returns; a later
`resume` goes on with it.  A finished coroutine leaves the table, and its object is kept in a
list: the next `create` that asks for a stack of about the same size takes the object from
there.

The manager is used on one thread, and `resume` is called on the stack of that thread, not
from inside a coroutine.
-/

namespace RealtimeEx.Core

/-- `ECoroutineState`. -/
inductive ECoroutineState
  | none
  | dead
  | ready
  | running
  | suspend
  deriving DecidableEq

/-- `CCoroutineImpl` without the saved registers and the memory of the stack.  The functions
are numbered.  `nCoroutine` is the call of `create` that the object belongs to; the source
does not store it. -/
structure CCoroutineImpl where
  nID : UInt64
  callback : Option ℕ
  nContext : UInt64 := 0
  eState : ECoroutineState
  mapLocalData : StdMap String UInt64 := ∅
  nStackSize : UInt32
  nCoroutine : ℕ

/-- The page size of the system, a power of two, and the stack size of the configuration. -/
structure StackConfig where
  nPageSize : UInt32
  nCoroutineStackSize : UInt32
  nPageSize_dvd : nPageSize.toNat ∣ 2 ^ 32

/-- `CCoroutineMgr` with the objects that its pointers point to, and the current coroutine of
the thread.  `nObjects` counts the ids that were given out.  The last two say of every
call of `create` what it returned, and of every coroutine the local data that it started
with. -/
structure CCoroutineMgr where
  config : StackConfig
  nTotalStackSize : ℤ := 0
  nNextCoroutineID : UInt64 := 1
  mapCoroutine : StdMap UInt64 ℕ := ∅
  listRecycleCoroutine : List ℕ := []
  pCurrentCoroutine : Option ℕ := none
  objects : ℕ → Option CCoroutineImpl := fun _ => none
  nObjects : ℕ := 0
  listCreated : List UInt64 := []
  listLocalData : List (StdMap String UInt64) := []

/-- `_MIN_CO_STACK`. -/
def minCoStack : UInt32 := 64 * 1024

/-- `_MAX_CO_RECYCLE_COUNT`. -/
def maxCoRecycleCount : ℕ := 100

/-- A stack is made of whole pages. -/
def StackConfig.roundStack (config : StackConfig) (nStackSize : UInt32) : UInt32 :=
  (nStackSize + config.nPageSize - 1) / config.nPageSize * config.nPageSize

/-- The stack of an object can be used for a size that is asked for. -/
def StackConfig.fits (config : StackConfig) (nHave nStackSize : UInt32) : Bool :=
  (nHave.toInt32 - nStackSize.toInt32).abs ≤ (10 * config.nPageSize).toInt32

namespace CCoroutineMgr

variable (mgr : CCoroutineMgr)

/-- An object is written to. -/
def setObject (p : ℕ) (impl : CCoroutineImpl) : CCoroutineMgr :=
  { mgr with objects := Function.update mgr.objects p (some impl) }

/-- `getCoroutine`, with the object. -/
def getCoroutine (nID : UInt64) : Option (ℕ × CCoroutineImpl) := do
  let p ← mgr.mapCoroutine[nID]?
  let impl ← mgr.objects p
  return (p, impl)

/-- The first recycled object whose stack fits. -/
def findRecycled (nStackSize : UInt32) : Option (ℕ × CCoroutineImpl) := do
  let p ← mgr.listRecycleCoroutine.find? fun p =>
    (mgr.objects p).any fun impl => mgr.config.fits impl.nStackSize nStackSize
  let impl ← mgr.objects p
  return (p, impl)

/-- `create` returns. -/
def created (nID : UInt64) : CCoroutineMgr :=
  { mgr with listCreated := mgr.listCreated ++ [nID] }

/-- A recycled object becomes a coroutine again. -/
def reuseCoroutine (p : ℕ) (impl : CCoroutineImpl) (fn : ℕ) : CCoroutineMgr :=
  ({ mgr with
      listRecycleCoroutine := mgr.listRecycleCoroutine.erase p
      mapCoroutine := mgr.mapCoroutine.insert impl.nID p
      nTotalStackSize := mgr.nTotalStackSize + impl.nStackSize.toNat
      listLocalData := mgr.listLocalData ++ [impl.mapLocalData] }.setObject p
    { impl with
      callback := some fn
      eState := .suspend
      nCoroutine := mgr.listCreated.length }).created impl.nID

/-- A new object; `bAlloc` says whether `allocStack` gets its memory.  An object that cannot
be initialized is deleted, and its id is not used again. -/
def newCoroutine (nStackSize : UInt32) (fn : ℕ) (bAlloc : Bool) : CCoroutineMgr :=
  if nStackSize < minCoStack ∨ bAlloc = false then
    { mgr with
      nNextCoroutineID := mgr.nNextCoroutineID + 1
      nObjects := mgr.nObjects + 1 }.created 0
  else
    ({ mgr with
        nNextCoroutineID := mgr.nNextCoroutineID + 1
        nObjects := mgr.nObjects + 1
        mapCoroutine := mgr.mapCoroutine.insert mgr.nNextCoroutineID mgr.nObjects
        nTotalStackSize := mgr.nTotalStackSize + nStackSize.toNat
        listLocalData := mgr.listLocalData ++ [∅] }.setObject mgr.nObjects
      { nID := mgr.nNextCoroutineID
        callback := some fn
        eState := .ready
        nStackSize := mgr.config.roundStack nStackSize
        nCoroutine := mgr.listCreated.length }).created mgr.nNextCoroutineID

/-- The stack size that a call of `create` looks for. -/
def stackSizeFor (nStackSize : UInt32) : UInt32 :=
  mgr.config.roundStack (if nStackSize = 0 then mgr.config.nCoroutineStackSize else nStackSize)

/-- `create` with `createCoroutine`. -/
def create (nStackSize : UInt32) (callback : Option ℕ) (bAlloc : Bool) : CCoroutineMgr :=
  match callback with
  | none => mgr.created 0
  | some fn =>
      match mgr.findRecycled (mgr.stackSizeFor nStackSize) with
      | some (p, impl) => mgr.reuseCoroutine p impl fn
      | none => mgr.newCoroutine (mgr.stackSizeFor nStackSize) fn bAlloc

/-- `resume` up to the switch to the coroutine. -/
def resume (nID nContext : UInt64) : CCoroutineMgr :=
  match mgr.pCurrentCoroutine with
  | some _ => mgr
  | none =>
      match mgr.getCoroutine nID with
      | none => mgr
      | some (p, impl) =>
          if impl.eState = .ready ∨ impl.eState = .suspend then
            { mgr with pCurrentCoroutine := some p }.setObject p
              { impl with eState := .running, nContext }
          else mgr

/-- The object of the coroutine that runs. -/
def currentCoroutine : Option (ℕ × CCoroutineImpl) := do
  let p ← mgr.pCurrentCoroutine
  let impl ← mgr.objects p
  return (p, impl)

/-- `yield`.  The `resume` it goes back to does nothing more. -/
def yield : CCoroutineMgr :=
  match mgr.currentCoroutine with
  | none => mgr
  | some (p, impl) =>
      if impl.eState = .running then
        { mgr with pCurrentCoroutine := none }.setObject p { impl with eState := .suspend }
      else mgr

/-- `addRecycleCoroutine`, and the object is deleted if the list is full. -/
def addRecycleCoroutine (p : ℕ) (impl : CCoroutineImpl) : CCoroutineMgr :=
  let removed := { mgr with
    mapCoroutine := mgr.mapCoroutine.erase impl.nID
    nTotalStackSize := mgr.nTotalStackSize - impl.nStackSize.toNat }
  if maxCoRecycleCount < mgr.listRecycleCoroutine.length then
    { removed with objects := Function.update mgr.objects p none }
  else
    { removed with listRecycleCoroutine := mgr.listRecycleCoroutine ++ [p] }

/-- The function of the current coroutine returns: the end of `onCallback`, and then the
`resume` it goes back to. -/
def finish : CCoroutineMgr :=
  match mgr.currentCoroutine with
  | none => mgr
  | some (p, impl) =>
      ({ mgr with pCurrentCoroutine := none }.setObject p
        { impl with callback := none, eState := .dead }).addRecycleCoroutine p
          { impl with callback := none, eState := .dead }

/-- `getState`. -/
def getState (nID : UInt64) : ECoroutineState :=
  match mgr.getCoroutine nID with
  | none => .dead
  | some (_, impl) => impl.eState

/-- `setLocalData`. -/
def setLocalData (nID : UInt64) (szName : String) (nData : UInt64) : CCoroutineMgr :=
  match mgr.getCoroutine nID with
  | none => mgr
  | some (p, impl) =>
      mgr.setObject p { impl with mapLocalData := impl.mapLocalData.insert szName nData }

/-- `getLocalData`. -/
def getLocalData (nID : UInt64) (szName : String) : Option UInt64 := do
  let (_, impl) ← mgr.getCoroutine nID
  impl.mapLocalData[szName]?

/-- `delLocalData`. -/
def delLocalData (nID : UInt64) (szName : String) : CCoroutineMgr :=
  match mgr.getCoroutine nID with
  | none => mgr
  | some (p, impl) =>
      mgr.setObject p { impl with mapLocalData := impl.mapLocalData.erase szName }

/-- What a program does with coroutines.  `yield` and `finish` are what the coroutine that
runs does. -/
inductive Event
  | create (nStackSize : UInt32) (callback : Option ℕ) (bAlloc : Bool)
  | resume (nID nContext : UInt64)
  | yield
  | finish
  | setLocalData (nID : UInt64) (szName : String) (nData : UInt64)
  | delLocalData (nID : UInt64) (szName : String)

def step : Event → CCoroutineMgr
  | .create nStackSize callback bAlloc => mgr.create nStackSize callback bAlloc
  | .resume nID nContext => mgr.resume nID nContext
  | .yield => mgr.yield
  | .finish => mgr.finish
  | .setLocalData nID szName nData => mgr.setLocalData nID szName nData
  | .delLocalData nID szName => mgr.delLocalData nID szName

/-- The size of the stack of an object. -/
def stackSize (p : ℕ) : ℤ :=
  ((mgr.objects p).map fun impl => (impl.nStackSize.toNat : ℤ)).getD 0

/-- The stacks of the live coroutines together. -/
def liveStackSize : ℤ :=
  (mgr.mapCoroutine.toList.map fun entry => mgr.stackSize entry.2).sum

end CCoroutineMgr

end RealtimeEx.Core
